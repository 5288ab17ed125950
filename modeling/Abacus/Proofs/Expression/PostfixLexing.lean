import Abacus.Expression.Calculation
import Abacus.Proofs.Expression.Terms
import Abacus.Proofs.Outcome
import Mathlib.Data.List.Chain

/-!
# Reading a postfix expression

The slots of the postfix reader (`parse_postfix`, specification §4.2) come to this: a postfix
expression is read as its terms, unless a character is out of place
(`Operators.parse_reversePolish_flawless`). What makes the slots simple is that the character read
last tells what the current slot holds (`Postfix.Holds`): behind a space nothing, behind a digit an
operand, behind a symbol its operator. So no operator ever meets a slot that is taken, although the
specification lets it overwrite one. A slot can be left empty only before the first term, by the
look back from the first character to the last one.

- `Postfix.flaw?`: what is complained about is decided by two characters that are neighbours.
- `Postfix.fill_cases`: reading on from a slot, by induction on the characters.
- `Postfix.fill_first`: how the look back of the first character shows.
- `Postfix.tokens_cases`: what any text is read as.

Whether a symbol starts a new slot depends on the character before it, and before the first
character that is the last one of the text. A text that neither begins with a digit nor ends with a
space thus leaves its first slot empty; an empty slot is complained about only if a later one is
filled, which the last character then sees to.
-/

namespace Abacus
namespace Postfix

variable {ops : Operators}

/-! ## Characters out of place -/

/-- Whether a character ends the term before it and is none of its digits. -/
def EndsTerm (ops : Operators) (c : Char) : Prop :=
  c = ' ' ∨ (operatorAt? ops c).isSome = true

/-- The complaint about a character that follows another one. A digit that directly follows a symbol
would be put to the symbol in its slot; any other digit starts an operand or goes on with one. -/
def flaw? (ops : Operators) (previous c : Char) : Option Complaint :=
  if c.isDigit then
    if (operatorAt? ops previous).isSome then some .operandJoinedToOperator else none
  else if c = ' ' || (operatorAt? ops c).isSome then none
  else some .unallowedCharacter

/-- The first complaint about characters that follow another one. -/
def firstFlaw? (ops : Operators) (previous : Char) : List Char → Option Complaint
  | [] => none
  | c :: cs => flaw? ops previous c <|> firstFlaw? ops c cs

/-- A character is in place if it is a digit, a space or a symbol, and no digit directly behind a
symbol. -/
theorem flaw?_eq_none_iff {previous c : Char} : flaw? ops previous c = none ↔
    (c.isDigit = true ∨ EndsTerm ops c) ∧
      ((operatorAt? ops previous).isSome = true → c.isDigit = false) := by
  unfold flaw? EndsTerm
  cases c.isDigit <;> simp [or_iff_not_imp_left, Option.isSome_iff_ne_none]

/-- No character is out of place if none is foreign and no neighbours are a symbol and a digit. -/
theorem firstFlaw?_eq_none_iff {previous : Char} {cs : List Char} :
    firstFlaw? ops previous cs = none ↔ (∀ c ∈ cs, c.isDigit = true ∨ EndsTerm ops c) ∧
      (previous :: cs).IsChain fun a b =>
        (operatorAt? ops a).isSome = true → b.isDigit = false := by
  induction cs generalizing previous with
  | nil => simp [firstFlaw?]
  | cons c cs ih =>
    rw [firstFlaw?, Option.orElse_eq_none, flaw?_eq_none_iff, ih, List.isChain_cons_cons,
      List.forall_mem_cons]
    tauto

/-- Where there is a complaint, it is about the leftmost character that is out of place. -/
theorem exists_of_firstFlaw? {previous : Char} {cs : List Char} {complaint : Complaint}
    (h : firstFlaw? ops previous cs = some complaint) :
    ∃ before c after, cs = before ++ c :: after ∧ firstFlaw? ops previous before = none ∧
      flaw? ops (before.getLast?.getD previous) c = some complaint := by
  induction cs generalizing previous with
  | nil => cases h
  | cons c cs ih =>
    rw [firstFlaw?] at h
    cases hflaw : flaw? ops previous c with
    | some other =>
      rw [hflaw] at h
      exact ⟨[], c, cs, rfl, rfl, hflaw.trans h⟩
    | none =>
      rw [hflaw] at h
      obtain ⟨before, d, after, rfl, hbefore, hd⟩ := ih h
      refine ⟨c :: before, d, after, rfl, ?_, ?_⟩
      · rw [firstFlaw?, hflaw]
        exact hbefore
      · rw [List.getLast?_cons, Option.getD_some]
        exact hd

/-! ## Slots

The reader fills slots and looks back by one character. What matters of all that is what the current
slot holds, and that is told by the character before (`Holds`). -/

/-- What the current slot holds, given the character read last. This is the invariant of filling:
the character before decides whether the slot is new, holds an operand that can go on, or holds a
symbol. -/
inductive Holds (ops : Operators) : Char → Option Token → Prop where
  | space : Holds ops ' ' none
  | digit {c : Char} (text : String) : c.isDigit = true → Holds ops c (some (.operand text))
  | symbol {c : Char} {op : Operator} :
      operatorAt? ops c = some op → Holds ops c (some (.operator op.symbol))

/-- The terms of characters, the first of which goes on where an operand is in the slot. -/
def termsFrom (ops : Operators) : Option Token → List Char → List Token
  | none, cs => ops.terms cs
  | some (.operand text), cs =>
    .operand (text ++ String.ofList (cs.takeWhile Char.isDigit))
      :: ops.terms (cs.dropWhile Char.isDigit)
  | some (.operator symbol), cs => .operator symbol :: ops.terms cs
  | some (.group symbol), cs => .group symbol :: ops.terms cs

/-- What a space or a symbol writes into its slot. -/
def written (ops : Operators) (c : Char) : Option Token :=
  (operatorAt? ops c).map fun op => .operator op.symbol

theorem termsFrom_nil (token : Token) : termsFrom ops (some token) [] = [token] := by
  cases token <;> simp [termsFrom]

theorem termsFrom_cons {c : Char} (hc : c.isDigit = false) (token : Token) (cs : List Char) :
    termsFrom ops (some token) (c :: cs) = token :: ops.terms (c :: cs) := by
  cases token <;> simp [termsFrom, hc]

/-- A digit behind a space starts an operand. -/
theorem termsFrom_none_cons {c : Char} (hc : c.isDigit = true) (cs : List Char) :
    termsFrom ops none (c :: cs) = termsFrom ops (some (.operand (String.singleton c))) cs := by
  rw [termsFrom, termsFrom, Operators.terms_cons_digit hc, String.singleton_eq_ofList,
    ← String.ofList_append]
  rfl

/-- A digit behind a digit goes on with its operand. -/
theorem termsFrom_operand_cons {c : Char} (hc : c.isDigit = true) (text : String)
    (cs : List Char) : termsFrom ops (some (.operand text)) (c :: cs)
      = termsFrom ops (some (.operand (text.push c))) cs := by
  have htext : text ++ String.ofList (c :: cs.takeWhile Char.isDigit)
      = text.push c ++ String.ofList (cs.takeWhile Char.isDigit) :=
    String.toList_injective (by simp)
  rw [termsFrom, termsFrom, List.takeWhile_cons_of_pos hc, List.dropWhile_cons_of_pos hc, htext]

/-- Empty slots hold no tokens. -/
theorem gather_of_all_isNone {slots : List (Option Token)} (h : slots.all Option.isNone = true) :
    gather slots = .ok [] := by
  match slots with
  | [] => rfl
  | none :: slots => rw [gather, if_pos (by simpa using h)]
  | some token :: slots => simp at h

/-- An empty slot before one that holds a token is complained about. -/
theorem gather_hole {slots : List (Option Token)} {terms : List Token}
    (h : gather slots = .ok terms) (hne : terms ≠ []) :
    gather (none :: slots) = .error .emptyTerm := by
  have hslots : ¬ slots.all Option.isNone = true := fun hall =>
    hne (Except.ok.inj (h.symm.trans (gather_of_all_isNone hall)))
  rw [gather, if_neg hslots]

/-- Whether the first slot is filled, if any is: a digit comes first, or the last character, which
stands in for the one before the first, is a space. Otherwise a space or a symbol at the start goes
on to the second slot and leaves the first one empty (specification §4.2). -/
def FillsFirst (cs : List Char) : Prop :=
  cs = [] ∨ (∃ c ∈ cs.head?, c.isDigit = true) ∨ cs.getLast? = some ' '

/-! ## Characters

One step of the reader for each kind of character, with the terms that it leads to. -/

/-- Behind a space, a space or a symbol stays in the slot. -/
theorem fill_behind_space {c : Char} (hc : EndsTerm ops c) (cs : List Char) :
    fill ops ' ' none (c :: cs) = fill ops c (written ops c) cs := by
  rw [fill, if_pos (by simpa [EndsTerm] using hc), if_pos rfl]
  show fill ops c (written ops c <|> none) cs = _
  cases written ops c <;> rfl

/-- Elsewhere it moves on to the next slot. -/
theorem fill_behind {previous c : Char} (hprevious : previous ≠ ' ') (hc : EndsTerm ops c)
    (slot : Option Token) (cs : List Char) :
    fill ops previous slot (c :: cs) = (fill ops c (written ops c) cs).map (slot :: ·) := by
  rw [fill, if_pos (by simpa [EndsTerm] using hc), if_neg hprevious]
  show (fill ops c (written ops c) cs).bind (fun later => .ok (slot :: later)) = _
  cases fill ops c (written ops c) cs <;> rfl

theorem fill_foreign {c : Char} (hdigit : c.isDigit = false)
    (hc : ¬ EndsTerm ops c) (previous : Char) (slot : Option Token)
    (cs : List Char) : fill ops previous slot (c :: cs) = .error .unallowedCharacter := by
  rw [fill, if_neg (by simpa [EndsTerm] using hc), if_neg (by simp [hdigit])]
  rfl

theorem flaw?_digit {c : Char} (hc : c.isDigit = true) {previous : Char}
    (hprevious : operatorAt? ops previous = none) : flaw? ops previous c = none := by
  simp [flaw?, hc, hprevious]

theorem flaw?_joined {c : Char} (hc : c.isDigit = true) {previous : Char} {op : Operator}
    (hprevious : operatorAt? ops previous = some op) :
    flaw? ops previous c = some .operandJoinedToOperator := by
  simp [flaw?, hc, hprevious]

theorem flaw?_foreign {c : Char} (hdigit : c.isDigit = false)
    (hc : ¬ EndsTerm ops c) (previous : Char) :
    flaw? ops previous c = some .unallowedCharacter := by
  rw [flaw?, if_neg (by simp [hdigit]), if_neg (by simpa [EndsTerm] using hc)]

section
variable (hops : ops.SingleCharacter [' '])
include hops

theorem operatorAt?_space : operatorAt? ops ' ' = none :=
  hops.find?_eq_none (.inr (by simp))

theorem operatorAt?_digit {c : Char} (hc : c.isDigit = true) : operatorAt? ops c = none :=
  hops.find?_eq_none (.inl hc)

theorem fill_digit {c : Char} (hc : c.isDigit = true) (previous : Char) (slot : Option Token)
    (cs : List Char) :
    fill ops previous slot (c :: cs)
      = (addDigit c slot).bind fun token => fill ops c (some token) cs := by
  have hspace : c ≠ ' ' := ne_of_isDigit hc rfl
  rw [fill]
  simp [operatorAt?_digit hops hc, hspace, hc, bind]

/-- What ends a term is no digit. -/
theorem isDigit_eq_false {c : Char} (hc : EndsTerm ops c) :
    c.isDigit = false := by
  rcases hc with rfl | hc
  · rfl
  · rw [Bool.eq_false_iff]
    intro hdigit
    rw [operatorAt?_digit hops hdigit] at hc
    cases hc

theorem flaw?_of_endsTerm {c : Char} (hc : EndsTerm ops c) (previous : Char) :
    flaw? ops previous c = none := by
  rw [flaw?, if_neg (by simp [isDigit_eq_false hops hc]), if_pos (by simpa [EndsTerm] using hc)]

omit hops in
/-- What the slot holds then is told by that character. -/
theorem holds_written {c : Char} (hc : EndsTerm ops c) :
    Holds ops c (written ops c) := by
  rw [written]
  cases hop : operatorAt? ops c with
  | none =>
    obtain rfl : c = ' ' := by simpa [EndsTerm, hop] using hc
    exact .space
  | some op => exact .symbol hop

theorem terms_cons_endsTerm {c : Char} (hc : EndsTerm ops c) (cs : List Char) :
    ops.terms (c :: cs) = termsFrom ops (written ops c) cs := by
  have hdigit := isDigit_eq_false hops hc
  rw [written]
  cases hop : operatorAt? ops c with
  | none => exact Operators.terms_cons_skipped hdigit hop cs
  | some op => exact Operators.terms_cons_symbol hdigit hop cs

/-- A slot that holds a token was not left by a space. -/
theorem Holds.ne_space {previous : Char} {token : Token} (h : Holds ops previous (some token)) :
    previous ≠ ' ' := by
  rintro rfl
  cases h with
  | digit text hdigit => cases hdigit
  | symbol hop =>
    rw [operatorAt?_space hops] at hop
    cases hop

/-! ## All characters

The steps put together. The first character is a case of its own: what stands for the character
before it is the last one of the expression (specification §4.2). -/

/-- **Reading on from a slot**: the first character out of place is complained about; if there is
none, the slots hold the terms. By induction on the characters, with any slot that is being filled
and any character before them. -/
theorem fill_cases {previous : Char} {slot : Option Token} (h : Holds ops previous slot)
    (cs : List Char) :
    (∃ complaint, firstFlaw? ops previous cs = some complaint ∧
      fill ops previous slot cs = .error complaint) ∨
    (firstFlaw? ops previous cs = none ∧ ∃ slots, fill ops previous slot cs = .ok slots ∧
      gather slots = .ok (termsFrom ops slot cs)) := by
  -- the invariant is `Holds`: it is what the next character finds in the slot
  induction cs generalizing previous slot with
  | nil =>
    refine .inr ⟨rfl, [slot], rfl, ?_⟩
    cases slot with
    | none => simp [gather, termsFrom]
    | some token =>
      rw [termsFrom_nil]
      rfl
  | cons c cs ih =>
    rw [firstFlaw?]
    by_cases hdigit : c.isDigit = true
    · -- a digit starts an operand or adds to it, but cannot follow a symbol
      rw [fill_digit hops hdigit]
      cases h with
      | space =>
        rw [flaw?_digit hdigit (operatorAt?_space hops)]
        rw [termsFrom_none_cons hdigit]
        exact ih (.digit _ hdigit)
      | digit text hprevious =>
        rw [flaw?_digit hdigit (operatorAt?_digit hops hprevious)]
        rw [termsFrom_operand_cons hdigit]
        exact ih (.digit _ hdigit)
      | symbol hop => exact .inl ⟨_, by rw [flaw?_joined hdigit hop]; rfl, rfl⟩
    · rw [Bool.not_eq_true] at hdigit
      by_cases hc : EndsTerm ops c
      · -- a space or a symbol ends what the slot holds
        rw [flaw?_of_endsTerm hops hc]
        have hnext := ih (holds_written hc)
        cases slot with
        | none =>
          cases h
          rw [fill_behind_space hc, termsFrom, terms_cons_endsTerm hops hc]
          exact hnext
        | some token =>
          rw [fill_behind (h.ne_space hops) hc, termsFrom_cons hdigit, terms_cons_endsTerm hops hc]
          rcases hnext with ⟨complaint, hflaw, hfill⟩ | ⟨hflaw, slots, hfill, hgather⟩
          · exact .inl ⟨complaint, hflaw, by rw [hfill]; rfl⟩
          · refine .inr ⟨hflaw, some token :: slots, by rw [hfill]; rfl, ?_⟩
            rw [gather, hgather]
            rfl
      · exact .inl ⟨_, by rw [flaw?_foreign hdigit hc]; rfl, fill_foreign hdigit hc _ _ _⟩

/-- The first slot is filled or no slot is: a digit comes first, or what stands in for a space
before the first character is one. -/
theorem fill_first {cs : List Char} (h : FillsFirst cs) :
    fill ops (cs.getLast?.getD ' ') none cs = fill ops ' ' none cs := by
  rcases h with rfl | ⟨c, hhead, hdigit⟩ | hlast
  · rfl
  · match cs, hhead with
    | c :: cs, rfl => rw [fill_digit hops hdigit, fill_digit hops hdigit]
  · rw [hlast]
    rfl

/-- **What a postfix expression is read as**: its terms, unless a character is out of place or the
first slot is left empty. -/
theorem tokens_cases (cs : List Char) :
    (∃ complaint, firstFlaw? ops ' ' cs = some complaint ∧ tokens ops cs = .error complaint) ∨
    (firstFlaw? ops ' ' cs = none ∧
      (FillsFirst cs ∧ tokens ops cs = .ok (ops.terms cs) ∨
        ¬ FillsFirst cs ∧ tokens ops cs = .error .emptyTerm)) := by
  by_cases hfirst : FillsFirst cs
  · rw [tokens, fill_first hops hfirst]
    rcases fill_cases hops .space cs with ⟨complaint, hflaw, hfill⟩ | ⟨hflaw, slots, hfill, hgather⟩
    · exact .inl ⟨complaint, hflaw, by rw [hfill]; rfl⟩
    · exact .inr ⟨hflaw, .inl ⟨hfirst, by rw [hfill]; exact hgather⟩⟩
  -- neither a digit in front nor a space at the end
  · obtain ⟨hne, hhead, hlast⟩ := not_or.mp hfirst |>.imp_right not_or.mp
    cases cs with
    | nil => exact absurd rfl hne
    | cons c cs =>
      have hdigit : c.isDigit = false := by simpa using hhead
      obtain ⟨last, hlast?⟩ : ∃ last, (c :: cs).getLast? = some last := ⟨_, List.getLast?_cons⟩
      have hspace : last ≠ ' ' := by
        rintro rfl
        exact hlast hlast?
      rw [tokens, hlast?, Option.getD_some, firstFlaw?]
      by_cases hc : EndsTerm ops c
      · rw [flaw?_of_endsTerm hops hc, fill_behind hspace hc]
        rcases fill_cases hops (holds_written hc) cs with
          ⟨complaint, hflaw, hfill⟩ | ⟨hflaw, slots, hfill, hgather⟩
        · exact .inl ⟨complaint, hflaw, by rw [hfill]; rfl⟩
        · -- the last character is one of a term, so that some slot behind the empty one is filled
          have hadmitted := List.forall_mem_cons.mpr
            ⟨.inr hc, (firstFlaw?_eq_none_iff.mp hflaw).1⟩
          have hmem := List.mem_of_getLast? hlast?
          have hne : ops.terms (c :: cs) ≠ [] :=
            Operators.terms_ne_nil hmem ((hadmitted last hmem).imp_right (·.resolve_left hspace))
          rw [terms_cons_endsTerm hops hc] at hne
          refine .inr ⟨hflaw, .inr ⟨hfirst, ?_⟩⟩
          rw [hfill]
          exact gather_hole hgather hne
      · rw [flaw?_foreign hdigit hc, fill_foreign hdigit hc]
        exact .inl ⟨_, rfl, rfl⟩

end

/-! ## Whole expressions -/

/-- Characters of which none is out of place: they are digits, spaces and symbols, and no digit
directly follows a symbol. -/
structure IsFlawless (ops : Operators) (cs : List Char) : Prop where
  admitted : ∀ c ∈ cs, c.isDigit = true ∨ c = ' ' ∨ ops.contains (String.singleton c) = true
  apart : cs.IsChain fun a b => ops.contains (String.singleton a) = true → b.isDigit = false

/-- Whether a character has no place in any postfix expression. -/
def IsForeign (ops : Operators) (c : Char) : Prop :=
  c.isDigit = false ∧ c ≠ ' ' ∧ ops.contains (String.singleton c) = false

/-- Whether a character that follows `before` is a digit directly behind a symbol. -/
def IsJoined (ops : Operators) (before : List Char) (c : Char) : Prop :=
  c.isDigit = true ∧ ∃ a ∈ before.getLast?, ops.contains (String.singleton a) = true

section
variable (hops : ops.SingleCharacter [' '])
include hops

/-- Nothing is complained about if and only if no character is out of place. Before the first
character there is nothing that it could be joined to. -/
theorem firstFlaw?_space_eq_none_iff {cs : List Char} :
    firstFlaw? ops ' ' cs = none ↔ IsFlawless ops cs := by
  have hspace : ¬ (operatorAt? ops ' ').isSome = true := by simp [operatorAt?_space hops]
  rw [firstFlaw?_eq_none_iff, List.isChain_cons]
  constructor
  · rintro ⟨hadmitted, -, hchain⟩
    exact ⟨hadmitted, hchain⟩
  · rintro ⟨hadmitted, hchain⟩
    exact ⟨hadmitted, fun _ _ h => absurd h hspace, hchain⟩

/-- A complaint is about a foreign character or about one that is joined to a symbol. -/
theorem flaw?_cases {before : List Char} {c : Char} {complaint : Complaint}
    (h : flaw? ops (before.getLast?.getD ' ') c = some complaint) :
    IsForeign ops c ∧ complaint = .unallowedCharacter ∨
      IsJoined ops before c ∧ complaint = .operandJoinedToOperator := by
  unfold flaw? at h
  split at h
  · next hdigit =>
    split at h
    · next hsymbol =>
      refine .inr ⟨⟨hdigit, ?_⟩, (Option.some.inj h).symm⟩
      cases hlast : before.getLast? with
      | none => simp [hlast, operatorAt?_space hops] at hsymbol
      | some a =>
        rw [hlast] at hsymbol
        exact ⟨a, rfl, hsymbol⟩
    · cases h
  · next hdigit =>
    split at h
    · cases h
    · next hends =>
      obtain ⟨hspace, hsymbol⟩ : c ≠ ' ' ∧ operatorAt? ops c = none := by simpa using hends
      refine .inl ⟨⟨Bool.eq_false_iff.mpr hdigit, hspace, ?_⟩, (Option.some.inj h).symm⟩
      exact Option.isSome_eq_false_iff.mpr (Option.isNone_iff_eq_none.mpr hsymbol)

/-- An expression has a plan if and only if no character is out of place and the first slot is
filled; the plan then consists of the terms. -/
theorem tokens_eq_ok_iff {cs : List Char} {plan : List Token} :
    tokens ops cs = .ok plan ↔ IsFlawless ops cs ∧ FillsFirst cs ∧ plan = ops.terms cs := by
  rw [← firstFlaw?_space_eq_none_iff hops]
  rcases tokens_cases hops cs with ⟨complaint, hflaw, htokens⟩ |
    ⟨hflaw, ⟨hfirst, htokens⟩ | ⟨hfirst, htokens⟩⟩
  · simp [hflaw, htokens]
  · simp [hflaw, hfirst, htokens, eq_comm]
  · simp [hflaw, hfirst, htokens]

/-- What is complained about: the leftmost character that is out of place, or else the first
slot. -/
theorem cases_of_tokens_eq_error {cs : List Char} {complaint : Complaint}
    (h : tokens ops cs = .error complaint) :
    (∃ before c after, cs = before ++ c :: after ∧ IsFlawless ops before ∧
      (IsForeign ops c ∧ complaint = .unallowedCharacter ∨
        IsJoined ops before c ∧ complaint = .operandJoinedToOperator)) ∨
    IsFlawless ops cs ∧ complaint = .emptyTerm := by
  rcases tokens_cases hops cs with ⟨other, hflaw, htokens⟩ |
    ⟨hflaw, ⟨-, htokens⟩ | ⟨-, htokens⟩⟩
  · obtain rfl := Except.error.inj (htokens.symm.trans h)
    obtain ⟨before, c, after, hcs, hbefore, hc⟩ := exists_of_firstFlaw? hflaw
    exact .inl ⟨before, c, after, hcs, (firstFlaw?_space_eq_none_iff hops).mp hbefore,
      flaw?_cases hops hc⟩
  · cases htokens.symm.trans h
  · obtain rfl := Except.error.inj (htokens.symm.trans h)
    exact .inr ⟨(firstFlaw?_space_eq_none_iff hops).mp hflaw, rfl⟩

end
end Postfix

namespace Operators

variable {ops : Operators}

/-- **The postfix reader is a lexer**: an expression is accepted if and only if its characters are
digits, spaces and symbols, no digit directly follows a symbol, and it is empty, begins with a digit
or ends with a space. Its plan are its terms. Otherwise the complaint is about the leftmost
character that is out of place, or, where there is none, about an empty term. -/
theorem parse_reversePolish_flawless (hops : ops.SingleCharacter [' ']) (s : String) :
    ((∃ plan, ops.parse .reversePolish s = .ok plan) ↔
      Postfix.IsFlawless ops s.toList ∧
        (s = "" ∨ (∃ c ∈ s.toList.head?, c.isDigit = true) ∨ s.toList.getLast? = some ' ')) ∧
    (∀ plan, ops.parse .reversePolish s = .ok plan → plan.tokens = ops.terms s.toList) ∧
    ∀ e, ops.parse .reversePolish s = .error e → e.expression = s ∧
      ((∃ before c after, s.toList = before ++ c :: after ∧ Postfix.IsFlawless ops before ∧
        (Postfix.IsForeign ops c ∧
            e.complaint.detail = "Unallowed character in expression" ∨
          Postfix.IsJoined ops before c ∧
            e.complaint.detail = "Operand joined to operator in expression")) ∨
      Postfix.IsFlawless ops s.toList ∧ e.complaint.detail = "Empty term in expression") := by
  have hempty : s = "" ↔ s.toList = [] := String.toList_eq_nil_iff.symm
  have hparse : ops.parse .reversePolish s
      = ((Postfix.tokens ops s.toList).map Plan.mk).mapError (⟨·, s⟩) := rfl
  rw [hparse, hempty]
  refine ⟨⟨?_, ?_⟩, ?_, ?_⟩
  · rintro ⟨plan, hplan⟩
    obtain ⟨tokens, htokens, -⟩ := Outcome.map_eq_ok (Outcome.mapError_eq_ok hplan)
    obtain ⟨hflawless, hfirst, -⟩ := (Postfix.tokens_eq_ok_iff hops).mp htokens
    exact ⟨hflawless, hfirst⟩
  · rintro ⟨hflawless, hfirst⟩
    rw [(Postfix.tokens_eq_ok_iff hops).mpr ⟨hflawless, hfirst, rfl⟩]
    exact ⟨_, rfl⟩
  · intro plan hplan
    obtain ⟨tokens, htokens, rfl⟩ := Outcome.map_eq_ok (Outcome.mapError_eq_ok hplan)
    exact ((Postfix.tokens_eq_ok_iff hops).mp htokens).2.2
  · intro e he
    obtain ⟨complaint, hcomplaint, rfl⟩ := Outcome.mapError_eq_error he
    refine ⟨rfl, ?_⟩
    rcases Postfix.cases_of_tokens_eq_error hops (Outcome.map_eq_error hcomplaint) with
      ⟨before, c, after, hcs, hbefore, ⟨hc, rfl⟩ | ⟨hc, rfl⟩⟩ | ⟨hflawless, rfl⟩
    · exact .inl ⟨before, c, after, hcs, hbefore, .inl ⟨hc, rfl⟩⟩
    · exact .inl ⟨before, c, after, hcs, hbefore, .inr ⟨hc, rfl⟩⟩
    · exact .inr ⟨hflawless, rfl⟩

/-- Symbols that directly follow an operand, and a digit that directly follows a symbol. -/
theorem parse_reversePolish_flawless_glued :
    basic.SingleCharacter [' '] ∧
    basic.parse .reversePolish "12 4+ 3*" = .ok ⟨[.operand "12", .operand "4", .operator "+",
      .operand "3", .operator "*"]⟩ ∧
    basic.terms "12 4+ 3*".toList = [.operand "12", .operand "4", .operator "+", .operand "3",
      .operator "*"] ∧
    basic.parse .reversePolish "1 +2" = .error ⟨.operandJoinedToOperator, "1 +2"⟩ ∧
    ∃ before c after, "1 +2".toList = before ++ c :: after ∧ Postfix.IsFlawless basic before ∧
      Postfix.IsJoined basic before c := by
  have hops : basic.SingleCharacter [' '] := basic_singleCharacter.mono (by simp)
  have hplan : basic.parse .reversePolish "12 4+ 3*" = .ok ⟨[.operand "12", .operand "4",
    .operator "+", .operand "3", .operator "*"]⟩ := rfl
  have hjoined : basic.parse .reversePolish "1 +2" = .error ⟨.operandJoinedToOperator, "1 +2"⟩ :=
    rfl
  refine ⟨hops, hplan, ((parse_reversePolish_flawless hops _).2.1 _ hplan).symm, hjoined, ?_⟩
  obtain ⟨-, ⟨before, c, after, hcs, hbefore, ⟨-, hdetail⟩ | ⟨hc, -⟩⟩ | ⟨-, hdetail⟩⟩ :=
    (parse_reversePolish_flawless hops _).2.2 _ hjoined
  · exact absurd hdetail (by decide)
  · exact ⟨before, c, after, hcs, hbefore, hc⟩
  · exact absurd hdetail (by decide)

end Operators
end Abacus
