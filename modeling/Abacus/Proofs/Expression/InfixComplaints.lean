import Abacus.Expression.Calculation
import Abacus.Proofs.Expression.Pieces
import Abacus.Proofs.Text.Parentheses

/-!
# Complaints about infix expressions

Two things in a text cannot be read: a run of characters that is no operand, and a parenthesis that
closes nothing (`Infix.step_eq_error`). These are the two complaints of the specification (§4.1 and
decision O1 of §9); whatever else is wrong with a text is left to its reduction.

The reader never counts parentheses; it notices such a parenthesis because nothing pends that it
could close. But what pends has a place for each parenthesis that is open, so that is the first
parenthesis up to which more are closed than opened (`Infix.isExcess_of_read`,
`Infix.not_isExcess_of_read`). Which of the two complaints is made is decided by what comes first:

- `Infix.exists_of_read_eq_error`: reading stops at the first lexeme that is refused.
- `Infix.exists_of_lexed_foreign`, `Infix.exists_of_lexed_closing`: where that lexeme stands in the
  text.
- `Infix.read_lexed_cases`: what becomes of a text.
- `Operators.parse_algebraic_legal`: the same for the operators of the specification, by what the
  complaint says.
-/

namespace Abacus
namespace Infix

open Text (Exceeds IsExcess)

/-! ## Illegal runs -/

/-- Whether a run of characters that are no marks starts behind `before`, and not all of them are
digits. The marks are the operators and the parentheses. -/
def IsIllegal (marks cs before : List Char) : Prop :=
  ∃ run after, cs = before ++ (run ++ after) ∧ IsRun marks before run after ∧
    run.all Char.isDigit = false

/-- Whether an illegal run comes before all parentheses in excess. -/
def IllegalFirst (marks cs : List Char) : Prop :=
  ∃ illegal, IsIllegal marks cs illegal ∧
    ∀ excess, IsExcess cs excess → illegal.length < excess.length

/-- Whether a parenthesis in excess comes before all illegal runs. -/
def ExcessFirst (marks cs : List Char) : Prop :=
  ∃ excess, IsExcess cs excess ∧
    ∀ illegal, IsIllegal marks cs illegal → excess.length < illegal.length

theorem IllegalFirst.not_excessFirst {marks cs : List Char} (h : IllegalFirst marks cs) :
    ¬ ExcessFirst marks cs := by
  obtain ⟨illegal, hillegal, hfirst⟩ := h
  rintro ⟨excess, hexcess, hother⟩
  exact lt_asymm (hfirst excess hexcess) (hother illegal hillegal)

/-- A run that starts in front of a mark lies in front of it. -/
theorem IsIllegal.of_append {marks xs ys before : List Char} {d : Char} (hd : d ∈ marks)
    (h : IsIllegal marks (xs ++ d :: ys) before) (hle : before.length ≤ xs.length) :
    IsIllegal marks xs before := by
  obtain ⟨run, after, hcs, hrun, hdigits⟩ := h
  have hbefore : before <+: xs ++ d :: ys := hcs ▸ List.prefix_append before _
  obtain ⟨middle, rfl⟩ := List.prefix_of_prefix_length_le hbefore (List.prefix_append _ _) hle
  rw [List.append_assoc] at hcs
  rcases List.append_eq_append_iff.mp (List.append_cancel_left hcs) with
    ⟨inner, rfl, hafter⟩ | ⟨inner, rfl, rfl⟩
  · -- the mark would be one of the characters of the run, unless it follows directly
    cases inner with
    | nil =>
      rw [List.append_nil] at hrun hdigits
      exact ⟨middle, [], by rw [List.append_nil],
        ⟨hrun.ne_nil, hrun.unmarked, hrun.starts, by simp⟩, hdigits⟩
    | cons b inner =>
      obtain ⟨rfl, -⟩ := List.cons.inj hafter
      exact absurd hd (hrun.unmarked d (by simp))
  -- the run ends before the mark, so it is one of the part in front of it
  · refine ⟨run, inner, rfl, ⟨hrun.ne_nil, hrun.unmarked, hrun.starts, fun c hc => ?_⟩, hdigits⟩
    exact hrun.ends c (List.mem_head?_append_of_mem_head? hc)

/-- No mark stands where an illegal run starts. -/
theorem IsIllegal.not_prefix {marks cs before : List Char} (h : IsIllegal marks cs before)
    {d : Char} (hd : d ∈ marks) : ¬ before ++ [d] <+: cs := by
  obtain ⟨run, after, rfl, hrun, -⟩ := h
  rintro ⟨rest, hrest⟩
  rw [List.append_assoc] at hrest
  obtain ⟨c, run, rfl⟩ := List.exists_cons_of_ne_nil hrun.ne_nil
  obtain ⟨rfl, -⟩ := List.cons.inj (List.append_cancel_left hrest)
  exact hrun.unmarked d List.mem_cons_self hd

/-- An illegal run cannot be read. -/
theorem IsIllegal.foreign_mem {ops : Operators} {cs before : List Char}
    (h : IsIllegal (delimiters ops) cs before) : .foreign ∈ lexed ops cs := by
  obtain ⟨run, after, rfl, hrun, hdigits⟩ := h
  have hpiece := ofPiece_run hrun.ne_nil hrun.unmarked
  rw [hdigits] at hpiece
  rw [lexed_append_run hrun, hpiece]
  exact List.mem_append_right _ List.mem_cons_self

/-! ## Lexemes that are refused -/

/-- Reading stops at the first lexeme that is refused. -/
theorem exists_of_read_eq_error {pending : List Pending} {xs : List Lexeme} {complaint : Complaint}
    (h : read pending xs = .error complaint) :
    ∃ before x after emitted middle, xs = before ++ x :: after ∧
      read pending before = .ok (emitted, middle) ∧ step middle x = .error complaint := by
  -- what pends changes with every lexeme that is read
  induction xs generalizing pending with
  | nil => cases h
  | cons x rest ih =>
    rcases Outcome.bind_eq_error h with hstep | ⟨⟨first, next⟩, hstep, h⟩
    · exact ⟨[], x, rest, [], pending, rfl, rfl, hstep⟩
    · rcases Outcome.bind_eq_error h with hread | ⟨⟨later, last⟩, -, h⟩
      · obtain ⟨before, y, after, emitted, middle, rfl, hbefore, hy⟩ := ih hread
        refine ⟨x :: before, y, after, first ++ emitted, middle, rfl, ?_, hy⟩
        rw [read, hstep]
        change (read next before).bind _ = _
        rw [hbefore]
        rfl
      · cases h

/-- Why a lexeme is refused: it has no place in an expression, or it closes a parenthesis where none
is open. -/
theorem step_eq_error {pending : List Pending} {lexeme : Lexeme} {complaint : Complaint}
    (h : step pending lexeme = .error complaint) :
    (lexeme = .foreign ∧ complaint = .unallowedCharacter) ∨
    (lexeme = .closing ∧ complaint = .unbalancedParenthesis ∧
      ∀ p ∈ pending, p.isOpened = false) := by
  cases lexeme with
  | operand text => cases h
  | operator op => cases h
  | opening => cases h
  | closing =>
    simp only [step] at h
    split at h
    · next hdrop =>
      cases h
      refine .inr ⟨rfl, rfl, fun p hp => ?_⟩
      simpa using List.dropWhile_eq_nil_iff.mp hdrop p hp
    · cases h
  | foreign =>
    cases h
    exact .inl ⟨rfl, rfl⟩

section
variable {ops : Operators} (hops : ops.SingleCharacter ['(', ')'])
include hops

/-! ## Where they stand in the text

Complaints are about lexemes, and the condition to be proved is about places in the text. A foreign
lexeme stems from an illegal run, and a closing parenthesis too many from one in excess. -/

/-- A closing parenthesis among the lexemes is one in the text. -/
theorem exists_of_lexed_closing {cs : List Char} {xs ys : List Lexeme}
    (h : lexed ops cs = xs ++ .closing :: ys) :
    ∃ before after, cs = before ++ ')' :: after ∧ lexed ops before = xs := by
  obtain ⟨before, piece, after, rfl, hbefore, hpiece, ⟨d, hd, rfl⟩ | hrun⟩ := exists_of_lexed h
  · rcases ofPiece_delimiter hops hd with ⟨op, -, -, -, hd⟩ | ⟨rfl, hd⟩ | ⟨rfl, hd⟩
    · cases hpiece.symm.trans hd
    · cases hpiece.symm.trans hd
    · exact ⟨before, after, rfl, hbefore⟩
  · rw [ofPiece_run hrun.ne_nil hrun.unmarked] at hpiece
    split at hpiece <;> cases hpiece

/-- A foreign lexeme is an illegal run in the text. -/
theorem exists_of_lexed_foreign {cs : List Char} {xs ys : List Lexeme}
    (h : lexed ops cs = xs ++ .foreign :: ys) :
    ∃ before, IsIllegal (delimiters ops) cs before ∧ lexed ops before = xs := by
  obtain ⟨before, piece, after, rfl, hbefore, hpiece, ⟨d, hd, rfl⟩ | hrun⟩ := exists_of_lexed h
  · rcases ofPiece_delimiter hops hd with ⟨op, -, -, -, hd⟩ | ⟨rfl, hd⟩ | ⟨rfl, hd⟩ <;>
      cases hpiece.symm.trans hd
  · rw [ofPiece_run hrun.ne_nil hrun.unmarked] at hpiece
    split at hpiece
    · cases hpiece
    · next hdigits =>
      exact ⟨before, ⟨piece, after, rfl, hrun, Bool.eq_false_iff.mpr hdigits⟩, hbefore⟩

/-- In a text that is read no parenthesis is in excess. -/
theorem not_isExcess_of_read {cs : List Char} {result : List Token × List Pending}
    (h : read [] (lexed ops cs) = .ok result) (before : List Char) : ¬ IsExcess cs before := by
  intro hexcess
  obtain ⟨after, rfl⟩ := hexcess.closes
  have hlast : ∀ c ∈ (before ++ [')']).getLast?, c ∈ delimiters ops := by
    simpa using closing_mem_delimiters ops
  rw [lexed_append (.inl hlast), read_append] at h
  obtain ⟨⟨emitted, final⟩, hread, -⟩ := Outcome.bind_eq_ok h
  have hcount := openings_of_read_lexed hops hread
  have hexceeds := hexcess.exceeds
  unfold Exceeds at hexceeds
  omega

/-- Where the part in front of an illegal run is read, no parenthesis is in excess before it. -/
theorem IsIllegal.length_lt {cs before excess : List Char}
    (h : IsIllegal (delimiters ops) cs before) {result : List Token × List Pending}
    (hread : read [] (lexed ops before) = .ok result) (hexcess : IsExcess cs excess) :
    before.length < excess.length := by
  have hbefore : before <+: cs := by
    obtain ⟨run, after, rfl, -⟩ := h
    exact List.prefix_append before _
  have hle : before.length ≤ excess.length := Nat.not_lt.mp fun hlt =>
    not_isExcess_of_read hops hread excess (hexcess.of_length_lt hbefore hlt)
  -- a run does not start with a parenthesis
  refine Nat.lt_of_le_of_ne hle fun heq => ?_
  have hbegins := (List.prefix_append excess [')']).trans hexcess.closes
  obtain rfl := (List.prefix_of_prefix_length_le hbefore hbegins hle).eq_of_length heq
  exact h.not_prefix (closing_mem_delimiters ops) hexcess.closes

/-- Where the part in front of a closing parenthesis is read and nothing is open behind it, the
parenthesis is in excess. -/
theorem isExcess_of_read {before after : List Char} {emitted : List Token} {final : List Pending}
    (hread : read [] (lexed ops before) = .ok (emitted, final))
    (hfinal : ∀ p ∈ final, p.isOpened = false) : IsExcess (before ++ ')' :: after) before where
  closes := ⟨after, by simp⟩
  exceeds := by
    have hcount := openings_of_read_lexed hops hread
    rw [countP_isOpened_eq_zero hfinal] at hcount
    simp [Exceeds, ← hcount]
  first := by
    intro earlier hearlier hexceeds
    obtain ⟨part, hpart⟩ := Text.exists_isExcess hearlier hexceeds
    exact not_isExcess_of_read hops hread part hpart

/-! ## Whole texts -/

/-- **What becomes of a text**: it is read, or the complaint is about what comes first, an illegal
run or a parenthesis in excess. -/
theorem read_lexed_cases (cs : List Char) :
    (∃ result, read [] (lexed ops cs) = .ok result ∧
      (∀ before, ¬ IsIllegal (delimiters ops) cs before) ∧ ∀ before, ¬ IsExcess cs before) ∨
    (read [] (lexed ops cs) = .error .unallowedCharacter ∧ IllegalFirst (delimiters ops) cs) ∨
    (read [] (lexed ops cs) = .error .unbalancedParenthesis ∧ ExcessFirst (delimiters ops) cs) := by
  cases h : read [] (lexed ops cs) with
  | ok result =>
    refine .inl ⟨result, rfl, fun before hillegal => ?_, not_isExcess_of_read hops h⟩
    exact foreign_notMem_of_read h hillegal.foreign_mem
  | error complaint =>
    obtain ⟨xs, x, ys, emitted, middle, hlexed, hread, hstep⟩ := exists_of_read_eq_error h
    rcases step_eq_error hstep with ⟨rfl, rfl⟩ | ⟨rfl, rfl, hmiddle⟩
    · obtain ⟨illegal, hillegal, rfl⟩ := exists_of_lexed_foreign hops hlexed
      exact .inr (.inl ⟨rfl, illegal, hillegal, fun excess => hillegal.length_lt hops hread⟩)
    · obtain ⟨excess, after, rfl, rfl⟩ := exists_of_lexed_closing hops hlexed
      refine .inr (.inr ⟨rfl, excess, isExcess_of_read hops hread hmiddle, ?_⟩)
      intro illegal hillegal
      by_contra hlt
      have hinside := hillegal.of_append (closing_mem_delimiters ops) (Nat.not_lt.mp hlt)
      exact foreign_notMem_of_read hread hinside.foreign_mem

end
end Infix

namespace Operators

open Infix (IsIllegal IllegalFirst ExcessFirst)
open Text (IsExcess)

/-- What becomes of an infix expression over the basic operators. -/
theorem parse_algebraic_cases (s : String) :
    (∃ plan, basic.parse .algebraic s = .ok plan ∧
      (∀ before, ¬ IsIllegal "-+/*()".toList s.toList before) ∧
        ∀ before, ¬ IsExcess s.toList before) ∨
    (basic.parse .algebraic s = .error ⟨.unallowedCharacter, s⟩ ∧
      IllegalFirst "-+/*()".toList s.toList) ∨
    (basic.parse .algebraic s = .error ⟨.unbalancedParenthesis, s⟩ ∧
      ExcessFirst "-+/*()".toList s.toList) := by
  have hmarks : "-+/*()".toList = Infix.delimiters basic := rfl
  have hops : basic.SingleCharacter ['(', ')'] := basic_singleCharacter.mono (by simp)
  have hparse : basic.parse .algebraic s = ((((Infix.read [] (Infix.lexed basic s.toList)).bind
      fun r => .ok (r.1 ++ r.2.map Infix.Pending.token)).map Plan.mk).mapError (⟨·, s⟩)) := rfl
  rw [hmarks, hparse]
  rcases Infix.read_lexed_cases hops s.toList with ⟨result, hread, hlegal⟩ |
    ⟨hread, hfirst⟩ | ⟨hread, hfirst⟩
  · rw [hread]
    exact .inl ⟨_, rfl, hlegal⟩
  · rw [hread]
    exact .inr (.inl ⟨rfl, hfirst⟩)
  · rw [hread]
    exact .inr (.inr ⟨rfl, hfirst⟩)

/-- **When an infix expression is refused**, and with which complaint: it has a plan if and only if
no run of characters other than operators and parentheses is illegal and no parenthesis is in excess
(specification §4.1 and decision O1). The complaint is about a character if an illegal run comes
first, and about parentheses if one in excess does. -/
theorem parse_algebraic_legal (s : String) :
    ((∃ plan, basic.parse .algebraic s = .ok plan) ↔
      (∀ before, ¬ IsIllegal "-+/*()".toList s.toList before) ∧
        ∀ before, ¬ IsExcess s.toList before) ∧
    ((∃ e, basic.parse .algebraic s = .error e ∧ e.expression = s ∧
        e.complaint.detail = "Unallowed character in expression") ↔
      IllegalFirst "-+/*()".toList s.toList) ∧
    ((∃ e, basic.parse .algebraic s = .error e ∧ e.expression = s ∧
        e.complaint.detail = "Unbalanced parenthesis in expression") ↔
      ExcessFirst "-+/*()".toList s.toList) := by
  rcases parse_algebraic_cases s with ⟨plan, hparse, hillegal, hexcess⟩ | ⟨hparse, hfirst⟩ |
    ⟨hparse, hfirst⟩
  · refine ⟨iff_of_true ⟨plan, hparse⟩ ⟨hillegal, hexcess⟩, iff_of_false (by simp [hparse]) ?_,
      iff_of_false (by simp [hparse]) ?_⟩
    · rintro ⟨illegal, h, -⟩
      exact hillegal illegal h
    · rintro ⟨excess, h, -⟩
      exact hexcess excess h
  · refine ⟨iff_of_false (by simp [hparse]) ?_, iff_of_true ⟨_, hparse, rfl, rfl⟩ hfirst,
      iff_of_false (by simp [hparse, Complaint.detail]) hfirst.not_excessFirst⟩
    rintro ⟨hillegal, -⟩
    obtain ⟨illegal, h, -⟩ := hfirst
    exact hillegal illegal h
  · refine ⟨iff_of_false (by simp [hparse]) ?_, iff_of_false (by simp [hparse, Complaint.detail])
      fun h => h.not_excessFirst hfirst, iff_of_true ⟨_, hparse, rfl, rfl⟩ hfirst⟩
    rintro ⟨-, hexcess⟩
    obtain ⟨excess, h, -⟩ := hfirst
    exact hexcess excess h

/-- Both faults: the parenthesis in excess comes first. -/
example : basic.parse .algebraic "(7-2))*b" = .error ⟨.unbalancedParenthesis, "(7-2))*b"⟩ := rfl

end Operators
end Abacus
