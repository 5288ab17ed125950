import Abacus.Expression.Calculation
import Abacus.Proofs.Number.IntegerText
import Abacus.Proofs.Outcome
import Mathlib.Data.List.SplitBy

/-!
# The operands of a plan

Whatever an expression looks like, each operand in its plan is a run of digits
(`Plan.exists_digits_of_mem`). The specification admits no other operands (§1: no signs, no points),
and this is where it follows for the readers, with no condition on the table of operators.

The two readers come to it in different ways. An infix expression gets its operands from the pieces
that consist of digits only, and reading puts no operand into the plan that is not such a piece
(`Infix.mem_of_mem_read`). A postfix expression collects each operand in a slot, digit by digit, so
there it is an invariant of the slots (`Postfix.HoldsDigits`) that each character keeps
(`Postfix.holdsDigits_of_fill`).

A digit is one of the ten ASCII digits here. That the texts which operators write are numerals with
signs, points and powers of ten is another matter: they are never in a plan.
-/

namespace Abacus

variable {ops : Operators}

namespace Infix

/-! ## Infix expressions -/

theorem nil_notMem_pieces (cs : List Char) : [] ∉ pieces ops cs :=
  List.nil_notMem_splitBy _ _

/-- A piece that is an operand is a run of digits. -/
theorem exists_digits_of_mem_lexemes {expression text : String}
    (h : Lexeme.operand text ∈ lexemes ops expression) : ∃ ds : Digits, text = ds.text := by
  obtain ⟨piece, hpiece, htext⟩ := List.mem_map.mp h
  unfold Lexeme.ofPiece at htext
  split at htext
  · next hall =>
    have hne : piece ≠ [] := by
      rintro rfl
      exact nil_notMem_pieces _ hpiece
    exact ⟨⟨piece, hne, List.all_eq_true.mp hall⟩, (Lexeme.operand.inj htext).symm⟩
  · -- any other piece is an operator, a parenthesis or foreign
    split at htext
    · cases htext
    · split at htext
      · cases htext
      · split at htext <;> cases htext

theorem operand_notMem_map_token (text : String) (pending : List Pending) :
    Token.operand text ∉ pending.map Pending.token := by
  intro h
  obtain ⟨p, -, hp⟩ := List.mem_map.mp h
  cases p <;> cases hp

/-- Only a lexeme that is an operand puts one into the plan. The others move what pends, and no
operand ever does. -/
theorem eq_operand_of_mem_step {pending : List Pending} {lexeme : Lexeme}
    {result : List Token × List Pending} (h : step pending lexeme = .ok result) {text : String}
    (hmem : Token.operand text ∈ result.1) : lexeme = .operand text := by
  cases lexeme with
  | operand other =>
    obtain rfl := Except.ok.inj h
    obtain rfl := Token.operand.inj (List.mem_singleton.mp hmem)
    rfl
  | operator op =>
    obtain rfl := Except.ok.inj h
    exact absurd hmem (operand_notMem_map_token _ _)
  | opening =>
    obtain rfl := Except.ok.inj h
    cases hmem
  | closing =>
    simp only [step] at h
    split at h
    · cases h
    · obtain rfl := Except.ok.inj h
      exact absurd hmem (operand_notMem_map_token _ _)
  | foreign => cases h

/-- The operands that reading puts into the plan are among the lexemes. -/
theorem mem_of_mem_read {pending : List Pending} {lexemes : List Lexeme}
    {result : List Token × List Pending} (h : read pending lexemes = .ok result) {text : String}
    (hmem : Token.operand text ∈ result.1) : Lexeme.operand text ∈ lexemes := by
  -- what waits changes with every lexeme, so the induction is for all that may wait
  induction lexemes generalizing pending result with
  | nil =>
    obtain rfl := Except.ok.inj h
    cases hmem
  | cons lexeme rest ih =>
    obtain ⟨⟨first, middle⟩, hstep, h⟩ := Outcome.bind_eq_ok h
    obtain ⟨⟨later, final⟩, hread, h⟩ := Outcome.bind_eq_ok h
    obtain rfl := Except.ok.inj h
    rcases List.mem_append.mp hmem with hmem | hmem
    · rw [eq_operand_of_mem_step hstep hmem]
      exact List.mem_cons_self
    · exact List.mem_cons_of_mem _ (ih hread hmem)

/-- The operands of the plan of an infix expression are runs of digits. -/
theorem exists_digits_of_mem_tokens {expression : String} {result : List Token}
    (h : tokens ops expression = .ok result) {text : String}
    (hmem : Token.operand text ∈ result) : ∃ ds : Digits, text = ds.text := by
  obtain ⟨⟨emitted, pending⟩, hread, h⟩ := Outcome.bind_eq_ok h
  obtain rfl := Except.ok.inj h
  rcases List.mem_append.mp hmem with hmem | hmem
  · exact exists_digits_of_mem_lexemes (mem_of_mem_read hread hmem)
  · exact absurd hmem (operand_notMem_map_token _ _)

end Infix

namespace Postfix

/-! ## Postfix expressions -/

/-- Whether a slot holds a run of digits if it holds an operand. -/
def HoldsDigits (slot : Option Token) : Prop :=
  ∀ text, slot = some (.operand text) → ∃ ds : Digits, text = ds.text

theorem holdsDigits_none : HoldsDigits none := by
  intro text h
  cases h

/-- What is written where an operator is read, and where none is. -/
theorem holdsDigits_written (op? : Option Operator) :
    HoldsDigits (op?.map fun op => Token.operator op.symbol) := by
  intro text h
  cases op? <;> cases h

theorem HoldsDigits.orElse {first second : Option Token} (hfirst : HoldsDigits first)
    (hsecond : HoldsDigits second) : HoldsDigits (first <|> second) := by
  cases first with
  | none => exact hsecond
  | some token => exact hfirst

/-- A digit makes a longer run of digits out of one, and a run out of nothing. It cannot be added to
an operator. -/
theorem holdsDigits_addDigit {c : Char} (hc : c.isDigit = true) {slot : Option Token}
    (hslot : HoldsDigits slot) {token : Token} (h : addDigit c slot = .ok token) :
    HoldsDigits (some token) := by
  intro text htext
  obtain rfl := Option.some.inj htext
  match slot with
  | none =>
    obtain rfl := Token.operand.inj (Except.ok.inj h)
    exact ⟨⟨[c], by simp, by simpa using hc⟩, String.singleton_eq_ofList⟩
  | some (.operand before) =>
    obtain rfl := Token.operand.inj (Except.ok.inj h)
    obtain ⟨ds, rfl⟩ := hslot before rfl
    refine ⟨⟨ds.chars ++ [c], by simp, ?_⟩, ?_⟩
    · intro d hd
      rcases List.mem_append.mp hd with hd | hd
      · exact ds.isDigit d hd
      · rw [List.mem_singleton.mp hd]
        exact hc
    · refine String.toList_injective ?_
      simp [Digits.text]
  | some (.operator _) => cases h
  | some (.group _) => cases h

/-- **The slots hold runs of digits**: each character keeps that of the slot that is being filled,
and the slots before it are left alone. -/
theorem holdsDigits_of_fill {previous : Char} {slot : Option Token} {cs : List Char}
    {slots : List (Option Token)} (h : fill ops previous slot cs = .ok slots)
    (hslot : HoldsDigits slot) : ∀ s ∈ slots, HoldsDigits s := by
  induction cs generalizing previous slot slots with
  | nil =>
    obtain rfl := Except.ok.inj h
    intro s hs
    rw [List.mem_singleton.mp hs]
    exact hslot
  | cons c cs ih =>
    rw [fill] at h
    split at h
    · -- a space or an operator: behind a space it stays in the slot, elsewhere it leaves it
      split at h
      · exact ih h ((holdsDigits_written _).orElse hslot)
      · obtain ⟨later, hfill, h⟩ := Outcome.bind_eq_ok h
        obtain rfl := Except.ok.inj h
        exact List.forall_mem_cons.mpr ⟨hslot, ih hfill (holdsDigits_written _)⟩
    · split at h
      · next hdigit =>
        obtain ⟨token, hadd, h⟩ := Outcome.bind_eq_ok h
        exact ih h (holdsDigits_addDigit hdigit hslot hadd)
      · cases h

/-- Gathering takes the tokens out of the slots and adds none. -/
theorem mem_of_mem_gather {slots : List (Option Token)} {tokens : List Token}
    (h : gather slots = .ok tokens) {token : Token} (hmem : token ∈ tokens) :
    some token ∈ slots := by
  induction slots generalizing tokens with
  | nil =>
    obtain rfl := Except.ok.inj h
    cases hmem
  | cons slot slots ih =>
    cases slot with
    | none =>
      rw [gather] at h
      split at h
      · obtain rfl := Except.ok.inj h
        cases hmem
      · cases h
    | some first =>
      obtain ⟨later, hgather, rfl⟩ := Outcome.map_eq_ok h
      rcases List.mem_cons.mp hmem with rfl | hmem
      · exact List.mem_cons_self
      · exact List.mem_cons_of_mem _ (ih hgather hmem)

theorem exists_digits_of_mem_tokens {cs : List Char} {result : List Token}
    (h : tokens ops cs = .ok result) {text : String} (hmem : Token.operand text ∈ result) :
    ∃ ds : Digits, text = ds.text := by
  obtain ⟨slots, hfill, hgather⟩ := Outcome.bind_eq_ok h
  exact holdsDigits_of_fill hfill holdsDigits_none _ (mem_of_mem_gather hgather hmem) text rfl

end Postfix

/-- **Each operand of a plan** is a run of digits, in whichever notation the expression was written.
Signs and points come in with results only, so that what an operator is applied to is an operand of
this kind or a text that was written for a number. -/
theorem Plan.exists_digits_of_mem {form : Notation} {expression : String} {plan : Plan}
    (h : Plan.ofExpression ops form expression = .ok plan) {text : String}
    (hmem : Token.operand text ∈ plan.tokens) : ∃ ds : Digits, text = ds.text := by
  cases form with
  | algebraic =>
    obtain ⟨tokens, htokens, rfl⟩ := Outcome.map_eq_ok h
    exact Infix.exists_digits_of_mem_tokens htokens hmem
  | reversePolish =>
    obtain ⟨tokens, htokens, rfl⟩ := Outcome.map_eq_ok h
    exact Postfix.exists_digits_of_mem_tokens htokens hmem

end Abacus
