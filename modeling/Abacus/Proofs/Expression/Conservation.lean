import Abacus.Proofs.Expression.Lexemes
import Abacus.Proofs.Expression.Operands
import Abacus.Proofs.Outcome
import Mathlib.Data.List.TakeWhile

/-!
# What the infix reader keeps

Reading reorders an expression but neither loses nor adds anything: what has been put into the plan
and what pends, taken together, are the operands and operators that were read. Parentheses are not
kept, but the number of those that pend is that of those that are open.

- `Infix.step_cases`: what reading a lexeme can do, said once. The cases are those of the
  specification (§4.1, step 2), with what stays pending divided from what leaves.
- `Infix.operands_of_step`, `Infix.perm_of_step`, `Infix.openings_of_step`: what one lexeme keeps.
- `Infix.operands_of_read`, `Infix.perm_of_read`, `Infix.openings_of_read`: what reading keeps, by
  induction on the lexemes.
- `Infix.perm_of_tokens`: what that says of the plan of an expression that closes its parentheses.

Operands keep their order, operators do not: they are put into the plan as late as what follows them
in precedence allows. So the former is an equation between lists and the latter a permutation. An
operator whose symbol is a parenthesis would be taken for one while it pends, which is why the table
must have none; the order of the operands does not depend on that.
-/

namespace Abacus
namespace Infix

variable {ops : Operators}

/-! ## One lexeme

All that reading one lexeme can do is said once, in `step_cases`. What is preserved by reading is
derived from it below. -/

/-- **What reading a lexeme can do**: some of what pends, `inner`, is put into the plan, and the
rest of it goes on pending. -/
theorem step_cases {pending next : List Pending} {lexeme : Lexeme} {emitted : List Token}
    (h : step pending lexeme = .ok (emitted, next)) :
    (∃ text, lexeme = .operand text ∧ emitted = [.operand text] ∧ next = pending) ∨
    (∃ op inner outer, lexeme = .operator op ∧ pending = inner ++ outer ∧
      (∀ p ∈ inner, p.yieldsTo op = true) ∧ (∀ p ∈ outer.head?, p.yieldsTo op = false) ∧
      emitted = inner.map Pending.token ∧ next = .ofOperator op :: outer) ∨
    (lexeme = .opening ∧ emitted = [] ∧ next = .opened :: pending) ∨
    (∃ inner outer, lexeme = .closing ∧ pending = inner ++ .opened :: outer ∧
      (∀ p ∈ inner, p.isOpened = false) ∧ emitted = inner.map Pending.token ∧ next = outer) := by
  cases lexeme with
  | operand text =>
    cases h
    exact .inl ⟨text, rfl, rfl, rfl⟩
  | operator op =>
    cases h
    refine .inr (.inl ⟨op, _, _, rfl, List.takeWhile_append_dropWhile.symm, ?_, ?_, rfl, rfl⟩)
    · intro p hp
      exact List.mem_takeWhile_imp hp
    · intro p hp
      have hnot := List.head?_dropWhile_not (fun p : Pending => p.yieldsTo op) pending
      rw [Option.mem_def.mp hp] at hnot
      simpa using hnot
  | opening =>
    cases h
    exact .inr (.inr (.inl ⟨rfl, rfl, rfl⟩))
  | closing =>
    simp only [step] at h
    split at h
    · cases h
    · -- the first that pends and is no operator is the parenthesis that is closed
      next top outer hdrop =>
      obtain ⟨rfl, rfl⟩ := Prod.mk.inj (Except.ok.inj h)
      have hinner : ∀ p ∈ pending.takeWhile (!·.isOpened), p.isOpened = false := by
        intro p hp
        simpa using List.mem_takeWhile_imp hp
      have htop : top = .opened := by
        have hnot := List.head?_dropWhile_not (fun p : Pending => !p.isOpened) pending
        rw [hdrop] at hnot
        cases top with
        | opened => rfl
        | operator op => cases hnot
      have hpending := List.takeWhile_append_dropWhile (p := (!·.isOpened)) (l := pending)
      rw [hdrop, htop] at hpending
      exact .inr (.inr (.inr ⟨_, outer, rfl, hpending.symm, hinner, rfl, rfl⟩))
  | foreign => cases h

theorem isOpened_of_yieldsTo {p : Pending} {op : Operator} (h : p.yieldsTo op = true) :
    p.isOpened = false := by
  cases p with
  | opened => cases h
  | operator other => rfl

/-! ## Open parentheses -/

theorem countP_isOpened_eq_zero {pending : List Pending}
    (h : ∀ p ∈ pending, p.isOpened = false) : pending.countP Pending.isOpened = 0 :=
  List.countP_eq_zero.mpr fun p hp => by simp [h p hp]

/-- An operator leaves the open parentheses as they are, since what leaves before it are operators.
-/
theorem openings_of_operator {op : Operator} (hsymbol : op.symbol ≠ "(")
    {pending next : List Pending} {emitted : List Token}
    (h : step pending (.operator op) = .ok (emitted, next)) :
    next.countP Pending.isOpened = pending.countP Pending.isOpened := by
  rcases step_cases h with ⟨_, hlexeme, -⟩ | ⟨op', inner, outer, hlexeme, rfl, hinner, -, -, rfl⟩ |
    ⟨hlexeme, -⟩ | ⟨_, _, hlexeme, -⟩
  · cases hlexeme
  · cases hlexeme
    rw [List.countP_append,
      countP_isOpened_eq_zero fun p hp => isOpened_of_yieldsTo (hinner p hp)]
    simp [Pending.ofOperator, hsymbol, Pending.isOpened]
  · cases hlexeme
  · cases hlexeme

/-- A closing parenthesis closes one. -/
theorem openings_of_closing {pending next : List Pending} {emitted : List Token}
    (h : step pending .closing = .ok (emitted, next)) :
    pending.countP Pending.isOpened = next.countP Pending.isOpened + 1 := by
  rcases step_cases h with ⟨_, hlexeme, -⟩ | ⟨_, _, _, hlexeme, -⟩ | ⟨hlexeme, -⟩ |
    ⟨inner, outer, -, rfl, hinner, -, rfl⟩
  · cases hlexeme
  · cases hlexeme
  · cases hlexeme
  · rw [List.countP_append, countP_isOpened_eq_zero hinner, List.countP_cons_of_pos rfl,
      Nat.zero_add]

/-- Whether a lexeme opens a parenthesis. -/
def Lexeme.isOpening : Lexeme → Bool
  | .operand _ => false
  | .operator _ => false
  | .opening => true
  | .closing => false
  | .foreign => false

/-- Whether a lexeme closes a parenthesis. -/
def Lexeme.isClosing : Lexeme → Bool
  | .operand _ => false
  | .operator _ => false
  | .opening => false
  | .closing => true
  | .foreign => false

theorem countP_cons_toNat (p : Lexeme → Bool) (x : Lexeme) (xs : List Lexeme) :
    (x :: xs).countP p = xs.countP p + (p x).toNat := by
  cases hx : p x <;> simp [hx]

/-! ## Operands and operators

A lexeme is turned into a token or is a parenthesis. The tokens of what was read are compared with
those in the plan and those that pend: operands as lists, since they never wait, and all tokens up
to their order. -/

/-- Whether a lexeme has a place in an expression over a table of operators. The text of an operand
has to be a run of digits, and an operator one of the table. -/
def Lexeme.IsProper (ops : Operators) : Lexeme → Prop
  | .operand text => ∃ ds : Digits, text = ds.text
  | .operator op => op ∈ ops.list
  | .opening => True
  | .closing => True
  | .foreign => False

/-- The token that a lexeme stands for, if it is no parenthesis. A parenthesis becomes a token only
if it is left open. -/
def Lexeme.token? : Lexeme → Option Token
  | .operand text => some (.operand text)
  | .operator op => some (.operator op.symbol)
  | .opening => none
  | .closing => none
  | .foreign => none

theorem filterMap_token?_cons (x : Lexeme) (xs : List Lexeme) :
    (x :: xs).filterMap Lexeme.token? = x.token?.toList ++ xs.filterMap Lexeme.token? := by
  cases hx : x.token? <;> simp [hx]

/-- The token that a pending operator stands for. -/
def Pending.token? : Pending → Option Token
  | .opened => none
  | .operator op => some (.operator op.symbol)

theorem Pending.token?_ofOperator {op : Operator} (hsymbol : op.symbol ≠ "(") :
    (Pending.ofOperator op).token? = some (.operator op.symbol) := by
  rw [Pending.ofOperator, if_neg hsymbol]
  rfl

/-- Where no parenthesis is open, everything that pends is an operator. -/
theorem filterMap_token? {pending : List Pending} (h : ∀ p ∈ pending, p.isOpened = false) :
    pending.filterMap Pending.token? = pending.map Pending.token := by
  rw [← List.filterMap_eq_map]
  refine List.filterMap_congr fun p hp => ?_
  cases p with
  | opened => cases h _ hp
  | operator op => rfl

/-- A lexeme of an expression has a place there, unless it is foreign: an operator comes from the
table, and an operand is a piece of digits. -/
theorem isProper_of_mem_lexemes {expression : String} {lexeme : Lexeme}
    (h : lexeme ∈ lexemes ops expression) (hforeign : lexeme ≠ .foreign) : lexeme.IsProper ops := by
  cases lexeme with
  | operand text => exact exists_digits_of_mem_lexemes h
  | operator op =>
    -- a piece is an operator only if the table has its symbol
    obtain ⟨piece, -, hpiece⟩ := List.mem_map.mp h
    unfold Lexeme.ofPiece at hpiece
    split at hpiece
    · cases hpiece
    · split at hpiece
      · next found hfind =>
        cases hpiece
        exact (Operators.find?_eq_some_iff.mp hfind).1
      · split at hpiece
        · cases hpiece
        · split at hpiece <;> cases hpiece
  | opening => trivial
  | closing => trivial
  | foreign => exact absurd rfl hforeign

/-- Nothing that can be read is foreign. -/
theorem foreign_notMem_of_read {pending final : List Pending} {xs : List Lexeme}
    {emitted : List Token} (h : read pending xs = .ok (emitted, final)) : .foreign ∉ xs := by
  induction xs generalizing pending emitted with
  | nil => exact List.not_mem_nil
  | cons x rest ih =>
    obtain ⟨⟨first, middle⟩, hstep, h⟩ := Outcome.bind_eq_ok h
    obtain ⟨⟨later, last⟩, hread, h⟩ := Outcome.bind_eq_ok h
    cases h
    rintro (_ | _)
    · cases hstep
    · next hmem => exact ih hread hmem

/-- Lexemes of an expression, not necessarily all of them, that can be read are proper ones. -/
theorem isProper_of_read_subset {expression : String} {xs : List Lexeme}
    (hxs : xs ⊆ lexemes ops expression) {pending final : List Pending} {emitted : List Token}
    (h : read pending xs = .ok (emitted, final)) : ∀ x ∈ xs, x.IsProper ops := by
  intro x hx
  refine isProper_of_mem_lexemes (hxs hx) ?_
  rintro rfl
  exact foreign_notMem_of_read h hx

/-- All lexemes of an expression that can be read are proper ones. -/
theorem isProper_of_read {expression : String} {pending final : List Pending}
    {emitted : List Token} (h : read pending (lexemes ops expression) = .ok (emitted, final)) :
    ∀ x ∈ lexemes ops expression, x.IsProper ops :=
  isProper_of_read_subset (List.Subset.refl _) h

theorem isOperand_token (p : Pending) : p.token.isOperand = false := by
  cases p <;> rfl

theorem filter_isOperand_pending (pending : List Pending) :
    (pending.map Pending.token).filter Token.isOperand = [] := by
  refine List.filter_eq_nil_iff.mpr fun token htoken => ?_
  obtain ⟨p, -, rfl⟩ := List.mem_map.mp htoken
  rw [isOperand_token]
  exact Bool.false_ne_true

/-- Only operands are put into the plan at once, each in its turn. -/
theorem operands_of_step {pending next : List Pending} {lexeme : Lexeme} {emitted : List Token}
    (h : step pending lexeme = .ok (emitted, next)) :
    emitted.filter Token.isOperand = lexeme.token?.toList.filter Token.isOperand := by
  rcases step_cases h with ⟨text, rfl, rfl, -⟩ | ⟨op, inner, outer, rfl, -, -, -, rfl, -⟩ |
    ⟨rfl, rfl, -⟩ | ⟨inner, outer, rfl, -, -, rfl, -⟩
  · rfl
  · exact filter_isOperand_pending inner
  · rfl
  · exact filter_isOperand_pending inner

/-- **Operands keep their order.** Each is put into the plan when it is read, and what leaves the
pending list are no operands. -/
theorem operands_of_read {pending final : List Pending} {xs : List Lexeme} {emitted : List Token}
    (h : read pending xs = .ok (emitted, final)) :
    emitted.filter Token.isOperand = (xs.filterMap Lexeme.token?).filter Token.isOperand := by
  induction xs generalizing pending emitted with
  | nil =>
    cases h
    rfl
  | cons x rest ih =>
    obtain ⟨⟨first, middle⟩, hstep, h⟩ := Outcome.bind_eq_ok h
    obtain ⟨⟨later, last⟩, hread, h⟩ := Outcome.bind_eq_ok h
    cases h
    rw [filterMap_token?_cons, List.filter_append, List.filter_append, operands_of_step hstep,
      ih hread]

section
variable (hops : ops.SingleCharacter ['(', ')'])
include hops

/-- What leaves is no longer pending, and what is read goes on pending or into the plan. -/
theorem perm_of_step {pending next : List Pending} {lexeme : Lexeme} {emitted : List Token}
    (hproper : lexeme.IsProper ops) (h : step pending lexeme = .ok (emitted, next)) :
    (emitted ++ next.filterMap Pending.token?).Perm
      (pending.filterMap Pending.token? ++ lexeme.token?.toList) := by
  rcases step_cases h with ⟨text, rfl, rfl, rfl⟩ |
    ⟨op, inner, outer, rfl, rfl, hinner, -, rfl, rfl⟩ | ⟨rfl, rfl, rfl⟩ |
    ⟨inner, outer, rfl, rfl, hinner, rfl, rfl⟩
  · exact List.perm_append_comm
  · -- the operator goes on top of `outer`, and `inner` into the plan
    have hsymbol : op.symbol ≠ "(" := hops.symbol_ne (c := '(') hproper (by simp)
    rw [List.filterMap_append, filterMap_token? fun p hp => isOpened_of_yieldsTo (hinner p hp),
      List.filterMap_cons_some (Pending.token?_ofOperator hsymbol), List.append_assoc]
    exact (List.perm_append_left_iff _).mpr (List.perm_append_singleton _ _).symm
  · rw [List.filterMap_cons_none rfl]
    exact .of_eq (List.append_nil _).symm
  · rw [List.filterMap_append, filterMap_token? hinner, List.filterMap_cons_none rfl]
    exact .of_eq (List.append_nil _).symm

/-- **Nothing is lost and nothing is added**: what is put into the plan and what pends afterwards
are what pended before and what was read. -/
theorem perm_of_read {pending final : List Pending} {xs : List Lexeme} {emitted : List Token}
    (hproper : ∀ x ∈ xs, x.IsProper ops) (h : read pending xs = .ok (emitted, final)) :
    (emitted ++ final.filterMap Pending.token?).Perm
      (pending.filterMap Pending.token? ++ xs.filterMap Lexeme.token?) := by
  induction xs generalizing pending emitted with
  | nil =>
    cases h
    simp
  | cons x rest ih =>
    obtain ⟨⟨first, middle⟩, hstep, h⟩ := Outcome.bind_eq_ok h
    obtain ⟨⟨later, last⟩, hread, h⟩ := Outcome.bind_eq_ok h
    cases h
    obtain ⟨hx, hrest⟩ := List.forall_mem_cons.mp hproper
    -- what the first lexeme puts into the plan stays in front
    calc (first ++ later ++ final.filterMap Pending.token?)
        = first ++ (later ++ final.filterMap Pending.token?) := List.append_assoc ..
      _ |>.Perm (first ++ (middle.filterMap Pending.token? ++ rest.filterMap Lexeme.token?)) :=
          (ih hrest hread).append_left first
      _ = first ++ middle.filterMap Pending.token? ++ rest.filterMap Lexeme.token? :=
          (List.append_assoc ..).symm
      _ |>.Perm (pending.filterMap Pending.token? ++ x.token?.toList
            ++ rest.filterMap Lexeme.token?) :=
          (perm_of_step hops hx hstep).append_right _
      _ = pending.filterMap Pending.token? ++ (x :: rest).filterMap Lexeme.token? := by
          rw [filterMap_token?_cons, List.append_assoc]

/-- A lexeme opens and closes the parentheses that it says. -/
theorem openings_of_step {pending next : List Pending} {lexeme : Lexeme} {emitted : List Token}
    (hproper : lexeme.IsProper ops) (h : step pending lexeme = .ok (emitted, next)) :
    next.countP Pending.isOpened + lexeme.isClosing.toNat
      = pending.countP Pending.isOpened + lexeme.isOpening.toNat := by
  cases lexeme with
  | operand text =>
    cases h
    rfl
  | operator op => exact openings_of_operator (hops.symbol_ne (c := '(') hproper (by simp)) h
  | opening =>
    cases h
    rw [List.countP_cons_of_pos rfl]
    rfl
  | closing => exact (openings_of_closing h).symm
  | foreign => cases h

/-- **What pends has a place for each parenthesis that is open**: there are as many open ones as
before, with those that were opened and without those that were closed. -/
theorem openings_of_read {pending final : List Pending} {xs : List Lexeme} {emitted : List Token}
    (hproper : ∀ x ∈ xs, x.IsProper ops) (h : read pending xs = .ok (emitted, final)) :
    final.countP Pending.isOpened + xs.countP Lexeme.isClosing
      = pending.countP Pending.isOpened + xs.countP Lexeme.isOpening := by
  induction xs generalizing pending emitted with
  | nil =>
    cases h
    rfl
  | cons x rest ih =>
    obtain ⟨⟨first, middle⟩, hstep, h⟩ := Outcome.bind_eq_ok h
    obtain ⟨⟨later, last⟩, hread, h⟩ := Outcome.bind_eq_ok h
    cases h
    obtain ⟨hx, hrest⟩ := List.forall_mem_cons.mp hproper
    have hfirst := openings_of_step hops hx hstep
    have hlater := ih hrest hread
    rw [countP_cons_toNat, countP_cons_toNat]
    omega

/-! ## Whole expressions -/

omit hops in
theorem tokens_eq_ok {expression : String} {plan : List Token}
    (h : tokens ops expression = .ok plan) :
    ∃ emitted final, read [] (lexemes ops expression) = .ok (emitted, final) ∧
      plan = emitted ++ final.map Pending.token := by
  obtain ⟨⟨emitted, final⟩, hread, h⟩ := Outcome.bind_eq_ok h
  exact ⟨emitted, final, hread, (Except.ok.inj h).symm⟩

omit hops in
/-- What still pends at the end is an operator, unless it shows in the plan. -/
theorem isOpened_eq_false {pending : List Pending}
    (h : ∀ symbol, .group symbol ∉ pending.map Pending.token) :
    ∀ p ∈ pending, p.isOpened = false := by
  intro p hp
  cases p with
  | opened => exact absurd (List.mem_map.mpr ⟨_, hp, rfl⟩) (h "(")
  | operator op => rfl

/-- If all parentheses are closed, the plan consists of the operands and operators of the
expression. -/
theorem perm_of_tokens {expression : String} {plan : List Token}
    (h : tokens ops expression = .ok plan) (hgroup : ∀ symbol, .group symbol ∉ plan) :
    plan.Perm ((lexemes ops expression).filterMap Lexeme.token?) := by
  obtain ⟨emitted, final, hread, rfl⟩ := tokens_eq_ok h
  have hfinal := isOpened_eq_false fun symbol hmem => hgroup symbol (List.mem_append_right _ hmem)
  have hperm := perm_of_read hops (isProper_of_read hread) hread
  rwa [filterMap_token? hfinal] at hperm

end

end Infix
end Abacus
