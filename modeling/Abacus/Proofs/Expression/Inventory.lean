import Abacus.Proofs.Expression.InfixComplaints
import Abacus.Proofs.Expression.PostfixReading

/-!
# What the plan of an infix expression consists of

Whatever an infix expression says, its plan accounts for all of it (`Operators.parse_inventory`):
the operands of the plan are the digit runs of the expression in their order, its operators are the
symbols of the expression in some order, and for each parenthesis that is opened and not closed
there is one token more (the `GROUP` of the specification, §3). That holds of every text that is
read, also of those that make no sense.

What is put into the plan while the text is read and what is left pending at the end are looked at
together, as `emitted ++ final.map Pending.token`; the lemmas of the second section are about that
list, and the theorem only names it.
-/

namespace Abacus
namespace Infix

variable {ops : Operators}

/-! ## What goes on pending -/

/-- The operators that pend go into the plan as operators, and parentheses do not. -/
theorem filter_isOperator_pending (pending : List Pending) :
    (pending.map Pending.token).filter Token.isOperator
      = (pending.filterMap Pending.token?).filter Token.isOperator := by
  induction pending with
  | nil => rfl
  | cons p pending ih =>
    cases p with
    | opened =>
      rw [List.map_cons, List.filter_cons_of_neg (by simp [Pending.token, Token.isOperator]), ih,
        List.filterMap_cons_none rfl]
    | operator op =>
      rw [List.map_cons, List.filter_cons_of_pos rfl, ih]
      rfl

theorem count_group_pending (pending : List Pending) :
    (pending.map Pending.token).count (.group "(") = pending.countP Pending.isOpened := by
  rw [List.count, List.countP_map]
  refine List.countP_congr fun p _ => ?_
  cases p <;> simp [Pending.token, Pending.isOpened]

/-! ## What is put into the plan -/

section
variable (hops : ops.SingleCharacter ['(', ')']) {cs : List Char} {emitted : List Token}
  {final : List Pending} (h : read [] (lexed ops cs) = .ok (emitted, final))
include hops h

/-- The operands and operators of the plan can be written: digits and symbols of the table. -/
theorem isPrintable_or_group_of_plan : ∀ token ∈ emitted ++ final.map Pending.token,
    Postfix.IsPrintable ops token ∨ token = .group "(" := by
  have hkept : ∀ token ∈ emitted ++ final.filterMap Pending.token?,
      Postfix.IsPrintable ops token := fun token htoken =>
    Postfix.isPrintable_of_mem_terms ((perm_terms_of_read hops h).subset htoken)
  intro token htoken
  rcases List.mem_append.mp htoken with htoken | htoken
  · exact .inl (hkept token (List.mem_append_left _ htoken))
  · obtain ⟨p, hp, rfl⟩ := List.mem_map.mp htoken
    cases p with
    | opened => exact .inr rfl
    | operator op =>
      exact .inl (hkept _ (List.mem_append_right _ (List.mem_filterMap.mpr ⟨_, hp, rfl⟩)))

theorem operands_of_plan : (emitted ++ final.map Pending.token).filter Token.isOperand
    = (ops.terms cs).filter Token.isOperand := by
  rw [List.filter_append, filter_isOperand_pending, List.append_nil, operands_of_read h,
    filterMap_token?_lexed hops (foreign_notMem_of_read h)]

theorem operators_of_plan : ((emitted ++ final.map Pending.token).filter Token.isOperator).Perm
    ((cs.filter fun c => ops.contains (String.singleton c)).map
      fun c => .operator (String.singleton c)) := by
  rw [← Operators.filter_isOperator_terms hops, List.filter_append, filter_isOperator_pending,
    ← List.filter_append]
  exact (perm_terms_of_read hops h).filter Token.isOperator

/-- The parentheses of the plan are those that are opened and not closed. -/
theorem groups_of_plan : (emitted ++ final.map Pending.token).count (.group "(") + cs.count ')'
    = cs.count '(' := by
  have hemitted : emitted.count (.group "(") = 0 := by
    refine List.count_eq_zero.mpr fun hmem => ?_
    have hterm := (perm_terms_of_read hops h).subset (List.mem_append_left _ hmem)
    exact Postfix.isPrintable_of_mem_terms hterm
  rw [List.count_append, hemitted, count_group_pending, Nat.zero_add]
  exact openings_of_read_lexed hops h

/-- No parenthesis is left in the plan if and only if all of them are closed. -/
theorem group_notMem_plan_iff : .group "(" ∉ emitted ++ final.map Pending.token ↔
    ∀ before rest, cs = before ++ '(' :: rest → Text.IsClosed rest := by
  rw [Text.forall_isClosed_iff (not_isExcess_of_read hops h), ← List.count_eq_zero,
    ← groups_of_plan hops h]
  omega

end

/-- What a token of an infix plan can be. -/
theorem isPrintable_or_group (hops : ops.SingleCharacter ['(', ')']) {expression : String}
    {plan : List Token} (h : tokens ops expression = .ok plan) :
    ∀ token ∈ plan, Postfix.IsPrintable ops token ∨ token = .group "(" := by
  obtain ⟨emitted, final, hread, rfl⟩ := tokens_eq_ok h
  exact isPrintable_or_group_of_plan hops hread

end Infix

namespace Operators

variable {ops : Operators}

/-- **What the plan of an infix expression consists of**: its operands are the digit runs of the
expression, in their order; its operators are the symbols of the expression, in some order; and it
has a parenthesis for each one that was opened and not closed. There are no other tokens, and no
parenthesis if and only if each one that was opened is closed. -/
theorem parse_inventory (hops : ops.SingleCharacter ['(', ')']) {s : String} {plan : Plan}
    (h : ops.parse .algebraic s = .ok plan) :
    plan.tokens.filter Token.isOperand = (ops.terms s.toList).filter Token.isOperand ∧
    (plan.tokens.filter Token.isOperator).Perm
      ((s.toList.filter fun c => ops.contains (String.singleton c)).map
        fun c => .operator (String.singleton c)) ∧
    plan.tokens.count (.group "(") + s.toList.count ')' = s.toList.count '(' ∧
    (∀ token ∈ plan.tokens, Postfix.IsPrintable ops token ∨ token = .group "(") ∧
    (.group "(" ∉ plan.tokens ↔
      ∀ before rest, s.toList = before ++ '(' :: rest → Text.IsClosed rest) := by
  obtain ⟨tokens, htokens, rfl⟩ := Outcome.map_eq_ok (Outcome.mapError_eq_ok h)
  obtain ⟨emitted, final, hread, rfl⟩ := Infix.tokens_eq_ok htokens
  rw [Infix.lexemes_eq_lexed] at hread
  exact ⟨Infix.operands_of_plan hops hread, Infix.operators_of_plan hops hread,
    Infix.groups_of_plan hops hread, Infix.isPrintable_or_group_of_plan hops hread,
    Infix.group_notMem_plan_iff hops hread⟩

/-- An expression that starts with an operator and leaves a parenthesis open. -/
theorem parse_inventory_unclosed :
    basic.SingleCharacter ['(', ')'] ∧
    basic.parse .algebraic "+07((2)" = .ok ⟨[.operand "07", .operand "2", .group "(",
      .operator "+"]⟩ ∧
    (basic.terms "+07((2)".toList).filter Token.isOperand = [.operand "07", .operand "2"] ∧
    ¬ ∀ before rest, "+07((2)".toList = before ++ '(' :: rest → Text.IsClosed rest := by
  have hops : basic.SingleCharacter ['(', ')'] := basic_singleCharacter.mono (by simp)
  have hplan : basic.parse .algebraic "+07((2)" = .ok ⟨[.operand "07", .operand "2", .group "(",
      .operator "+"]⟩ := rfl
  obtain ⟨hoperands, -, -, -, hgroup⟩ := parse_inventory hops hplan
  exact ⟨hops, hplan, hoperands.symm, fun hclosed => hgroup.mpr hclosed (by simp)⟩

end Operators
end Abacus
