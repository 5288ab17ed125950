import Abacus.Proofs.Expression.Inventory
import Abacus.Proofs.Expression.PostfixForm

/-!
# The text of a plan as an expression

The plan of an infix expression, printed with spaces between its tokens, can be taken for a postfix
expression. It then has the value of the plan, or both have none
(`Plan.reduce_eq_ok_iff_calculate_text`). This is the round trip of the specification (§8), for
every expression that has a plan.

Not every such plan can be read back: the infix reader also makes plans that start with an operator
or contain a parenthesis that was never closed. But those can neither be reduced nor, once printed,
be read as a plan that can be. So each direction first rules these plans out, the one by what the
stack machine can read, the other by what the postfix reader admits; all that is left is read back
(`Plan.ofPostfix_text`).
-/

namespace Abacus

variable {ops : Operators} (hops : ops.SingleCharacter ['(', ')', ' '])

namespace Postfix

/-! ## Printed plans -/

/-- What a token is written with stands in the text of the plan. -/
theorem mem_text {plan : List Token} {token : Token} (h : token ∈ plan) {c : Char}
    (hc : c ∈ token.text.toList) : c ∈ (Plan.mk plan).text.toList := by
  cases plan with
  | nil => cases h
  | cons first rest =>
    rw [toList_text]
    rcases List.mem_cons.mp h with rfl | h
    · exact List.mem_append_left _ hc
    · exact List.mem_append_right _ (List.mem_flatMap.mpr ⟨token, h, List.mem_cons_of_mem _ hc⟩)

include hops in
/-- A parenthesis cannot be read. -/
theorem group_notMem_of_tokens {plan result : List Token}
    (h : tokens ops (Plan.mk plan).text.toList = .ok result) : .group "(" ∉ plan := by
  intro hmem
  obtain ⟨hflawless, -⟩ := (tokens_eq_ok_iff (hops.mono (by simp))).mp h
  rcases hflawless.admitted '(' (mem_text hmem (by simp [Token.text])) with hc | hc | hc
  · cases hc
  · cases hc
  · rw [Operators.contains, hops.find?_eq_none (.inr (by simp))] at hc
    cases hc

include hops in
/-- A printed plan that has a value starts with an operand. -/
theorem isOperand_of_read_text {plan result : List Token} {text : String}
    (hplan : ∀ token ∈ plan, IsPrintable ops token)
    (h : tokens ops (Plan.mk plan).text.toList = .ok result)
    (hread : Stack.read ops [] result = .ok [text]) :
    ∀ token ∈ plan.head?, token.isOperand = true := by
  cases plan with
  | nil =>
    intro token htoken
    cases htoken
  | cons first rest =>
    intro token htoken
    cases htoken
    cases first with
    | operand text => rfl
    | group symbol => exact (hplan _ List.mem_cons_self).elim
    | operator symbol =>
      obtain ⟨op, hop, rfl⟩ := hplan _ List.mem_cons_self
      obtain ⟨c, hc, -, -, hfind⟩ := hops.exists_char hop
      have htext : (Plan.mk (.operator op.symbol :: rest)).text.toList = c :: printed rest := by
        rw [toList_text, Token.text, hc, String.toList_singleton]
        rfl
      rw [htext] at h
      have hnone := operatorAt?_of_read (hops.mono (by simp)) h hread
      rw [operatorAt?, hfind] at hnone
      cases hnone

end Postfix

include hops in
/-- Whether an infix plan is read to the end does not change by printing it. -/
theorem Infix.read_eq_ok_iff_calculate_text {expression : String} {plan : List Token}
    (h : Infix.tokens ops expression = .ok plan) (text : String) :
    Stack.read ops [] plan = .ok [text] ↔
      ops.calculate .reversePolish (Plan.mk plan).text = .ok text := by
  have hprintable (hgroup : .group "(" ∉ plan) : ∀ token ∈ plan, Postfix.IsPrintable ops token :=
    fun token htoken =>
      (Infix.isPrintable_or_group (hops.mono (by simp)) h token htoken).resolve_right
        fun heq => hgroup (heq ▸ htoken)
  rw [Operators.calculate_reversePolish_eq_ok_iff]
  constructor
  · intro hread
    -- a plan that can be reduced holds no parenthesis and starts with an operand: it is read back
    have hplan := hprintable fun hgroup => Stack.isRead_of_read hread _ hgroup
    have hfirst : ∀ token ∈ plan.head?, token.isOperand = true := by
      cases plan with
      | nil => simp
      | cons first rest => simpa using Stack.isOperand_of_read hread
    exact ⟨plan, Postfix.tokens_text (hops.mono (by simp)) hfirst hplan, hread⟩
  · -- the text is that of such a plan, too, as it has a value
    rintro ⟨result, hresult, hread⟩
    have hplan := hprintable (Postfix.group_notMem_of_tokens hops hresult)
    have hfirst := Postfix.isOperand_of_read_text hops hplan hresult hread
    rw [Postfix.tokens_text (hops.mono (by simp)) hfirst hplan] at hresult
    obtain rfl := Except.ok.inj hresult
    exact hread

/-- **A printed plan has the value of the plan**, for the plan of any infix expression: the text
that the plan is reduced to is the value of the plan's text as a postfix expression, and where there
is none, there is none for the other either. The round trip of §8 is about values; here it holds of
failing plans, too. -/
theorem Plan.reduce_eq_ok_iff_calculate_text {expression : String} {plan : Plan}
    (h : Plan.ofInfix .basic expression = .ok plan) (text : String) :
    plan.reduce .basic = .ok text ↔
      Operators.basic.calculate .reversePolish plan.text = .ok text := by
  obtain ⟨tokens, htokens, rfl⟩ := Outcome.map_eq_ok h
  rw [Plan.reduce, Reduction.run_eq_evaluate, Stack.evaluate_eq_ok_iff]
  exact Infix.read_eq_ok_iff_calculate_text Operators.basic_singleCharacter htokens text

/-- A plan that is reduced, and one that has a parenthesis left and is not. -/
theorem Plan.reduce_eq_ok_iff_calculate_text_quotient :
    Plan.ofInfix .basic "8/(2-4)" = .ok ⟨[.operand "8", .operand "2", .operand "4", .operator "-",
      .operator "/"]⟩ ∧
    Operators.basic.calculate .reversePolish "8 2 4 - /" = .ok "-4" ∧
    Plan.ofInfix .basic "8/(2" = .ok ⟨[.operand "8", .operand "2", .group "(", .operator "/"]⟩ ∧
    Operators.basic.calculate .reversePolish "8 2 ( /" ≠ .ok "4" := by
  have hquotient : Plan.ofInfix .basic "8/(2-4)" = .ok ⟨[.operand "8", .operand "2", .operand "4",
      .operator "-", .operator "/"]⟩ := rfl
  have hunclosed : Plan.ofInfix .basic "8/(2" = .ok ⟨[.operand "8", .operand "2", .group "(",
      .operator "/"]⟩ := rfl
  refine ⟨hquotient, (reduce_eq_ok_iff_calculate_text hquotient "-4").mp ?_, hunclosed,
    fun h => ?_⟩
  · rw [Plan.reduce, Reduction.run_eq_evaluate]
    rfl
  · have hreduce := (reduce_eq_ok_iff_calculate_text hunclosed "4").mpr h
    rw [Plan.reduce, Reduction.run_eq_evaluate] at hreduce
    cases hreduce

end Abacus
