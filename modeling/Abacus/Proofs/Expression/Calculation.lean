import Abacus.Expression.Calculation
import Abacus.Proofs.Expression.Run

/-!
# Calculation through a plan

An expression that has no plan is complained about (`Operators.calculate_of_complaint`). One that
has a plan is worth what the stack machine makes of the plan's tokens, and the failures of the
machine are about the expression (`Operators.calculate_of_plan`). So an expression has a value if
and only if it has a plan that the machine reads to the end and that leaves a single operand
(`Operators.calculate_eq_ok_iff`).

Facts about the values of expressions start from here: the plan is what a reader of expressions has
made (specification §4.1, §4.2), and the run of the machine is all that is left of the reduction
(§4.3).
-/

namespace Abacus.Operators

variable {ops : Operators} {form : Notation} {expression : String}

theorem calculate_of_complaint {c : Complaint}
    (h : Plan.ofExpression ops form expression = .error c) :
    ops.calculate form expression = .error (.expression ⟨c, expression⟩) := by
  rw [calculate, parse, h]
  rfl

/-- What the machine complains about does not name an expression. It is made a complaint about the
one that was given. -/
theorem calculate_of_plan {plan : Plan} (h : Plan.ofExpression ops form expression = .ok plan) :
    ops.calculate form expression
      = (Stack.evaluate ops plan.tokens).mapError (·.within expression) := by
  rw [calculate, parse, h, ← Reduction.run_eq_evaluate]
  rfl

theorem parse_eq_ok_iff {plan : Plan} : ops.parse form expression = .ok plan ↔
    Plan.ofExpression ops form expression = .ok plan := by
  constructor
  · exact Outcome.mapError_eq_ok
  · intro h
    rw [parse, h]
    rfl

/-- A failure that is no complaint is one of the machine: the readers of expressions only complain.
-/
theorem calculate_eq_numeral_iff_evaluate {e : NumeralError} :
    ops.calculate form expression = .error (.numeral e) ↔
      ∃ plan, Plan.ofExpression ops form expression = .ok plan ∧
        Stack.evaluate ops plan.tokens = .error (.numeral e) := by
  cases hplan : Plan.ofExpression ops form expression with
  | error c =>
    rw [calculate_of_complaint hplan]
    constructor
    · intro h
      cases h
    · rintro ⟨plan, h, -⟩
      cases h
  | ok plan =>
    rw [calculate_of_plan hplan]
    constructor
    · intro h
      obtain ⟨fault, hevaluate, hfault⟩ := Outcome.mapError_eq_error h
      cases fault with
      | complaint c => cases hfault
      | numeral e' =>
        obtain rfl := Failure.numeral.inj hfault
        exact ⟨plan, rfl, hevaluate⟩
    · rintro ⟨other, hother, hevaluate⟩
      obtain rfl := Except.ok.inj hother
      rw [hevaluate]
      rfl

/-- **A value** is what is left on the stack when the plan has been read. What is said of values is
said of runs by this, with no look at the complaints of an expression. -/
theorem calculate_eq_ok_iff {text : String} :
    ops.calculate form expression = .ok text ↔
      ∃ plan, Plan.ofExpression ops form expression = .ok plan ∧
        Stack.read ops [] plan.tokens = .ok [text] := by
  cases hplan : Plan.ofExpression ops form expression with
  | error c =>
    rw [calculate_of_complaint hplan]
    constructor
    · intro h
      cases h
    · rintro ⟨plan, h, -⟩
      cases h
  | ok plan =>
    rw [calculate_of_plan hplan]
    constructor
    · intro h
      exact ⟨plan, rfl, Stack.evaluate_eq_ok_iff.mp (Outcome.mapError_eq_ok h)⟩
    · rintro ⟨other, hother, hread⟩
      obtain rfl := Except.ok.inj hother
      rw [Stack.evaluate_eq_ok_iff.mpr hread]
      rfl

/-- The same for what a reader makes the plan of. -/
theorem calculate_eq_ok_iff_of_tokens {result : Except Complaint (List Token)}
    (h : Plan.ofExpression ops form expression = result.map Plan.mk) {text : String} :
    ops.calculate form expression = .ok text ↔
      ∃ tokens, result = .ok tokens ∧ Stack.read ops [] tokens = .ok [text] := by
  rw [calculate_eq_ok_iff, h]
  constructor
  · rintro ⟨plan, hplan, hread⟩
    obtain ⟨tokens, htokens, rfl⟩ := Outcome.map_eq_ok hplan
    exact ⟨tokens, htokens, hread⟩
  · rintro ⟨tokens, rfl, hread⟩
    exact ⟨⟨tokens⟩, rfl, hread⟩

theorem calculate_algebraic_eq_ok_iff {text : String} :
    ops.calculate .algebraic expression = .ok text ↔
      ∃ tokens, Infix.tokens ops expression = .ok tokens ∧
        Stack.read ops [] tokens = .ok [text] :=
  calculate_eq_ok_iff_of_tokens rfl

theorem calculate_reversePolish_eq_ok_iff {text : String} :
    ops.calculate .reversePolish expression = .ok text ↔
      ∃ tokens, Postfix.tokens ops expression.toList = .ok tokens ∧
        Stack.read ops [] tokens = .ok [text] :=
  calculate_eq_ok_iff_of_tokens rfl

end Abacus.Operators
