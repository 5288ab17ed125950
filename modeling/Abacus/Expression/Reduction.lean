import Abacus.Expression.Error
import Abacus.Expression.Operators
import Abacus.Expression.Plan

/-!
# Reduction of plans

How `reduce_sequence` of the specification (§4.3) evaluates. A plan is reduced by collapsing its
leftmost window of two operands and an operator into one operand, again and again, until a single
token is left. Each intermediate state is a plan in its own right, in which the numbers computed so
far stand as text.

- `Operator.evaluate`: what an operator makes of two operands, from text to text.
- `Reduction.collapse`: one collapse; by `Reduction.length_of_collapse` it takes two tokens away, so
  that the reduction ends.
- `Plan.reduce`: the text of the value of a plan.
-/

namespace Abacus

/-- The text of what an operator computes from two operands, the left one being read first. -/
def Operator.evaluate (op : Operator) (left right : String) : Except Fault String := do
  let x ← (Number.ofText left).mapError .numeral
  let y ← (Number.ofText right).mapError .numeral
  let v ← (op.apply x y).mapError fun fault => .complaint (.ofArithmetic fault)
  if v.isFinite then (v.text).mapError .numeral else throw (.complaint .overflow)

namespace Reduction

/-- Collapses the leftmost window of two operands and a known operator. Only operands may stand
before it. These are steps 1 to 4 of the loop of the specification. -/
def collapse (ops : Operators) : List Token → Except Fault (List Token)
  | .operand a :: .operand b :: .operand c :: rest =>
    (collapse ops (.operand b :: .operand c :: rest)).map (.operand a :: ·)
  | .operand a :: .operand b :: .operator symbol :: rest =>
    match ops.find? symbol with
    | some op => (op.evaluate a b).map (.operand · :: rest)
    | none => .error (.complaint .irreducible)
  | _ => .error (.complaint .irreducible)

/-- Collapsing a window takes two tokens away. -/
theorem length_of_collapse {ops : Operators} {tokens next : List Token}
    (h : collapse ops tokens = .ok next) : next.length + 2 = tokens.length := by
  fun_induction collapse ops tokens generalizing next with
  | case1 a b c rest ih =>
    cases hc : collapse ops (.operand b :: .operand c :: rest) with
    | error e => simp [hc, Except.map] at h
    | ok tail =>
      simp only [hc, Except.map, Except.ok.injEq] at h
      have := ih hc
      subst h
      simp only [List.length_cons] at this ⊢
      omega
  | case2 a b symbol rest op hop =>
    cases hv : op.evaluate a b with
    | error e => simp [hv, Except.map] at h
    | ok v =>
      simp only [hv, Except.map, Except.ok.injEq] at h
      subst h
      simp
  | case3 => simp at h
  | case4 => simp at h

/-- Collapses windows until one token is left, which must be an operand. -/
def run (ops : Operators) : List Token → Except Fault String
  | [] => .error (.complaint .emptyExpression)
  | [.operand text] => .ok text
  | [.operator _] => .error (.complaint .irreducible)
  | [.group _] => .error (.complaint .irreducible)
  | first :: second :: rest =>
    match _ : collapse ops (first :: second :: rest) with
    | .error fault => .error fault
    | .ok next => run ops next
termination_by tokens => tokens.length
decreasing_by
  have := length_of_collapse (by assumption)
  omega

end Reduction

/-- Reduces a plan to the text of its value: `reduce_sequence` of the specification. -/
def Plan.reduce (plan : Plan) (ops : Operators) : Except Fault String :=
  Reduction.run ops plan.tokens

end Abacus
