import Abacus.Expression.Infix
import Abacus.Expression.Notation
import Abacus.Expression.Postfix
import Abacus.Expression.Reduction

/-!
# Calculation

An expression in either notation is turned into a plan and the plan is reduced: the `Calculator` of
the specification (§6), which is a table of operators here. All complaints are about the expression
as it was given.
-/

namespace Abacus

/-- The plan of an expression in a notation. -/
def Plan.ofExpression (ops : Operators) (form : Notation) (expression : String) :
    Except Complaint Plan :=
  match form with
  | .algebraic => Plan.ofInfix ops expression
  | .reversePolish => Plan.ofPostfix ops expression

namespace Operators

/-- The plan of an expression. -/
def parse (ops : Operators) (form : Notation) (expression : String) : Except ExpressionError Plan :=
  (Plan.ofExpression ops form expression).mapError fun c => ⟨c, expression⟩

/-- The text of the value of an expression: `calculate` of the specification. -/
def calculate (ops : Operators) (form : Notation) (expression : String) :
    Except Failure String := do
  let plan ← (ops.parse form expression).mapError .expression
  (plan.reduce ops).mapError (·.within expression)

end Operators
end Abacus
