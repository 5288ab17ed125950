import Abacus.Number.Text

/-!
# What can be wrong with an expression

A `Complaint` says what is wrong, an `ExpressionError` also with which expression (specification
§7). Apart from that, the evaluation of an expression fails only where a number is too long to be
read or written, which is not a complaint about the expression; `Fault` and `Failure` have both.
-/

namespace Abacus

/-- What is wrong with an expression. -/
inductive Complaint where
  | unallowedCharacter
  | unbalancedParenthesis
  | operandJoinedToOperator
  | emptyTerm
  | emptyExpression
  /-- The plan of the expression has operators without operands, or operands without operators. -/
  | irreducible
  | divisionByZero
  | overflow
deriving DecidableEq, Repr

/-- The wording of a complaint. -/
def Complaint.detail : Complaint → String
  | .unallowedCharacter => "Unallowed character in expression"
  | .unbalancedParenthesis => "Unbalanced parenthesis in expression"
  | .operandJoinedToOperator => "Operand joined to operator in expression"
  | .emptyTerm => "Empty term in expression"
  | .emptyExpression => "Empty expression"
  | .irreducible => "Error while reducing expression"
  | .divisionByZero => "Division by zero in expression"
  | .overflow => "Numeric overflow in expression"

/-- The complaint about an operation without result. -/
def Complaint.ofArithmetic : ArithmeticFault → Complaint
  | .divisionByZero => .divisionByZero
  | .overflow => .overflow

/-- A complaint about an expression. -/
structure ExpressionError where
  complaint : Complaint
  expression : String
deriving DecidableEq, Repr

/-- The message of an error: its detail and the expression as it was given. -/
def ExpressionError.message (e : ExpressionError) : String :=
  e.complaint.detail ++ " " ++ e.expression

/-- Why an evaluation stops, regardless of the text that is evaluated. -/
inductive Fault where
  | complaint (c : Complaint)
  | numeral (e : NumeralError)
deriving DecidableEq, Repr

/-- Why the evaluation of an expression stops. -/
inductive Failure where
  | expression (e : ExpressionError)
  | numeral (e : NumeralError)
deriving DecidableEq, Repr

/-- The failure that a fault is, once it is known which expression was evaluated. -/
def Fault.within (expression : String) : Fault → Failure
  | .complaint c => .expression ⟨c, expression⟩
  | .numeral e => .numeral e

end Abacus
