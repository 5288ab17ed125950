import Abacus.Expression.Error
import Abacus.Expression.Operators
import Abacus.Expression.Plan

/-!
# Plans of postfix expressions

How `parse_postfix` of the specification (§4.2) reads. A postfix expression is read character by
character into slots. A space or an operator moves on to the next slot unless a space precedes it;
for the first character it is the last one of the expression that counts as preceding. An operator
is put into its slot, and digits add to the operand in theirs. A slot that is left empty before one
that is filled makes the expression invalid.

- `Postfix.fill`: the slots of a run of characters.
- `Postfix.gather`: the tokens in the slots.
- `Plan.ofPostfix`: the plan of an expression.
-/

namespace Abacus
namespace Postfix

/-- The operator that a character is the symbol of. -/
def operatorAt? (ops : Operators) (c : Char) : Option Operator :=
  ops.find? (String.singleton c)

/-- The slot after a digit. -/
def addDigit (c : Char) : Option Token → Except Complaint Token
  | none => .ok (.operand (String.singleton c))
  | some (.operand text) => .ok (.operand (text.push c))
  | some (.operator _) => .error .operandJoinedToOperator
  | some (.group _) => .error .operandJoinedToOperator

/-- Reads characters into slots. `previous` is the character before them and `slot` what the current
slot holds so far; the result is the current slot and all later ones. -/
def fill (ops : Operators) (previous : Char) (slot : Option Token) :
    List Char → Except Complaint (List (Option Token))
  | [] => .ok [slot]
  | c :: cs => do
    let operator := operatorAt? ops c
    if c = ' ' || operator.isSome then
      let written := operator.map fun op => Token.operator op.symbol
      if previous = ' ' then
        fill ops c (written <|> slot) cs
      else
        return slot :: (← fill ops c written cs)
    else if c.isDigit then
      fill ops c (some (← addDigit c slot)) cs
    else
      throw .unallowedCharacter

/-- The tokens in the slots. The empty slots at the end do not count; any other must be filled. -/
def gather : List (Option Token) → Except Complaint (List Token)
  | [] => .ok []
  | none :: slots => if slots.all Option.isNone then .ok [] else .error .emptyTerm
  | some token :: slots => (gather slots).map (token :: ·)

/-- The tokens of a postfix expression. -/
def tokens (ops : Operators) (cs : List Char) : Except Complaint (List Token) := do
  gather (← fill ops (cs.getLast?.getD ' ') none cs)

end Postfix

/-- The plan of a postfix expression. -/
def Plan.ofPostfix (ops : Operators) (expression : String) : Except Complaint Plan :=
  (Postfix.tokens ops expression.toList).map Plan.mk

end Abacus
