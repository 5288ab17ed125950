/-!
# Tokens

The symbols of an evaluation plan (specification §3). The text of an operand is kept exactly as it
was written.
-/

namespace Abacus

/-- One symbol of an evaluation plan. -/
inductive Token where
  /-- A number, as written. -/
  | operand (text : String)
  /-- The symbol of an operator. -/
  | operator (symbol : String)
  /-- An opening parenthesis that is never closed. -/
  | group (symbol : String)
deriving DecidableEq, Repr

namespace Token

/-- The text of a token. -/
def text : Token → String
  | .operand text => text
  | .operator symbol => symbol
  | .group symbol => symbol

/-- Whether a token is a number. -/
def isOperand : Token → Bool
  | .operand _ => true
  | .operator _ => false
  | .group _ => false

/-- Whether a token is the symbol of an operator. -/
def isOperator : Token → Bool
  | .operand _ => false
  | .operator _ => true
  | .group _ => false

/-- The name of the kind of a token. -/
def kindName : Token → String
  | .operand _ => "operand"
  | .operator _ => "operator"
  | .group _ => "group"

end Token
end Abacus
