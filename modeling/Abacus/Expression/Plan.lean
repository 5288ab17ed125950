import Abacus.Expression.Token
import Abacus.Text.Quoted

/-!
# Evaluation plans

A plan is a sequence of tokens in Reverse Polish order: each operator stands behind its two
operands. Plans are built by appending tokens and reduced by replacing windows of tokens. A plan is
the `PostfixSequence` of the specification (§3).
-/

namespace Abacus

/-- A sequence of tokens in Reverse Polish order. -/
structure Plan where
  tokens : List Token
deriving DecidableEq, Repr

namespace Plan

/-- The number of tokens. -/
def size (plan : Plan) : Nat :=
  plan.tokens.length

/-- Adds a token at the end. -/
def append (plan : Plan) (token : Token) : Plan :=
  ⟨plan.tokens ++ [token]⟩

/-- The texts of the tokens. -/
def texts (plan : Plan) : List String :=
  plan.tokens.map Token.text

/-- The texts of the tokens, divided by spaces. -/
def text (plan : Plan) : String :=
  " ".intercalate plan.texts

/-- A position between tokens: a negative one counts from the end, and one that lies outside stands
for the nearer end. -/
def boundary (plan : Plan) (i : Int) : Nat :=
  if i < 0 then (i + plan.size).toNat else min i.toNat plan.size

/-- Replaces the tokens from `start` up to `stop` by one token: `replace_window` of the specification.
Where `stop` lies before `start`, the token is inserted at `start`. -/
def splice (plan : Plan) (start stop : Int) (token : Token) : Plan :=
  let first := plan.boundary start
  let last := max first (plan.boundary stop)
  ⟨plan.tokens.take first ++ token :: plan.tokens.drop last⟩

/-- The token at a position; a negative position counts from the end. -/
def get? (plan : Plan) (i : Int) : Option Token :=
  let j := if i < 0 then i + plan.size else i
  if j < 0 then none else plan.tokens[j.toNat]?

/-- A description of a plan for diagnostics. -/
def description (plan : Plan) : String :=
  "PostfixSequence([" ++ ", ".intercalate (plan.texts.map Text.quoted) ++ "])"

end Plan
end Abacus
