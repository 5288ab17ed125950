import Abacus.Expression.Error
import Abacus.Expression.Operators
import Abacus.Expression.Plan

/-!
# Plans of infix expressions

How `parse_infix` of the specification (§4.1) reads. An infix expression is divided into pieces:
each character of an operator symbol and each parenthesis is a piece of its own, and so is each run
of other characters. The pieces are read from left to right. Operands go into the plan at once; an
operator waits until one of no higher precedence follows, or a closing parenthesis, or the end. No
blanks are skipped and no order of the pieces is enforced here: whether the plan can be reduced is
found out by reducing it.

- `Infix.lexemes`: the pieces of an expression and what each of them is.
- `Infix.step`: the effect of one lexeme on what waits, with what it puts into the plan.
- `Infix.read`: the effect of a run of lexemes; by `Infix.read_append` it can be interrupted
  anywhere.
- `Plan.ofInfix`: the plan of an expression.
-/

namespace Abacus
namespace Infix

/-! ## Pieces -/

/-- The characters that are pieces of their own. -/
def delimiters (ops : Operators) : List Char :=
  ops.symbols.flatMap String.toList ++ ['(', ')']

/-- Divides an expression into its pieces. -/
def pieces (ops : Operators) (cs : List Char) : List (List Char) :=
  let alone := delimiters ops
  cs.splitBy fun a b => !alone.contains a && !alone.contains b

/-- What a piece is. -/
inductive Lexeme where
  | operand (text : String)
  | operator (op : Operator)
  | opening
  | closing
  /-- A piece that has no place in an expression. -/
  | foreign

/-- Recognises a piece: digits first, then an operator, then a parenthesis. -/
def Lexeme.ofPiece (ops : Operators) (piece : List Char) : Lexeme :=
  if piece.all Char.isDigit then .operand (String.ofList piece)
  else match ops.find? (String.ofList piece) with
    | some op => .operator op
    | none =>
      if piece = ['('] then .opening
      else if piece = [')'] then .closing
      else .foreign

/-- The lexemes of an expression. -/
def lexemes (ops : Operators) (expression : String) : List Lexeme :=
  (pieces ops expression.toList).map (Lexeme.ofPiece ops)

/-! ## Waiting operators -/

/-- What waits to be put into the plan, or to be closed. -/
inductive Pending where
  | opened
  | operator (op : Operator)

namespace Pending

/-- An operator that starts to wait. One that is written like an opening parenthesis is one. -/
def ofOperator (op : Operator) : Pending :=
  if op.symbol = "(" then .opened else .operator op

/-- Whether this is an open parenthesis. -/
def isOpened : Pending → Bool
  | .opened => true
  | .operator _ => false

/-- Whether this goes into the plan before an operator that follows. -/
def yieldsTo (incoming : Operator) : Pending → Bool
  | .opened => false
  | .operator op => incoming.precedence ≤ op.precedence

/-- The token that is put into the plan. -/
def token : Pending → Token
  | .opened => .group "("
  | .operator op => .operator op.symbol

end Pending

/-- Reads one lexeme. `pending` is what waits, the latest first; the result is what is put into the
plan and what waits afterwards. -/
def step (pending : List Pending) : Lexeme → Except Complaint (List Token × List Pending)
  | .operand text => .ok ([.operand text], pending)
  | .operator op =>
    .ok ((pending.takeWhile (·.yieldsTo op)).map Pending.token,
      .ofOperator op :: pending.dropWhile (·.yieldsTo op))
  | .opening => .ok ([], .opened :: pending)
  | .closing =>
    match pending.dropWhile (!·.isOpened) with
    | [] => .error .unbalancedParenthesis
    | _ :: outer => .ok ((pending.takeWhile (!·.isOpened)).map Pending.token, outer)
  | .foreign => .error .unallowedCharacter

/-- Reads lexemes in order. The result is all that is put into the plan, and what waits at the
end. -/
def read (pending : List Pending) : List Lexeme → Except Complaint (List Token × List Pending)
  | [] => .ok ([], pending)
  | lexeme :: rest => do
    let (first, pending) ← step pending lexeme
    let (later, pending) ← read pending rest
    return (first ++ later, pending)

/-- Reading can be interrupted anywhere. -/
theorem read_append (pending : List Pending) (xs ys : List Lexeme) :
    read pending (xs ++ ys) = do
      let (first, pending) ← read pending xs
      let (later, pending) ← read pending ys
      return (first ++ later, pending) := by
  induction xs generalizing pending with
  | nil =>
    cases h : read pending ys <;> simp [read, h, bind, Except.bind, pure, Except.pure]
  | cons x xs ih =>
    cases hx : step pending x with
    | error e => simp [read, hx, bind, Except.bind]
    | ok r =>
      simp only [List.cons_append, read, hx, bind, Except.bind, ih, pure, Except.pure]
      cases hxs : read r.2 xs with
      | error e => rfl
      | ok q =>
        simp only
        cases hys : read q.2 ys with
        | error e => rfl
        | ok t => simp

/-- The tokens of an infix expression: what is put into the plan, and in the end what still waits,
the latest first. -/
def tokens (ops : Operators) (expression : String) : Except Complaint (List Token) := do
  let (emitted, pending) ← read [] (lexemes ops expression)
  return emitted ++ pending.map Pending.token

end Infix

/-- The plan of an infix expression. -/
def Plan.ofInfix (ops : Operators) (expression : String) : Except Complaint Plan :=
  (Infix.tokens ops expression).map Plan.mk

end Abacus
