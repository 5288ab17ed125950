import Abacus.Expression.Operators
import Abacus.Expression.Token
import Abacus.Proofs.Number.IntegerText

/-!
# Expression trees and how they are written

The readers of expressions know no trees: they turn characters into plans. Here are the trees that
an expression means, so that what the readers do can be compared with them.

- `Tree`: operands, and operations of a table of operators. A tree carries the proofs that its
  operands are runs of digits and its operators are those of the table, so there are no others.
- `Tree.postorder`: the tokens of a tree, operators behind their operands.
- `Tree.Writes`: the infix texts of a tree. They have parentheses at least where precedence and the
  grouping to the left need them, and may have any others.
- `Tree.infixText`: the one that has no others; by `Tree.writes_infixText` every tree has one.
-/

namespace Abacus

/-- An expression over a table of operators. Operands are runs of digits, as they are written, and
each operation carries the proof that its operator is one of the table. -/
inductive Tree (ops : Operators) where
  | operand (digits : Digits)
  | operation (op : Operator) (listed : op ∈ ops.list) (left right : Tree ops)

namespace Tree

variable {ops : Operators}

/-- The tokens of a tree: those of the left operand, those of the right one, the operator. -/
def postorder : Tree ops → List Token
  | operand ds => [.operand ds.text]
  | operation op _ left right => left.postorder ++ right.postorder ++ [.operator op.symbol]

/-- The operator at the root. -/
def root? : Tree ops → Option Operator
  | operand _ => none
  | operation op _ _ _ => some op

/-- The texts that a tree can be written as, and whether the whole is enclosed in parentheses. An
operand of an operation is enclosed if its own operator has lower precedence, and a right operand
also if it has the same. More parentheses than these may be set anywhere. -/
inductive Writes : Tree ops → Bool → String → Prop where
  | operand (ds : Digits) : Writes (operand ds) false ds.text
  | operation {op : Operator} (listed : op ∈ ops.list) {left right : Tree ops} {b c : Bool}
      {s t : String} :
      Writes left b s → Writes right c t →
      (∀ o ∈ left.root?, o.precedence < op.precedence → b = true) →
      (∀ o ∈ right.root?, o.precedence ≤ op.precedence → c = true) →
      Writes (operation op listed left right) false (s ++ op.symbol ++ t)
  | enclosed {tree : Tree ops} {b : Bool} {s : String} :
      Writes tree b s → Writes tree true ("(" ++ s ++ ")")

/-- An infix text of a tree. -/
def IsWritten (tree : Tree ops) (s : String) : Prop :=
  ∃ enclosed, Writes tree enclosed s

/-! ## Parentheses where they are needed -/

/-- A text in parentheses, or not. -/
def enclose (enclosed : Bool) (s : String) : String :=
  if enclosed then "(" ++ s ++ ")" else s

theorem Writes.enclose {tree : Tree ops} {s : String} (h : Writes tree false s) (enclosed : Bool) :
    Writes tree enclosed (Tree.enclose enclosed s) := by
  cases enclosed with
  | false => exact h
  | true => exact h.enclosed

/-- The infix text of a tree without needless parentheses. -/
def infixText : Tree ops → String
  | operand ds => ds.text
  | operation op _ left right =>
    enclose (left.root?.any (·.precedence < op.precedence)) left.infixText ++ op.symbol
      ++ enclose (right.root?.any (·.precedence ≤ op.precedence)) right.infixText

/-- **Every tree can be written**: the text without needless parentheses is one of its texts. So
what is proved of written trees is proved of all trees. -/
theorem writes_infixText (tree : Tree ops) : Writes tree false tree.infixText := by
  induction tree with
  | operand ds => exact .operand ds
  | operation op listed left right ihl ihr =>
    refine .operation listed (ihl.enclose _) (ihr.enclose _) ?_ ?_
    · intro o ho hlt
      exact (Option.any_eq_true _ _).mpr ⟨o, ho, decide_eq_true hlt⟩
    · intro o ho hle
      exact (Option.any_eq_true _ _).mpr ⟨o, ho, decide_eq_true hle⟩

end Tree
end Abacus
