import Abacus.Number.Basic

/-!
# Operators

The operators that expressions are read and evaluated with: the operator table of the specification
(§3). They are listed in order, and each symbol stands for one operator only.

- `Operators`: a list of operators with distinct symbols.
- `Operators.insert`: adds an operator in the place of an earlier one with its symbol;
  `mem_map_symbol_put` and `nodup_put` say that this neither loses a symbol nor repeats one.
- `Operators.basic`: addition, subtraction, multiplication and division.
-/

namespace Abacus

/-- A binary operator: its symbol, its precedence and what it computes. -/
structure Operator where
  symbol : String
  precedence : Int
  apply : Number.Operation

/-- Operators in order, with distinct symbols. -/
structure Operators where
  list : List Operator
  nodup : (list.map Operator.symbol).Nodup

namespace Operators

/-- The symbols in order. -/
def symbols (ops : Operators) : List String :=
  ops.list.map Operator.symbol

/-- The operator with the given symbol. -/
def find? (ops : Operators) (symbol : String) : Option Operator :=
  ops.list.find? fun op => op.symbol = symbol

/-- Whether a symbol is that of an operator. -/
def contains (ops : Operators) (symbol : String) : Bool :=
  (ops.find? symbol).isSome

/-- Puts an operator in the place of the one with the same symbol, or at the end if there is
none. -/
def put (op : Operator) : List Operator → List Operator
  | [] => [op]
  | other :: rest => if other.symbol = op.symbol then op :: rest else other :: put op rest

theorem mem_map_symbol_put {op : Operator} {ops : List Operator} {s : String} :
    s ∈ (put op ops).map Operator.symbol ↔ s = op.symbol ∨ s ∈ ops.map Operator.symbol := by
  induction ops with
  | nil => simp [put]
  | cons other rest ih =>
    unfold put
    split
    · next h => simp [h]
    · simp only [List.map_cons, List.mem_cons, ih]
      grind

theorem nodup_put (op : Operator) {ops : List Operator} (h : (ops.map Operator.symbol).Nodup) :
    ((put op ops).map Operator.symbol).Nodup := by
  induction ops with
  | nil => simp [put]
  | cons other rest ih =>
    rw [List.map_cons, List.nodup_cons] at h
    unfold put
    split
    · next he => simpa [← he] using h
    · next hne =>
      rw [List.map_cons, List.nodup_cons, mem_map_symbol_put]
      exact ⟨by simpa [hne] using h.1, ih h.2⟩

/-- No operators. -/
def empty : Operators :=
  ⟨[], by simp⟩

/-- Adds an operator; one with a symbol that is present already replaces the earlier one in its
place. -/
def insert (ops : Operators) (op : Operator) : Operators :=
  ⟨put op ops.list, nodup_put op ops.nodup⟩

/-- The given operators: a repeated symbol keeps its first place and its last operator. -/
def ofList (list : List Operator) : Operators :=
  list.foldl insert empty

/-- The four basic operators. Multiplication and division come before addition and subtraction. -/
def basic : Operators where
  list :=
    [⟨"-", 0, Number.sub⟩, ⟨"+", 0, Number.add⟩, ⟨"/", 1, Number.div⟩, ⟨"*", 1, Number.mul⟩]
  nodup := by decide

end Operators
end Abacus
