import Abacus.Expression.Operators
import Mathlib.Data.List.Nodup

/-!
# Look-up of operators

The operator table of the specification (§3) maps each symbol to one operator. Here symbols are
distinct by the type of tables, so a listed operator is the one that its symbol finds
(`Operators.find?_symbol`).

`Operators.SingleCharacter` is what the readers of expressions ask of a table: symbols of one
character each, apart from what else expressions are written with. The readers take any table, also
one whose symbols contain digits or parentheses, but what they make of an expression then depends on
which of its meanings a character is tried for first. Theorems about all tables ask for nothing;
theorems about how expressions are written ask for this, which the basic operators satisfy
(`Operators.basic_singleCharacter`).
-/

namespace Abacus
namespace Operators

variable {ops : Operators}

/-- A listed operator is found by its symbol. -/
theorem find?_symbol {op : Operator} (h : op ∈ ops.list) : ops.find? op.symbol = some op := by
  have hsome : (ops.find? op.symbol).isSome := by
    rw [find?, List.find?_isSome]
    exact ⟨op, h, by simp⟩
  obtain ⟨found, hfound⟩ := Option.isSome_iff_exists.mp hsome
  have hsymbol : found.symbol = op.symbol := by simpa using List.find?_some hfound
  have hlisted : found ∈ ops.list := List.mem_of_find?_eq_some hfound
  rw [hfound, List.inj_on_of_nodup_map ops.nodup hlisted h hsymbol]

/-- A symbol finds an operator if the operator is listed and is written so, and only then. -/
theorem find?_eq_some_iff {symbol : String} {op : Operator} :
    ops.find? symbol = some op ↔ op ∈ ops.list ∧ op.symbol = symbol := by
  constructor
  · intro h
    exact ⟨List.mem_of_find?_eq_some h, by simpa using List.find?_some h⟩
  · rintro ⟨hop, rfl⟩
    exact find?_symbol hop

/-- Every operator is written as a single character that is neither a digit nor `reserved`. The
parentheses are reserved in infix expressions and the space in postfix ones. -/
def SingleCharacter (ops : Operators) (reserved : List Char) : Prop :=
  ∀ op ∈ ops.list, ∃ c, op.symbol = String.singleton c ∧ c.isDigit = false ∧ c ∉ reserved

/-- A character that is a digit or reserved finds no operator. -/
theorem SingleCharacter.find?_eq_none {reserved : List Char} (h : ops.SingleCharacter reserved)
    {c : Char} (hc : c.isDigit = true ∨ c ∈ reserved) : ops.find? (String.singleton c) = none := by
  refine List.find?_eq_none.mpr fun op hop heq => ?_
  obtain ⟨d, hd, hdigit, hreserved⟩ := h op hop
  have hdc : d = c := by
    have := congrArg String.toList (hd.symm.trans (of_decide_eq_true heq))
    simpa using this
  rw [hdc] at hdigit hreserved
  rcases hc with hc | hc
  · rw [hc] at hdigit
    cases hdigit
  · exact hreserved hc

/-- No operator is written as a reserved character. -/
theorem SingleCharacter.symbol_ne {reserved : List Char} (h : ops.SingleCharacter reserved)
    {op : Operator} (hop : op ∈ ops.list) {c : Char} (hc : c ∈ reserved) :
    op.symbol ≠ String.singleton c := by
  intro heq
  have hfind := find?_symbol hop
  rw [heq, h.find?_eq_none (.inr hc)] at hfind
  cases hfind

/-- An operator is the one that its character finds. -/
theorem SingleCharacter.exists_char {reserved : List Char} (h : ops.SingleCharacter reserved)
    {op : Operator} (hop : op ∈ ops.list) :
    ∃ c, op.symbol = String.singleton c ∧ c.isDigit = false ∧ c ∉ reserved ∧
      ops.find? (String.singleton c) = some op := by
  obtain ⟨c, hc, hdigit, hreserved⟩ := h op hop
  exact ⟨c, hc, hdigit, hreserved, hc ▸ find?_symbol hop⟩

theorem SingleCharacter.mono {reserved fewer : List Char} (h : ops.SingleCharacter reserved)
    (hsub : fewer ⊆ reserved) : ops.SingleCharacter fewer := by
  intro op hop
  obtain ⟨c, hc, hdigit, hreserved⟩ := h op hop
  exact ⟨c, hc, hdigit, fun hmem => hreserved (hsub hmem)⟩

/-! ## The basic operators -/

/-- The table of the specification: products and quotients outrank sums and differences. -/
theorem mem_basic_iff {op : Operator} :
    op ∈ basic.list ↔ op = ⟨"-", 0, Number.sub⟩ ∨ op = ⟨"+", 0, Number.add⟩ ∨
      op = ⟨"/", 1, Number.div⟩ ∨ op = ⟨"*", 1, Number.mul⟩ := by
  simp [basic]

theorem sub_mem_basic : ⟨"-", 0, Number.sub⟩ ∈ basic.list :=
  mem_basic_iff.mpr (.inl rfl)

theorem add_mem_basic : ⟨"+", 0, Number.add⟩ ∈ basic.list :=
  mem_basic_iff.mpr (.inr (.inl rfl))

theorem div_mem_basic : ⟨"/", 1, Number.div⟩ ∈ basic.list :=
  mem_basic_iff.mpr (.inr (.inr (.inl rfl)))

theorem mul_mem_basic : ⟨"*", 1, Number.mul⟩ ∈ basic.list :=
  mem_basic_iff.mpr (.inr (.inr (.inr rfl)))

/-- The basic operators are single characters apart from blanks and parentheses. -/
theorem basic_singleCharacter : basic.SingleCharacter ['(', ')', ' '] := by
  intro op hop
  rcases mem_basic_iff.mp hop with rfl | rfl | rfl | rfl
  · exact ⟨'-', rfl, by decide⟩
  · exact ⟨'+', rfl, by decide⟩
  · exact ⟨'/', rfl, by decide⟩
  · exact ⟨'*', rfl, by decide⟩

end Operators
end Abacus
