import Abacus.Expression.Token
import Abacus.Proofs.Expression.Operators
import Abacus.Proofs.Number.IntegerText
import Mathlib.Data.List.TakeWhile

/-!
# Terms of a text

What a text says if only its digits and its symbols count: `Operators.terms` are the maximal runs of
digits and the single symbols, in the order in which they stand. A postfix expression is read as its
terms (specification §4.2), and the plan of an infix expression consists of them, in an order of its
own (§4.1). The definition looks at a text as a whole and has neither slots nor operators that wait,
so what is said about the readers in its terms is said without them.

- `Operators.terms_cons_digit`, `Operators.terms_cons_symbol` and `Operators.terms_cons_skipped`:
  the first term, by what the first character is.
- `Operators.terms_append_digits`: where a run of digits ends.
- `Operators.filter_isOperator_terms`: no symbol of the text is lost.
-/

namespace Abacus
namespace Operators

/-- **The terms of a text**: its maximal runs of digits and its symbols, in order. What is neither
digit nor symbol divides terms and is skipped. -/
def terms (ops : Operators) : List Char → List Token
  | [] => []
  | c :: cs =>
    if c.isDigit then
      .operand (String.ofList (c :: cs.takeWhile Char.isDigit))
        :: terms ops (cs.dropWhile Char.isDigit)
    else match ops.find? (String.singleton c) with
      | some op => .operator op.symbol :: terms ops cs
      | none => terms ops cs
termination_by cs => cs.length
decreasing_by
  all_goals simp_wf
  have := (List.dropWhile_sublist (p := Char.isDigit) (l := cs)).length_le
  omega

variable {ops : Operators}

@[simp] theorem terms_nil : ops.terms [] = [] := by
  rw [terms]

/-! ## The first term -/

theorem terms_cons_digit {c : Char} (hc : c.isDigit = true) (cs : List Char) :
    ops.terms (c :: cs) = .operand (String.ofList (c :: cs.takeWhile Char.isDigit))
      :: ops.terms (cs.dropWhile Char.isDigit) := by
  rw [terms, if_pos hc]

theorem terms_cons_symbol {c : Char} (hc : c.isDigit = false) {op : Operator}
    (hop : ops.find? (String.singleton c) = some op) (cs : List Char) :
    ops.terms (c :: cs) = .operator op.symbol :: ops.terms cs := by
  rw [terms, if_neg (Bool.eq_false_iff.mp hc), hop]

theorem terms_cons_skipped {c : Char} (hc : c.isDigit = false)
    (hop : ops.find? (String.singleton c) = none) (cs : List Char) :
    ops.terms (c :: cs) = ops.terms cs := by
  rw [terms, if_neg (Bool.eq_false_iff.mp hc), hop]

/-- A run of digits that no digit follows is a term. -/
theorem terms_append_digits (ds : Digits) {cs : List Char}
    (hcs : ∀ c ∈ cs.head?, c.isDigit = false) :
    ops.terms (ds.chars ++ cs) = .operand ds.text :: ops.terms cs := by
  cases hchars : ds.chars with
  | nil => exact absurd hchars ds.ne_nil
  | cons d rest =>
    have hdigits : ∀ c ∈ d :: rest, c.isDigit = true := hchars ▸ ds.isDigit
    obtain ⟨hd, hrest⟩ := List.forall_mem_cons.mp hdigits
    have htake : cs.takeWhile Char.isDigit = [] := by
      cases cs with
      | nil => rfl
      | cons c cs => simp [hcs c rfl]
    have hdrop : cs.dropWhile Char.isDigit = cs := by
      cases cs with
      | nil => rfl
      | cons c cs => simp [hcs c rfl]
    rw [List.cons_append, terms_cons_digit hd, List.takeWhile_append_of_pos hrest,
      List.dropWhile_append_of_pos hrest, htake, hdrop, List.append_nil, Digits.text, hchars]

/-- A text with a digit or a symbol in it has a term. -/
theorem terms_ne_nil {cs : List Char} {c : Char} (hmem : c ∈ cs)
    (hc : c.isDigit = true ∨ ops.contains (String.singleton c) = true) : ops.terms cs ≠ [] := by
  fun_induction terms ops cs with
  | case1 => cases hmem
  | case2 d cs hd ih => exact List.cons_ne_nil _ _
  | case3 d cs _ op hop ih => exact List.cons_ne_nil _ _
  | case4 d cs hd hop ih =>
    -- the character that is skipped is another one
    rcases List.mem_cons.mp hmem with rfl | hmem
    · rcases hc with hc | hc
      · exact absurd hc hd
      · rw [contains, hop] at hc
        cases hc
    · exact ih hmem

/-- The operators among the terms are the symbols of the text. -/
theorem filter_isOperator_terms {reserved : List Char} (hops : ops.SingleCharacter reserved)
    (cs : List Char) : (ops.terms cs).filter Token.isOperator
      = (cs.filter fun c => ops.contains (String.singleton c)).map
          fun c => .operator (String.singleton c) := by
  have hdigit {c : Char} (hc : c.isDigit = true) : ops.contains (String.singleton c) = false := by
    rw [contains, hops.find?_eq_none (.inl hc)]
    rfl
  fun_induction terms ops cs with
  | case1 => rfl
  | case2 c cs hc ih =>
    have hrun : (cs.takeWhile Char.isDigit).filter (fun c => ops.contains (String.singleton c))
        = [] := by
      refine List.filter_eq_nil_iff.mpr fun d hd => ?_
      rw [hdigit (List.mem_takeWhile_imp hd)]
      exact Bool.false_ne_true
    -- the symbols of the text are those behind the run of digits
    conv_rhs => rw [← List.takeWhile_append_dropWhile (p := Char.isDigit) (l := cs)]
    rw [List.filter_cons_of_neg (by simp [Token.isOperator]), ih,
      List.filter_cons_of_neg (by simp [hdigit hc]), List.filter_append, hrun, List.nil_append]
  | case3 c cs _ op hop ih =>
    have hsymbol : op.symbol = String.singleton c := (find?_eq_some_iff.mp hop).2
    rw [List.filter_cons_of_pos rfl, ih, List.filter_cons_of_pos (by rw [contains, hop]; rfl),
      List.map_cons, hsymbol]
  | case4 c cs _ hop ih =>
    rw [ih, List.filter_cons_of_neg (by rw [contains, hop]; exact Bool.false_ne_true)]

end Operators
end Abacus
