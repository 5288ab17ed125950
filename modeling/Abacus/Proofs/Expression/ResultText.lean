import Abacus.Proofs.Expression.Calculation
import Abacus.Proofs.Expression.CanonicalResult
import Abacus.Proofs.Expression.Operands

/-!
# The characters of results

The value of an expression is one of its operands or was written for a finite number
(`Operators.cases_of_calculate`). So there is nothing in its text but digits, signs, points and the
letter of a power of ten (`Operators.mem_of_calculate`). In a document for readers a result thus
never ends its line, and has no equals sign in it.
-/

namespace Abacus

/-- A character that numbers are written with. -/
def IsNumeralChar (c : Char) : Prop :=
  c.isDigit = true ∨ c ∈ ['.', 'e', '+', '-']

instance : DecidablePred IsNumeralChar :=
  fun _ => inferInstanceAs (Decidable (_ ∨ _))

theorem isNumeralChar_of_mem_signChars {negative : Bool} {c : Char}
    (h : c ∈ Binary64.signChars negative) : IsNumeralChar c := by
  cases negative with
  | true =>
    obtain rfl := List.mem_singleton.mp h
    decide
  | false => cases h

theorem Digits.isNumeralChar_of_mem_signed {negative : Bool} {ds : Digits} {c : Char}
    (h : c ∈ (ds.signed negative).toList) : IsNumeralChar c := by
  rw [signed, String.toList_ofList] at h
  rcases List.mem_append.mp h with h | h
  · exact isNumeralChar_of_mem_signChars h
  · exact .inl (ds.isDigit c h)

/-- What is written for a finite number. -/
theorem Number.isNumeralChar_of_mem_text {v : Number} (hv : v.isFinite = true) {text : String}
    (h : v.text = .ok text) {c : Char} (hc : c ∈ text.toList) : IsNumeralChar c := by
  have hinteger (n : Int) (hn : integerText n = .ok text) : IsNumeralChar c := by
    rw [eq_toString_of_integerText hn, Digits.toString_eq_signed] at hc
    exact Digits.isNumeralChar_of_mem_signed hc
  cases v with
  | int n => exact hinteger n h
  | float x =>
    cases hshown : shownInteger? x with
    | some n =>
      rw [Number.text, hshown] at h
      exact hinteger n h
    | none =>
      rw [Number.text, hshown] at h
      obtain rfl := Except.ok.inj h
      obtain ⟨negative, n, htext, -⟩ := exists_text_eq hv
      rw [htext, String.toList_ofList] at hc
      rcases List.mem_append.mp hc with hc | hc
      · exact isNumeralChar_of_mem_signChars hc
      · exact Decimal.Numeral.mem_chars hc

namespace Operators

variable {ops : Operators} {form : Notation} {expression text : String}

/-- **A value** is an operand of the expression or the canonical text of a number. -/
theorem cases_of_calculate (h : ops.calculate form expression = .ok text) :
    (∃ ds : Digits, text = ds.text) ∨ Number.IsCanonical text := by
  obtain ⟨plan, hplan, hread⟩ := calculate_eq_ok_iff.mp h
  have hreduce : plan.reduce ops = .ok text := by
    rw [Plan.reduce_eq_evaluate]
    exact Stack.evaluate_eq_ok_iff.mpr hread
  rcases Plan.isCanonical_of_passes (Plan.passes_of_reduce hreduce) List.mem_cons_self with
    hoperand | hcanonical
  · exact .inl (Plan.exists_digits_of_mem hplan hoperand)
  · exact .inr hcanonical

/-- **The characters of a value** are those that numbers are written with. -/
theorem mem_of_calculate (h : ops.calculate form expression = .ok text) {c : Char}
    (hc : c ∈ text.toList) : IsNumeralChar c := by
  rcases cases_of_calculate h with ⟨ds, rfl⟩ | hcanonical
  · exact Digits.isNumeralChar_of_mem_signed (Digits.signed_false ds ▸ hc)
  · obtain ⟨v, -, hv, htext⟩ := hcanonical.exists_value
    exact Number.isNumeralChar_of_mem_text hv htext hc

end Operators
end Abacus
