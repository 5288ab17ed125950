import Abacus.Proofs.Binary64.Nearest
import Abacus.Proofs.Expression.DigitLimit

/-!
# Quotients of integers

A quotient that leaves no remainder is exact, and any other is rounded to double precision, never
truncated (specification §4.3). A rounded quotient can be an integer, and it is then written as one.
That happens only where double precision numbers are as far apart as integers, or where the quotient
is so small that it is rounded to zero (`Operators.calculate_quotient`): unless the dividend has `2
^ 53` or more, or the divisor `2 ^ 1075` or more, only an exact quotient is written as an integer.

Which number a quotient is rounded to is a matter of `Binary64`, and is taken from there as a
nearest number to the quotient. What is added here is how the text of a calculation tells which of
the two kinds its value was.
-/

namespace Abacus
namespace Number

/-- A double precision number that is written as an integer is equal to it. -/
theorem toInt?_of_text_signed {x : Binary64} (hx : x.isFinite = true) {negative : Bool}
    {ds : Digits} (h : (Number.float x).text = .ok (ds.signed negative)) :
    ∃ n : Int, x.toInt? = some n ∧ n.natAbs < 2 ^ 53 ∧ ds.signed negative = toString n := by
  cases hshown : shownInteger? x with
  | some n =>
    obtain ⟨hn, hbound⟩ := Option.filter_eq_some_iff.mp hshown
    rw [text, hshown] at h
    have hwritten : integerText n = .ok (ds.signed negative) := h
    exact ⟨n, hn, of_decide_eq_true hbound, eq_toString_of_integerText hwritten⟩
  | none =>
    -- a text with a point or a power of ten is no integer
    rw [text, hshown] at h
    have hread := ofText_text_float hx
    rw [Except.ok.inj h] at hread
    cases eq_of_ofText_signed hread

theorem roundQuotient_natCast (a b : Nat) : roundQuotient a b =
    if (Binary64.ofRatio false (a * Binary64.unitsPerOne) b).isFinite then
      .ok (Binary64.ofRatio false (a * Binary64.unitsPerOne) b)
    else .error .overflow := by
  have hsign (n : Nat) : decide ((n : Int) < 0) = false := by simp
  simp only [roundQuotient, hsign, Int.natAbs_natCast, bne_self_eq_false]

end Number

namespace Operators

/-- What the quotient of two runs of digits is, if it has a value. -/
theorem exists_of_calculate_quotient {a b : Digits} {text : String}
    (h : basic.calculate .algebraic (a.text ++ "/" ++ b.text) = .ok text) :
    ∃ v : Number, Number.divideInts a.value b.value = .ok v ∧ v.isFinite = true ∧
      v.text = .ok text := by
  obtain ⟨plan, hplan, hread⟩ := calculate_eq_ok_iff.mp h
  obtain rfl := Except.ok.inj ((ofExpression_operation div_mem_basic a b).symm.trans hplan)
  have hread : (Stack.step basic [b.text, a.text] (.operator "/")).bind
      (Stack.read basic · []) = .ok [text] := hread
  -- the machine applies the one operator to the two operands as they were written
  rw [Stack.step_operator (find?_symbol div_mem_basic)] at hread
  obtain ⟨stack, hstep, hstack⟩ := Outcome.bind_eq_ok hread
  obtain ⟨value, hvalue, rfl⟩ := Outcome.map_eq_ok hstep
  cases hstack
  obtain ⟨x, y, v, hx, hy, hv, hfinite, htext⟩ := Operator.evaluate_eq_ok hvalue
  rw [← Digits.signed_false] at hx hy
  obtain rfl := Number.eq_of_ofText_signed hx
  obtain rfl := Number.eq_of_ofText_signed hy
  exact ⟨v, hv, hfinite, htext⟩

/-- **Quotients that are written as integers**: they are exact, or else a double precision number
that is nearest to the quotient happens to be an integer below `2 ^ 53`. The latter takes a large
dividend, so that numbers are as far apart as integers where the quotient lies, or a divisor so
large that the quotient is rounded to zero. -/
theorem calculate_quotient {a b : Digits} {text : String}
    (h : basic.calculate .algebraic (a.text ++ "/" ++ b.text) = .ok text)
    {negative : Bool} {ds : Digits} (hinteger : text = ds.signed negative) :
    ∃ n : Int, text = toString n ∧
      ((b.value ∣ a.value ∧ n * b.value = a.value) ∨
        (¬ b.value ∣ a.value ∧ n.natAbs < 2 ^ 53 ∧
          (∃ x : Binary64, x.toInt? = some n ∧ x.IsNearest (a.value / b.value)) ∧
          (2 ^ 53 ≤ a.value ∨ 2 ^ 1075 ≤ b.value))) := by
  obtain ⟨v, hv, hfinite, htext⟩ := exists_of_calculate_quotient h
  unfold Number.divideInts at hv
  split at hv
  · cases hv
  next hzero =>
  have hpos : 0 < b.value := Nat.pos_of_ne_zero (by exact_mod_cast hzero)
  split at hv
  · next hdvd =>
    obtain rfl := Except.ok.inj hv
    have hwritten : Number.integerText (a.value / b.value) = .ok text := htext
    exact ⟨_, Number.eq_toString_of_integerText hwritten,
      .inl ⟨Int.natCast_dvd_natCast.mp hdvd, Int.ediv_mul_cancel hdvd⟩⟩
  · next hdvd =>
    rw [Int.natCast_dvd_natCast] at hdvd
    obtain ⟨x, hx, rfl⟩ := Outcome.map_eq_ok hv
    rw [Number.roundQuotient_natCast] at hx
    split at hx
    · obtain rfl := Except.ok.inj hx
      rw [hinteger] at htext
      obtain ⟨n, hn, hbound, hwritten⟩ := Number.toInt?_of_text_signed hfinite htext
      refine ⟨n, hinteger.trans hwritten, .inr ⟨hdvd, hbound, ⟨_, hn, ?_⟩, ?_⟩⟩
      · have hone : (Binary64.unitsPerOne : ℚ) ≠ 0 :=
          Nat.cast_ne_zero.mpr Binary64.unitsPerOne_pos.ne'
        have hnearest := Binary64.isNearest_ofRatio hpos hfinite
        rw [Binary64.signed_mul] at hnearest
        push_cast at hnearest
        rwa [mul_div_mul_right _ _ hone] at hnearest
      -- an integer between fractions takes a large dividend or divisor
      · have hlarge := Binary64.le_of_toInt?_ofRatio hpos hdvd hn
        rwa [Binary64.two_mul_unitsPerOne] at hlarge
    · cases hx

/-- The quotient of an integer that lies between two double precision numbers. -/
theorem not_dvd_of_calculate_quotient :
    ¬ ∀ (a b : Digits) (text : String), ¬ a.IsOverlong → ¬ b.IsOverlong → b.value ≠ 0 →
      basic.calculate .algebraic (a.text ++ "/" ++ b.text) = .ok text →
      (∃ (negative : Bool) (ds : Digits), text = ds.signed negative) →
      b.value ∣ a.value ∧ text = toString (a.value / b.value) := by
  intro hall
  have hvalue : basic.calculate .algebraic "9007199254740993/2" = .ok "4503599627370496" := by
    decide +kernel
  let a : Digits := .ofChars "9007199254740993".toList rfl
  let b : Digits := .ofChars ['2'] rfl
  obtain ⟨hdvd, -⟩ := hall a b "4503599627370496" (by decide) (by decide) (by decide) hvalue
    ⟨false, .ofChars "4503599627370496".toList rfl, rfl⟩
  exact absurd hdvd (by decide)

/-- That quotient is rounded, and its text is that of a nearest number. -/
theorem calculate_quotient_rounded :
    basic.calculate .algebraic "9007199254740993/2" = .ok "4503599627370496" ∧
    ∃ (n : Int) (x : Binary64), "4503599627370496" = toString n ∧ x.toInt? = some n ∧
      x.IsNearest ((9007199254740993 : Nat) / (2 : Nat)) := by
  have hvalue : basic.calculate .algebraic "9007199254740993/2" = .ok "4503599627370496" := by
    decide +kernel
  let a : Digits := .ofChars "9007199254740993".toList rfl
  let b : Digits := .ofChars ['2'] rfl
  let ds : Digits := .ofChars "4503599627370496".toList rfl
  have hinteger : "4503599627370496" = ds.signed false := rfl
  obtain ⟨n, htext, ⟨hdvd, -⟩ | ⟨-, -, ⟨x, hx, hnearest⟩, -⟩⟩ :=
    calculate_quotient (a := a) (b := b) hvalue hinteger
  · exact absurd hdvd (by decide)
  · exact ⟨hvalue, n, x, htext, hx, hnearest⟩

end Operators
end Abacus
