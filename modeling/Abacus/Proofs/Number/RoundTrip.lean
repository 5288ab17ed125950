import Abacus.Proofs.Binary64.Nearest
import Abacus.Proofs.Number.CanonicalText

/-!
# Numbers that are written and read again

Between the steps of a calculation a number is a text: it is written, and read where it is used
(`format_number` and `to_number`, specification §4.3, steps 3 and 4). An integer comes back as
itself (`Number.readBack_int`). A finite double precision number comes back as the integer that it
is equal to, if that lies below the bound, and else as itself (`Number.readBack_float_cases`). So
nothing but the kind of a number can be lost (`Number.readBack_value`).

The kind is lost on purpose: a quotient that is integral is shown as an integer, and goes on as one.
Below the bound that changes no value, since double precision has room for all of these integers.
-/

namespace Abacus

/-- The integer that a number is equal to is its value, and the other way round. -/
theorem Binary64.toInt?_eq_some_iff {x : Binary64} {n : Int} :
    x.toInt? = some n ↔ x.toRat? = some (n : ℚ) := by
  refine ⟨toRat?_of_toInt?, fun h => ?_⟩
  cases x with
  | infinite negative => cases h
  | nan => cases h
  | finite negative r =>
    have hone : (unitsPerOne : ℚ) ≠ 0 := Nat.cast_ne_zero.mpr unitsPerOne_pos.ne'
    have hvalue : (signed negative (unitsOfRank r) / unitsPerOne : ℚ) = n := Option.some.inj h
    have hsigned : signed negative (unitsOfRank r) = n * unitsPerOne := by
      rw [div_eq_iff hone] at hvalue
      exact_mod_cast hvalue
    have hunits : unitsOfRank r = n.natAbs * unitsPerOne := by
      have hsizes := congrArg Int.natAbs hsigned
      rwa [Number.natAbs_signed, Int.natAbs_mul, Int.natAbs_natCast] at hsizes
    have hn : signed negative n.natAbs = n := by
      rw [hunits, signed_mul] at hsigned
      exact mul_right_cancel₀ (Nat.cast_ne_zero.mpr unitsPerOne_pos.ne') hsigned
    show (if unitsOfRank r % unitsPerOne = 0 then
      some (signed negative (unitsOfRank r / unitsPerOne)) else none) = some n
    rw [hunits, Nat.mul_mod_left, if_pos rfl, Nat.mul_div_cancel _ unitsPerOne_pos, hn]

namespace Number

/-- The value of a finite number. -/
def toRat? : Number → Option ℚ
  | .int n => some n
  | .float x => x.toRat?

/-- What a number is read as once it has been written. -/
def readBack (v : Number) : Except NumeralError Number :=
  v.text.bind ofText

theorem readBack_of_text {v : Number} {text : String} (h : v.text = .ok text) :
    v.readBack = ofText text := by
  rw [readBack, h]
  rfl

/-- Which integer a double precision number is written as. -/
theorem shownInteger?_eq_some_iff {x : Binary64} {n : Int} :
    shownInteger? x = some n ↔ x.toRat? = some (n : ℚ) ∧ n.natAbs < exactIntegerBound := by
  rw [shownInteger?, Option.filter_eq_some_iff, Binary64.toInt?_eq_some_iff, decide_eq_true_iff]

/-! ## Integers -/

theorem readBack_int {n : Int} (h : n.natAbs < 10 ^ maxIntegerDigits) :
    (int n).readBack = .ok (.int n) := by
  have htext : (int n).text = .ok (toString n) := integerText_eq_toString h
  rw [readBack_of_text htext, ofText_toString h]

/-! ## Double precision numbers -/

theorem readBack_shown {x : Binary64} {n : Int} (h : shownInteger? x = some n) :
    (float x).readBack = .ok (.int n) := by
  have hbound := natAbs_lt_of_shownInteger? h
  have htext : (float x).text = .ok (toString n) := by
    rw [text, h]
    exact integerText_eq_toString hbound
  rw [readBack_of_text htext, ofText_toString hbound]

theorem readBack_unshown {x : Binary64} (hfinite : x.isFinite = true)
    (h : shownInteger? x = none) : (float x).readBack = .ok (.float x) := by
  have htext : (float x).text = .ok x.text := by
    rw [text, h]
  rw [readBack_of_text htext, ofText_text_float hfinite]

/-- **What a finite number comes back as**: the integer that it is equal to, where that is what is
written, and else the number itself. -/
theorem readBack_float_cases {x : Binary64} (h : x.isFinite = true) :
    (∃ n, shownInteger? x = some n ∧ (float x).readBack = .ok (.int n)) ∨
      shownInteger? x = none ∧ (float x).readBack = .ok (.float x) := by
  cases hshown : shownInteger? x with
  | some n => exact .inl ⟨n, rfl, readBack_shown hshown⟩
  | none => exact .inr ⟨rfl, readBack_unshown h hshown⟩

theorem exists_toRat? {x : Binary64} (h : x.isFinite = true) : ∃ q, x.toRat? = some q := by
  cases x with
  | finite negative r => exact ⟨_, rfl⟩
  | infinite negative => cases h
  | nan => cases h

/-! ## Both kinds -/

/-- **Nothing but the kind of a number is lost.** An integer that is not too long is written as its
decimal numeral and comes back as itself. A finite double precision number comes back with the value
that it had: as an integer if this value is an integer below the bound, and else as itself. -/
theorem readBack_value :
    (∀ n : Int, (Nat.toDigits 10 n.natAbs).length ≤ maxIntegerDigits →
      (int n).text = .ok (toString n) ∧ IsCanonical (toString n) ∧
        (int n).readBack = .ok (.int n)) ∧
    ∀ x : Binary64, x.isFinite = true → ∃ w q, (float x).readBack = .ok w ∧
      x.toRat? = some q ∧ w.toRat? = some q ∧
      ((∃ n, w = .int n) ↔ ∃ n : Int, q = n ∧ n.natAbs < exactIntegerBound) ∧
      ((∃ n, w = .int n) ∨ w = .float x) := by
  constructor
  · intro n hlength
    have hbound : n.natAbs < 10 ^ maxIntegerDigits :=
      (Nat.length_toDigits_le_iff (by decide) (by decide)).mp hlength
    have htext : (int n).text = .ok (toString n) := integerText_eq_toString hbound
    exact ⟨htext, isCanonical_of_text rfl htext, readBack_int hbound⟩
  · intro x hx
    obtain ⟨q, hq⟩ := exists_toRat? hx
    rcases readBack_float_cases hx with ⟨n, hshown, hback⟩ | ⟨hshown, hback⟩
    · -- the value is that of the integer
      obtain ⟨hn, hbound⟩ := shownInteger?_eq_some_iff.mp hshown
      obtain rfl : q = n := Option.some.inj (hq.symm.trans hn)
      exact ⟨.int n, n, hback, hq, rfl, iff_of_true ⟨n, rfl⟩ ⟨n, rfl, hbound⟩, .inl ⟨n, rfl⟩⟩
    · refine ⟨.float x, q, hback, hq, hq, iff_of_false ?_ ?_, .inr rfl⟩
      · rintro ⟨n, hn⟩
        cases hn
      · rintro ⟨n, rfl, hbound⟩
        rw [shownInteger?_eq_some_iff.mpr ⟨hq, hbound⟩] at hshown
        cases hshown

/-- The zero below zero comes back as the integer, and so does an integer below zero. -/
theorem readBack_value_zero :
    (Nat.toDigits 10 (-70 : Int).natAbs).length ≤ maxIntegerDigits ∧
      (int (-70)).text = .ok "-70" ∧ (int (-70)).readBack = .ok (.int (-70)) ∧
      (Binary64.zero true).isFinite = true ∧
      (float (Binary64.zero true)).readBack = .ok (.int 0) := by
  have hlength : (Nat.toDigits 10 (-70 : Int).natAbs).length ≤ maxIntegerDigits := by decide
  obtain ⟨htext, -, hback⟩ := readBack_value.1 (-70) hlength
  obtain ⟨w, q, hzero, hq, hw, hkind, -⟩ := readBack_value.2 (Binary64.zero true) rfl
  have hvalue : (Binary64.zero true).toRat? = some 0 :=
    Binary64.toRat?_of_toInt? (Binary64.toInt?_zero true)
  obtain rfl : q = 0 := Option.some.inj (hq.symm.trans hvalue)
  obtain ⟨n, rfl⟩ := hkind.mpr ⟨0, rfl, by decide⟩
  have hn : (n : ℚ) = 0 := Option.some.inj hw
  obtain rfl : n = 0 := Int.cast_eq_zero.mp hn
  exact ⟨hlength, htext, hback, rfl, hzero⟩

end Number
end Abacus
