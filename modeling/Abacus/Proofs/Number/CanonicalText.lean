import Abacus.Proofs.Number.FloatText

/-!
# Canonical texts of numbers

A number has many texts that are read as it: `7`, `007`, `7.0` and `70e-1` are all read as seven. Of
these, one is canonical: the one that is written for the number once it has been read
(`Number.IsCanonical`; specification §4.3, step 4). So a canonical text has no leading zeros, no
sign before a zero, and no point where an integer below `2 ^ 53` does without. Whatever is written
for a finite number is canonical (`Number.isCanonical_of_text`), also where it is read as a number
of the other kind.

All of this comes from one property, that a text is written again as it was read
(`Number.isCanonical_of_fixed`): a text that is not canonical is read and written as another one.
-/

namespace Abacus

theorem Binary64.toInt?_zero (negative : Bool) : (zero negative).toInt? = some 0 := by
  have hunits : unitsOfRank 0 = 0 := rfl
  simp only [zero, toInt?, hunits, Nat.zero_mod, Nat.zero_div, if_true]
  cases negative <;> rfl

namespace Number

/-- The integer that a number is equal to. -/
def toInt? : Number → Option Int
  | .int n => some n
  | .float x => x.toInt?

/-- **Canonical texts**: what is read is a finite number that is written as it was read. The other
fields say what that comes to: which texts are excluded, and that an integer below the bound has no
other canonical text than its decimal numeral. -/
structure IsCanonical (text : String) : Prop where
  exists_value : ∃ v, ofText text = .ok v ∧ v.isFinite = true ∧ v.text = .ok text
  /-- Neither the zero below zero nor anything beyond all numbers. -/
  notMem : text ∉ ["-0", "-0.0", "inf", "-inf", "nan"]
  /-- An integer text starts with a zero only if that is all of it. -/
  eq_zero : ∀ (negative : Bool) (ds : Digits) (cs : List Char),
    text = ds.signed negative → ds.chars = '0' :: cs → text = "0"
  /-- An integer that double precision has room for is not written in another way. -/
  eq_toString : ∀ (v : Number) (n : Int), ofText text = .ok v → v.toInt? = some n →
    n.natAbs < exactIntegerBound → text = toString n

/-- An integer is written without a point, whatever it is the value of. -/
theorem eq_toString_of_text {v : Number} {n : Int} {text : String} (hn : v.toInt? = some n)
    (hbound : n.natAbs < exactIntegerBound) (h : v.text = .ok text) : text = toString n := by
  have hinteger : integerText n = .ok text := by
    cases v with
    | int m =>
      obtain rfl := Option.some.inj hn
      exact h
    | float x =>
      have hn : x.toInt? = some n := hn
      have hshown : shownInteger? x = some n := by
        rw [shownInteger?, hn]
        exact Option.filter_some_pos (decide_eq_true hbound)
      rw [Number.text, hshown] at h
      exact h
  exact eq_toString_of_integerText hinteger

/-- An integer text that is written as it was read is that of a number without leading zeros. -/
theorem eq_toString_of_signed {v : Number} {negative : Bool} {ds : Digits}
    (hread : ofText (ds.signed negative) = .ok v) (h : v.text = .ok (ds.signed negative)) :
    ds.signed negative = toString (Binary64.signed negative ds.value) := by
  obtain rfl := eq_of_ofText_signed hread
  exact eq_toString_of_integerText h

/-- **A text that is written as it was read** is canonical. -/
theorem isCanonical_of_fixed {v : Number} {text : String} (hread : ofText text = .ok v)
    (hv : v.isFinite = true) (h : v.text = .ok text) : IsCanonical text where
  exists_value := ⟨v, hread, hv, h⟩
  notMem := by
    intro hmem
    have hzero : v.toInt? = some 0 → text = "0" :=
      fun hzero => eq_toString_of_text hzero (by decide) h
    simp only [List.mem_cons, List.not_mem_nil, or_false] at hmem
    -- the zeros would be written as an integer, and the others are not finite
    rcases hmem with rfl | rfl | rfl | rfl | rfl
    · obtain rfl : .int 0 = v := Except.ok.inj hread
      exact absurd (hzero rfl) (by decide)
    · obtain rfl : .float (Binary64.zero true) = v := Except.ok.inj hread
      exact absurd (hzero (Binary64.toInt?_zero true)) (by decide)
    · obtain rfl : .float (.infinite false) = v := Except.ok.inj hread
      cases hv
    · obtain rfl : .float (.infinite true) = v := Except.ok.inj hread
      cases hv
    · obtain rfl : .float .nan = v := Except.ok.inj hread
      cases hv
  eq_zero := by
    rintro negative ds cs rfl hchars
    have htext := eq_toString_of_signed hread h
    have hdigits : ds.chars = (Digits.ofNat (Binary64.signed negative ds.value).natAbs).chars := by
      rw [Digits.toString_eq_signed] at htext
      exact (signed_inj htext).2
    obtain rfl := Digits.eq_nil_of_chars_ofNat (hdigits.symm.trans hchars)
    have hvalue : ds.value = 0 := by
      rw [Digits.value, hchars]
      rfl
    rw [htext, hvalue]
    cases negative <;> rfl
  eq_toString w n hw hn hbound := by
    obtain rfl := Except.ok.inj (hread.symm.trans hw)
    exact eq_toString_of_text hn hbound h

/-- **What is written for a finite number** is canonical, since it is read as a number that is
written in the same way. -/
theorem isCanonical_of_text {v : Number} {text : String} (hv : v.isFinite = true)
    (h : v.text = .ok text) : IsCanonical text := by
  obtain ⟨w, hread, hw, hwritten⟩ := exists_ofText_text hv h
  exact isCanonical_of_fixed hread hw hwritten

end Number
end Abacus
