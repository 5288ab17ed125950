import Abacus.Proofs.Binary64.Rounding
import Mathlib.Algebra.Order.Field.Basic
import Mathlib.Algebra.Order.Field.Rat
import Mathlib.Data.Rat.Cast.Defs
import Mathlib.Tactic.FieldSimp
import Mathlib.Tactic.LinearCombination

/-!
# Values of double precision numbers

The value of a finite number is a rational number (`toRat?`), and an integral one is the integer
that the number is equal to (`toRat?_of_toInt?`). Ranks and units are how a number is represented;
here they are left behind.

- `isNearest_ofRatio`: what a fraction is rounded to has the value that is nearest to it among all
  finite numbers, those of the other sign included.
- `le_of_toInt?_ofRatio`: a fraction of integers that is no integer itself can be rounded to an
  integer only where numbers are as far apart as integers, or where the fraction is so small that it
  is rounded to zero.

Both are about the one rounding that every operation ends with (`Binary64.ofRatio`).
-/

namespace Abacus.Binary64

/-- The value of a finite number. -/
def toRat? : Binary64 → Option ℚ
  | .finite negative r => some (signed negative (unitsOfRank r) / unitsPerOne)
  | .infinite _ => none
  | .nan => none

/-- A number such that no finite number is nearer to a rational number. There may be two such
numbers, one on each side. -/
def IsNearest (x : Binary64) (q : ℚ) : Prop :=
  ∃ v, x.toRat? = some v ∧ ∀ (y : Binary64) w, y.toRat? = some w → |v - q| ≤ |w - q|

theorem unitsPerOne_pos : 0 < unitsPerOne := by
  decide +kernel

theorem two_mul_unitsPerOne : 2 * unitsPerOne = 2 ^ 1075 := by
  decide +kernel

/-- A number that is equal to an integer has a whole number of ones. -/
theorem exists_of_toInt? {x : Binary64} {n : Int} (h : x.toInt? = some n) :
    ∃ negative r c, x = .finite negative r ∧ unitsOfRank r = c * unitsPerOne ∧
      n = signed negative c := by
  cases x with
  | infinite negative => cases h
  | nan => cases h
  | finite negative r =>
    have h : (if unitsOfRank r % unitsPerOne = 0 then
        some (signed negative (unitsOfRank r / unitsPerOne)) else none) = some n := h
    split at h
    · next hrest =>
      exact ⟨negative, r, _, rfl, (Nat.div_mul_cancel (Nat.dvd_of_mod_eq_zero hrest)).symm,
        (Option.some.inj h).symm⟩
    · cases h

theorem signed_mul (negative : Bool) (m n : Nat) :
    signed negative (m * n) = signed negative m * n := by
  cases negative <;> simp [signed]

theorem abs_signed (negative : Bool) (n : Nat) : |signed negative n| = n := by
  cases negative <;> simp [signed]

/-- An integer that a number is equal to is its value. -/
theorem toRat?_of_toInt? {x : Binary64} {n : Int} (h : x.toInt? = some n) :
    x.toRat? = some (n : ℚ) := by
  obtain ⟨negative, r, c, rfl, hunits, rfl⟩ := exists_of_toInt? h
  have hone : (unitsPerOne : ℚ) ≠ 0 := Nat.cast_ne_zero.mpr unitsPerOne_pos.ne'
  rw [toRat?, hunits, signed_mul]
  push_cast
  rw [mul_div_cancel_right₀ _ hone]

/-! ## Nearest numbers -/

section
variable {num den : Nat} (hden : 0 < den)
include hden

/-- The distance of a number from a fraction, as a number of the steps that both are made of. -/
theorem abs_sub_eq (units signedNum : Int) :
    |(units / unitsPerOne - signedNum / (den * unitsPerOne) : ℚ)|
      = |units * den - signedNum| / (den * unitsPerOne : Nat) := by
  have hone : (0 : ℚ) < unitsPerOne := Nat.cast_pos.mpr unitsPerOne_pos
  have hden : (0 : ℚ) < den := Nat.cast_pos.mpr hden
  have hsub : (units / unitsPerOne - signedNum / (den * unitsPerOne) : ℚ)
      = (units * den - signedNum : Int) / (den * unitsPerOne : Nat) := by
    push_cast
    field_simp
  rw [hsub, abs_div, Nat.abs_cast, Int.cast_abs]

/-- No magnitude is nearer than the one of the nearest rank, whichever sign it has: on the other
side of zero it is at least as far away as zero, which is a magnitude itself. -/
theorem nearestRank_nearest_signed (negative negative' : Bool) (r : Nat) :
    |signed negative (unitsOfRank (nearestRank num den)) * den - signed negative num|
      ≤ |signed negative' (unitsOfRank r) * den - signed negative num| := by
  -- with the sign of the fraction, signs do not matter
  have hsame (r : Nat) : |signed negative (unitsOfRank r) * den - signed negative num|
      = |(unitsOfRank r * den : Int) - num| := by
    cases negative with
    | false => rfl
    | true =>
      rw [← abs_neg]
      congr 1
      simp only [signed, if_true]
      ring
  have hnearest (r : Nat) : |(unitsOfRank (nearestRank num den) * den : Int) - num|
      ≤ |(unitsOfRank r * den : Int) - num| := by
    by_cases hr : r = nearestRank num den
    · rw [hr]
    · exact (nearestRank_nearest num hden r hr).1
  rw [hsame]
  by_cases hsign : negative' = negative
  · rw [hsign, hsame]
    exact hnearest r
  · -- on the other side of zero, which is not nearer itself
    have hsum : signed negative' (unitsOfRank r) * den - signed negative num
        = signed negative' (unitsOfRank r * den + num) := by
      obtain rfl : negative' = !negative := by
        simpa [Bool.eq_not] using hsign
      cases negative with
      | false =>
        simp only [signed, Bool.not_false, if_true, if_false, Bool.false_eq_true]
        push_cast
        ring
      | true =>
        simp only [signed, Bool.not_true, if_true, if_false, Bool.false_eq_true]
        push_cast
        ring
    have hunits : unitsOfRank 0 = 0 := rfl
    -- zero is a magnitude, and as far away as the fraction is large
    have hzero := hnearest 0
    rw [hunits, Nat.cast_zero, zero_mul, zero_sub, abs_neg, Nat.abs_cast] at hzero
    rw [hsum, abs_signed]
    exact hzero.trans (Int.ofNat_le.mpr (Nat.le_add_left num _))

/-- **Rounding yields a nearest number**, unless it yields an infinity. The distances are compared
in units, where both numbers and the fraction are over the same denominator. -/
theorem isNearest_ofRatio {negative : Bool} (h : (ofRatio negative num den).isFinite = true) :
    (ofRatio negative num den).IsNearest (signed negative num / (den * unitsPerOne)) := by
  by_cases hrank : nearestRank num den < finiteRanks
  · rw [ofRatio, dif_pos hrank]
    refine ⟨_, rfl, fun y w hw => ?_⟩
    cases y with
    | infinite negative' => cases hw
    | nan => cases hw
    | finite negative' r =>
      obtain rfl := Option.some.inj hw
      rw [abs_sub_eq hden, abs_sub_eq hden]
      refine div_le_div_of_nonneg_right ?_ (Nat.cast_nonneg _)
      exact_mod_cast nearestRank_nearest_signed hden negative negative' r
  · rw [ofRatio, dif_neg hrank] at h
    cases h

end

/-- **Integers between fractions**: a fraction of integers that is no integer is rounded to one only
if its numerator or its denominator is large. -/
theorem le_of_toInt?_ofRatio {a b : Nat} (hb : 0 < b) (hdvd : ¬ b ∣ a) {n : Int}
    (h : (ofRatio false (a * unitsPerOne) b).toInt? = some n) :
    2 * binadeSize ≤ a ∨ 2 * unitsPerOne ≤ b := by
  obtain ⟨negative, r, c, hfinite, hunits, -⟩ := exists_of_toInt? h
  obtain ⟨k, m, hrank, hm, hbound, hk⟩ := exists_nearestRank_eq (a * unitsPerOne) hb
  have hr : r.val = nearestRank (a * unitsPerOne) b := by
    unfold ofRatio at hfinite
    split at hfinite
    · cases hfinite
      rfl
    · cases hfinite
  rw [hr, hrank, unitsOfRank_steps hbound (hk.imp_right And.left)] at hunits
  -- the integer is another number than the fraction, so that they are at least `1 / b` apart
  have hapart : (1 : Int) ≤ |(c * b : Int) - a| := by
    refine Int.one_le_abs (sub_ne_zero.mpr fun heq => hdvd ⟨c, ?_⟩)
    rw [Nat.mul_comm]
    exact_mod_cast heq.symm
  -- rounding moves the fraction by half a step at most, so a step is two times as wide as that
  have herror := (roundHalfEven_error (a * unitsPerOne) (Nat.mul_pos hb (Nat.two_pow_pos k))).1
  have hscale : (m * (b * 2 ^ k : Nat) : Int) - (a * unitsPerOne : Nat)
      = unitsPerOne * (c * b - a) := by
    have hunits : (m * 2 ^ k : Int) = c * unitsPerOne := by exact_mod_cast hunits
    push_cast
    linear_combination (b : Int) * hunits
  rw [← hm, hscale, abs_mul, Nat.abs_cast] at herror
  have hstep : 2 * unitsPerOne ≤ b * 2 ^ k := by
    have hle : (unitsPerOne : Int) * 1 ≤ unitsPerOne * |(c * b : Int) - a| :=
      mul_le_mul_of_nonneg_left hapart (Nat.cast_nonneg _)
    omega
  rcases hk with rfl | ⟨-, hlow⟩
  · exact .inr (by rwa [Nat.pow_zero, Nat.mul_one] at hstep)
  · refine .inl (Nat.le_of_mul_le_mul_right ?_ unitsPerOne_pos)
    calc 2 * binadeSize * unitsPerOne = binadeSize * (2 * unitsPerOne) := by ring
      _ ≤ binadeSize * (b * 2 ^ k) := Nat.mul_le_mul_left _ hstep
      _ ≤ a * unitsPerOne := hlow

end Abacus.Binary64
