import Abacus.Binary64.Rounding
import Mathlib.Algebra.Order.Ring.Abs
import Mathlib.Algebra.Order.Ring.Int
import Mathlib.Order.Monotone.Basic
import Mathlib.Tactic.Ring
import Mathlib.Tactic.Zify

/-!
# Rounding is to the nearest magnitude

The rank that a fraction is rounded to is that of the nearest magnitude, and of two magnitudes that
are equally near the one of even rank is taken (`nearestRank_nearest`): quotients are correctly
rounded (specification §4.3). The fraction is rounded to a whole number of steps, and from the first
magnitude that has steps of this width on all magnitudes are whole numbers of steps; the smaller
ones are farther away.

- `exists_steps`, `unitsOfRank_steps`: a rank as a number of steps, and its magnitude.
- `two_pow_dvd_unitsOfRank`: from some magnitude on, all are whole numbers of steps.
- `roundHalfEven_nearest`: rounding to a whole number of steps.
- `nearestRank_nearest`: rounding to a magnitude.
- `ofRatio_congr`, `ofRatio_unitsOfRank`: so equal fractions are rounded alike, and a fraction that
  is equal to a magnitude is rounded to it.

Distances are compared after multiplication by the denominator, as integers. Magnitudes are not
evenly spaced, so nearness to a magnitude does not follow from rounding to whole numbers alone: the
candidates with narrower steps have to be ruled out, which is what the lower bound on the fraction
in `exists_nearestRank_eq` is for.
-/

namespace Abacus.Binary64

/-! ## Magnitudes

Ranks count the magnitudes upwards. All binades have the same number of ranks, and from the second
on the steps of one are half as wide as those of the next. -/

/-- Every rank is a number of steps of the width that its exponent has. -/
theorem exists_steps (r : Nat) :
    ∃ k m, r = k * binadeSize + m ∧ m < 2 * binadeSize ∧ (k = 0 ∨ binadeSize ≤ m) := by
  by_cases h : r < binadeSize
  · exact ⟨0, r, by omega, by omega, .inl rfl⟩
  · refine ⟨r / binadeSize - 1, binadeSize + r % binadeSize, ?_, ?_, .inr ?_⟩ <;>
      simp only [binadeSize] at * <;> omega

/-- The magnitude of a number of steps of `2 ^ k` units. -/
theorem unitsOfRank_steps {k m : Nat} (hm : m ≤ 2 * binadeSize) (hk : k = 0 ∨ binadeSize ≤ m) :
    unitsOfRank (k * binadeSize + m) = m * 2 ^ k := by
  have hbinade {j n : Nat} (hn : n < binadeSize) :
      unitsOfRank ((j + 1) * binadeSize + n) = (binadeSize + n) * 2 ^ j := by
    have hdiv : ((j + 1) * binadeSize + n) / binadeSize = j + 1 := by
      simp only [binadeSize] at *
      omega
    have hmod : ((j + 1) * binadeSize + n) % binadeSize = n := by
      simp only [binadeSize] at *
      omega
    rw [unitsOfRank, if_neg (by simp only [binadeSize]; omega), hdiv, hmod]
    rfl
  by_cases hsmall : m < binadeSize
  · obtain rfl : k = 0 := hk.resolve_right (Nat.not_le.mpr hsmall)
    rw [Nat.zero_mul, Nat.zero_add, unitsOfRank, if_pos hsmall, Nat.pow_zero, Nat.mul_one]
  · obtain ⟨n, rfl⟩ := Nat.exists_eq_add_of_le (Nat.not_lt.mp hsmall)
    by_cases hn : n < binadeSize
    · rw [← Nat.add_assoc, ← Nat.succ_mul, hbinade hn]
    · -- the first magnitude of the next exponent
      obtain rfl : n = binadeSize := by omega
      have hnext : k * binadeSize + (binadeSize + binadeSize) = (k + 1 + 1) * binadeSize + 0 := by
        ring
      rw [hnext, hbinade (by decide), Nat.pow_succ]
      ring

theorem unitsOfRank_strictMono : StrictMono unitsOfRank := by
  refine strictMono_nat_of_lt_succ fun r => ?_
  obtain ⟨k, m, rfl, hm, hk⟩ := exists_steps r
  rw [Nat.add_assoc, unitsOfRank_steps (by omega) hk, unitsOfRank_steps (by omega) (by omega)]
  exact Nat.mul_lt_mul_of_pos_right (Nat.lt_succ_self m) (Nat.two_pow_pos k)

/-- From `2 ^ (52 + k)` units on, magnitudes are whole numbers of steps of `2 ^ k` units. -/
theorem two_pow_dvd_unitsOfRank {k r : Nat} (h : binadeSize * 2 ^ k ≤ unitsOfRank r) :
    2 ^ k ∣ unitsOfRank r := by
  obtain ⟨j, m, rfl, hm, hj⟩ := exists_steps r
  rw [unitsOfRank_steps (by omega) hj] at h ⊢
  by_cases hle : k ≤ j
  · exact Nat.dvd_mul_left_of_dvd (Nat.pow_dvd_pow 2 hle) m
  · have hlt : m * 2 ^ j < binadeSize * 2 ^ k :=
      calc m * 2 ^ j < 2 * binadeSize * 2 ^ j := Nat.mul_lt_mul_of_pos_right hm (Nat.two_pow_pos j)
        _ = binadeSize * 2 ^ (j + 1) := by ring
        _ ≤ binadeSize * 2 ^ k :=
          Nat.mul_le_mul_left _ (Nat.pow_le_pow_right Nat.two_pos (Nat.lt_of_not_le hle))
    omega

/-! ## Whole numbers -/

/-- The two ways to round: down from the lower half, up from the upper half, and from the middle to
the even side. -/
theorem roundHalfEven_cases (num den : Nat) :
    (roundHalfEven num den = num / den ∧ 2 * (num % den) ≤ den ∧
      (2 * (num % den) = den → roundHalfEven num den % 2 = 0)) ∨
    (roundHalfEven num den = num / den + 1 ∧ den ≤ 2 * (num % den) ∧
      (2 * (num % den) = den → roundHalfEven num den % 2 = 0)) := by
  -- the rest of the division is less than half, more than half or half
  unfold roundHalfEven
  dsimp only
  split
  · exact .inl ⟨rfl, by omega, by omega⟩
  split
  · exact .inr ⟨rfl, by omega, by omega⟩
  · rcases Nat.mod_two_eq_zero_or_one (num / den) with h | h <;> rw [h]
    · exact .inl ⟨rfl, by omega, by omega⟩
    · exact .inr ⟨rfl, by omega, by omega⟩

section
variable (num : Nat) {den : Nat} (hden : 0 < den)
include hden

/-- How far a number is moved when it is rounded. -/
theorem roundHalfEven_error :
    2 * |(roundHalfEven num den * den : Int) - num| ≤ den ∧
    (2 * |(roundHalfEven num den * den : Int) - num| = den → roundHalfEven num den % 2 = 0) := by
  have hrest := Nat.mod_lt num hden
  have hsplit : (num / den * den : Int) + (num % den : Nat) = num := by
    exact_mod_cast Nat.div_add_mod' num den
  rcases roundHalfEven_cases num den with ⟨hfloor, hhalf, heven⟩ | ⟨hceil, hhalf, heven⟩
  · have hmoved : |(roundHalfEven num den * den : Int) - num| = (num % den : Nat) := by
      rw [hfloor, ← hsplit, abs_of_nonpos] <;> push_cast <;> omega
    rw [hmoved]
    exact ⟨by omega, fun h => heven (by omega)⟩
  · have hmoved : |(roundHalfEven num den * den : Int) - num| = den - (num % den : Nat) := by
      rw [hceil, ← hsplit, abs_of_nonneg] <;> push_cast <;> rw [add_mul] <;> omega
    rw [hmoved]
    exact ⟨by omega, fun h => heven (by omega)⟩

/-- No whole number is nearer than the rounded one, and none but an even one is as near as
another. -/
theorem roundHalfEven_nearest (m : Int) (hm : m ≠ roundHalfEven num den) :
    |(roundHalfEven num den * den : Int) - num| ≤ |m * den - num| ∧
    (|(roundHalfEven num den * den : Int) - num| = |m * den - num| →
      roundHalfEven num den % 2 = 0) := by
  obtain ⟨herror, heven⟩ := roundHalfEven_error num hden
  -- another whole number is a step away at least, of which the rounded one took half at most
  have hapart : (den : Int) ≤ |m * den - roundHalfEven num den * den| := by
    rw [← sub_mul, abs_mul, Nat.abs_cast]
    exact le_mul_of_one_le_left (by omega) (Int.one_le_abs (sub_ne_zero.mpr hm))
  have htriangle := abs_sub_le (m * den : Int) num (roundHalfEven num den * den)
  rw [abs_sub_comm (num : Int)] at htriangle
  exact ⟨by omega, fun h => heven (by omega)⟩

end

/-! ## Magnitudes near a fraction

The rank that a fraction is rounded to comes from a quotient that is rounded to a whole number of
steps. Among magnitudes that are whole numbers of steps it is nearest for that reason. All others
lie below the smallest magnitude with such steps, which is nearer to the fraction. -/

section
variable (num : Nat) {den : Nat} (hden : 0 < den)
include hden

/-- The nearest rank as a number of steps that are as wide as magnitudes are apart there. -/
theorem exists_nearestRank_eq : ∃ k m, nearestRank num den = k * binadeSize + m ∧
    m = roundHalfEven num (den * 2 ^ k) ∧ m ≤ 2 * binadeSize ∧
    (k = 0 ∨ binadeSize ≤ m ∧ binadeSize * (den * 2 ^ k) ≤ num) := by
  have hsize : binadeSize = 2 ^ 52 := rfl
  obtain ⟨k, hk⟩ : ∃ k, k = Nat.log2 (num / den) - 52 := ⟨_, rfl⟩
  have hfloor : num / (den * 2 ^ k) = num / den / 2 ^ k := (Nat.div_div_eq_div_mul ..).symm
  have hround : num / (den * 2 ^ k) ≤ roundHalfEven num (den * 2 ^ k) ∧
      roundHalfEven num (den * 2 ^ k) ≤ num / (den * 2 ^ k) + 1 := by
    rcases roundHalfEven_cases num (den * 2 ^ k) with ⟨h, -, -⟩ | ⟨h, -, -⟩ <;> omega
  -- the width of a step is chosen by the size of the fraction, so that 53 bits are left
  have hupper : num / (den * 2 ^ k) < 2 * binadeSize := by
    have hlt : num / den < 2 ^ (53 + k) :=
      Nat.lt_of_lt_of_le Nat.lt_log2_self (Nat.pow_le_pow_right Nat.two_pos (by omega))
    rw [hfloor, Nat.div_lt_iff_lt_mul (Nat.two_pow_pos k), hsize, ← Nat.pow_succ', ← Nat.pow_add]
    exact hlt
  refine ⟨k, roundHalfEven num (den * 2 ^ k), by rw [nearestRank, ← hk]; rfl, rfl, by omega, ?_⟩
  refine Nat.eq_zero_or_pos k |>.imp_right fun hpos => ?_
  have hlower : binadeSize ≤ num / (den * 2 ^ k) := by
    have hne : num / den ≠ 0 := by
      intro h
      rw [h] at hk
      simp at hk
      omega
    have hle := Nat.log2_self_le hne
    rw [show Nat.log2 (num / den) = 52 + k by omega, Nat.pow_add] at hle
    rw [hfloor, Nat.le_div_iff_mul_le (Nat.two_pow_pos k)]
    exact hle
  exact ⟨by omega, (Nat.le_div_iff_mul_le (Nat.mul_pos hden (Nat.two_pow_pos k))).mp hlower⟩

/-- **Rounding is to the nearest**: no magnitude is nearer to the fraction than that of the rank
which it is rounded to, and if another is as near, this rank is even. -/
theorem nearestRank_nearest (r : Nat) (hr : r ≠ nearestRank num den) :
    |(unitsOfRank (nearestRank num den) * den : Int) - num| ≤ |(unitsOfRank r * den : Int) - num| ∧
    (|(unitsOfRank (nearestRank num den) * den : Int) - num| = |(unitsOfRank r * den : Int) - num| →
      nearestRank num den % 2 = 0) := by
  obtain ⟨k, m, hrank, hm, hbound, hk⟩ := exists_nearestRank_eq num hden
  have hunits : unitsOfRank (nearestRank num den) = m * 2 ^ k := by
    rw [hrank, unitsOfRank_steps hbound (hk.imp_right And.left)]
  have hparity : nearestRank num den % 2 = m % 2 := by
    rw [hrank]
    simp only [binadeSize]
    omega
  have hstep : 0 < den * 2 ^ k := Nat.mul_pos hden (Nat.two_pow_pos k)
  have hnearest (n : Int) (hn : n ≠ m) := roundHalfEven_nearest num hstep n (hm ▸ hn)
  rw [← hm] at hnearest
  have hscale : ((m * 2 ^ k : Nat) * den : Int) = m * (den * 2 ^ k : Nat) := by
    push_cast
    ring
  rw [hunits, hparity, hscale]
  -- a magnitude that is no whole number of steps lies below those that are, and so farther away
  by_cases hdvd : 2 ^ k ∣ unitsOfRank r
  · -- both are whole numbers of steps
    obtain ⟨n, hn⟩ := hdvd
    have hne : (n : Int) ≠ m := by
      rintro heq
      obtain rfl : n = m := by exact_mod_cast heq
      exact hr (unitsOfRank_strictMono.injective (by rw [hn, hunits, Nat.mul_comm]))
    have hr : (unitsOfRank r * den : Int) = n * (den * 2 ^ k : Nat) := by
      rw [hn]
      push_cast
      ring
    rw [hr]
    exact hnearest n hne
  · -- the other one is below the smallest magnitude that has steps of this width
    have hlt : unitsOfRank r < binadeSize * 2 ^ k :=
      Nat.lt_of_not_le fun h => hdvd (two_pow_dvd_unitsOfRank h)
    have hlow : binadeSize * (den * 2 ^ k) ≤ num := by
      rcases hk with rfl | ⟨-, hlow⟩
      · exact absurd (Nat.one_dvd _) hdvd
      · exact hlow
    have hbelow : unitsOfRank r * den < binadeSize * (den * 2 ^ k) := by
      calc unitsOfRank r * den < binadeSize * 2 ^ k * den := Nat.mul_lt_mul_of_pos_right hlt hden
        _ = binadeSize * (den * 2 ^ k) := by ring
    -- the smallest magnitude with such steps lies between the other one and the fraction
    have hfirst : |(m * (den * 2 ^ k : Nat) : Int) - num|
        ≤ |((binadeSize : Nat) * (den * 2 ^ k : Nat) : Int) - num| := by
      by_cases heq : ((binadeSize : Nat) : Int) = m
      · rw [heq]
      · exact (hnearest _ heq).1
    have hstrict : |((binadeSize : Nat) * (den * 2 ^ k : Nat) : Int) - num|
        < |(unitsOfRank r * den : Int) - num| := by
      zify at hlow hbelow
      rw [abs_of_nonpos (by push_cast; omega), abs_of_nonpos (by omega)]
      push_cast
      omega
    exact ⟨by omega, fun h => by omega⟩

/-- A fraction that is equal to a magnitude is nearest to it. -/
theorem nearestRank_of_eq {r : Nat} (h : unitsOfRank r * den = num) : nearestRank num den = r := by
  by_contra hne
  have hnearest := (nearestRank_nearest num hden r (Ne.symm hne)).1
  have hzero : (unitsOfRank r * den : Int) - num = 0 := by
    rw [← h, Nat.cast_mul, sub_self]
  rw [hzero, abs_zero, abs_nonpos_iff, sub_eq_zero] at hnearest
  have hunits : unitsOfRank (nearestRank num den) * den = unitsOfRank r * den := by
    rw [h]
    exact_mod_cast hnearest
  exact hne (unitsOfRank_strictMono.injective (Nat.eq_of_mul_eq_mul_right hden hunits))

end

/-! ## Equal fractions -/

theorem roundHalfEven_mul_right (num den : Nat) {c : Nat} (hc : 0 < c) :
    roundHalfEven (num * c) (den * c) = roundHalfEven num den := by
  have hless : 2 * (num % den * c) < den * c ↔ 2 * (num % den) < den := by
    rw [← Nat.mul_assoc, Nat.mul_lt_mul_right hc]
  have hmore : den * c < 2 * (num % den * c) ↔ den < 2 * (num % den) := by
    rw [← Nat.mul_assoc, Nat.mul_lt_mul_right hc]
  simp only [roundHalfEven, Nat.mul_div_mul_right num den hc, Nat.mul_mod_mul_right, hless, hmore]

/-- Equal fractions have the same nearest rank: the width of the steps depends on the value only. -/
theorem nearestRank_mul_right (num den : Nat) {c : Nat} (hc : 0 < c) :
    nearestRank (num * c) (den * c) = nearestRank num den := by
  have hstep (k : Nat) : den * c * Nat.pow 2 k = den * Nat.pow 2 k * c := Nat.mul_right_comm ..
  simp only [nearestRank, Nat.mul_div_mul_right num den hc, hstep, roundHalfEven_mul_right _ _ hc]

/-- What a fraction is rounded to does not depend on how it is written. -/
theorem ofRatio_congr {num den num' den' : Nat} (hden : 0 < den) (hden' : 0 < den')
    (h : num * den' = num' * den) (negative : Bool) :
    ofRatio negative num den = ofRatio negative num' den' := by
  have hrank : nearestRank num den = nearestRank num' den' := by
    rw [← nearestRank_mul_right num den hden', ← nearestRank_mul_right num' den' hden, h,
      Nat.mul_comm den]
  simp only [ofRatio, hrank]

/-- A magnitude in units is rounded to itself. -/
theorem ofRatio_unitsOfRank (negative : Bool) (r : Fin finiteRanks) :
    ofRatio negative (unitsOfRank r) 1 = .finite negative r := by
  have hrank : nearestRank (unitsOfRank r) 1 = r := nearestRank_of_eq _ Nat.one_pos (Nat.mul_one _)
  simp only [ofRatio, hrank, dif_pos r.isLt]

end Abacus.Binary64
