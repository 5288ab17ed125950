import Abacus.Binary64.Text
import Abacus.Proofs.Binary64.Rounding

/-!
# Reading decimal numbers

What a decimal number is rounded to depends on its value only: not on zeros at the end of its
coefficient (`ofDecimal_extended`), although its size is told by its digits first. Every finite
number is a decimal number, and that one is read as it (`ofDecimal_exactDecimal`). So a shortest
decimal number is read as the number that it is the shortest for, be it found among the candidates
or not (`ofDecimal_shortest`).

Numbers that are far too large or too small are told by the number of their digits alone, so that no
huge power of ten is computed for them. `within_exponentBound` says that no finite number is taken
for one of these.
-/

namespace Abacus

/-- The same decimal number with more zeros at the end of its coefficient. -/
def Decimal.extended (d : Decimal) (k : Nat) : Decimal :=
  { d with coefficient := d.coefficient * 10 ^ k, exponent := d.exponent - k }

/-- Each power of ten adds a zero. -/
theorem length_toDigits_mul_ten_pow {n : Nat} (hn : n ≠ 0) (k : Nat) :
    (Nat.toDigits 10 (n * 10 ^ k)).length = (Nat.toDigits 10 n).length + k := by
  induction k with
  | zero => simp
  | succ k ih =>
    have hpos : 0 < n * 10 ^ k := Nat.mul_pos (Nat.pos_of_ne_zero hn) (Nat.pow_pos (by decide))
    have hdigits := Nat.toDigits_append_toDigits (b := 10) (d := 0) (by decide) hpos (by decide)
    have hvalue : n * 10 ^ (k + 1) = 10 * (n * 10 ^ k) + 0 := by
      ring
    rw [hvalue, ← hdigits, List.length_append, ih]
    rfl

namespace Binary64

theorem ofDecimal_of_coefficient_eq_zero {d : Decimal} (h : d.coefficient = 0) :
    ofDecimal d = zero d.negative := by
  rw [ofDecimal, h]
  rfl

/-- A decimal number that is not zero as a fraction: of its two powers of ten one is `1`. -/
theorem ofDecimal_of_coefficient_ne_zero {d : Decimal} (h : d.coefficient ≠ 0) :
    ofDecimal d =
      if ((Nat.toDigits 10 d.coefficient).length + d.exponent : Int) < -exponentBound then
        zero d.negative
      else if exponentBound < (Nat.toDigits 10 d.coefficient).length + d.exponent then
        .infinite d.negative
      else ofRatio d.negative (d.coefficient * 10 ^ d.exponent.toNat * unitsPerOne)
        (10 ^ (-d.exponent).toNat) := by
  have hratio : (if 0 ≤ d.exponent then
        ofRatio d.negative (d.coefficient * Nat.pow 10 d.exponent.toNat * unitsPerOne) 1
      else ofRatio d.negative (d.coefficient * unitsPerOne) (Nat.pow 10 (-d.exponent).toNat))
      = ofRatio d.negative (d.coefficient * 10 ^ d.exponent.toNat * unitsPerOne)
        (10 ^ (-d.exponent).toNat) := by
    split
    · next hexponent =>
      rw [Int.toNat_eq_zero.mpr (by omega : -d.exponent ≤ 0)]
      rfl
    · next hexponent =>
      rw [Int.toNat_eq_zero.mpr (by omega : d.exponent ≤ 0), Nat.pow_zero, Nat.mul_one]
      rfl
  rw [← hratio, ofDecimal]
  simp [h]

/-- Zeros at the end of the coefficient make no difference. -/
theorem ofDecimal_extended (d : Decimal) (k : Nat) : ofDecimal (d.extended k) = ofDecimal d := by
  by_cases h : d.coefficient = 0
  · rw [ofDecimal_of_coefficient_eq_zero h, ofDecimal_of_coefficient_eq_zero]
    · rfl
    · rw [Decimal.extended, h, Nat.zero_mul]
  · have hextended : (d.extended k).coefficient ≠ 0 :=
      Nat.mul_ne_zero h (Nat.pow_pos (by decide)).ne'
    have hpoint : ((Nat.toDigits 10 (d.extended k).coefficient).length
        + (d.extended k).exponent : Int) = (Nat.toDigits 10 d.coefficient).length + d.exponent := by
      rw [Decimal.extended, length_toDigits_mul_ten_pow h]
      push_cast
      omega
    have hratio : ofRatio d.negative
          (d.coefficient * 10 ^ k * 10 ^ (d.exponent - k).toNat * unitsPerOne)
          (10 ^ (-(d.exponent - k)).toNat)
        = ofRatio d.negative (d.coefficient * 10 ^ d.exponent.toNat * unitsPerOne)
          (10 ^ (-d.exponent).toNat) := by
      -- both powers of ten on the left make up for the zeros and for those on the right
      have hpowers : k + (d.exponent - k).toNat + (-d.exponent).toNat
          = d.exponent.toNat + (-(d.exponent - k)).toNat := by
        omega
      refine ofRatio_congr (Nat.pow_pos (by decide)) (Nat.pow_pos (by decide)) ?_ _
      calc d.coefficient * 10 ^ k * 10 ^ (d.exponent - k).toNat * unitsPerOne
            * 10 ^ (-d.exponent).toNat
          = d.coefficient * unitsPerOne
            * 10 ^ (k + (d.exponent - k).toNat + (-d.exponent).toNat) := by ring
        _ = d.coefficient * 10 ^ d.exponent.toNat * unitsPerOne
            * 10 ^ (-(d.exponent - k)).toNat := by rw [hpowers]; ring
    rw [ofDecimal_of_coefficient_ne_zero h, ofDecimal_of_coefficient_ne_zero hextended, hpoint]
    exact congrArg _ (congrArg _ hratio)

/-! ## Shortest decimal numbers -/

theorem lt_length_toDigits {n k : Nat} (hk : 0 < k) (h : 10 ^ k ≤ n) :
    k < (Nat.toDigits 10 n).length := by
  rw [← Nat.not_le, Nat.length_toDigits_le_iff (by decide) hk]
  exact Nat.not_lt.mpr h

/-- One unit as a decimal coefficient: it neither has so many digits that a magnitude is taken for
an infinity, nor so few that one other than zero is taken for zero. -/
theorem exactDecimal_eq (negative : Bool) (r : Nat) :
    ∃ unit, exactDecimal negative r = ⟨negative, unitsOfRank r * unit, -1074⟩ ∧
      unit * unitsPerOne = 10 ^ 1074 ∧ 10 ^ 673 ≤ unit ∧
      unitsOfRank finiteRanks * unit ≤ 10 ^ 1474 :=
  ⟨Nat.pow 5 1074, rfl, by decide +kernel, by decide +kernel, by decide +kernel⟩

theorem within_exponentBound {digits : Nat} (hlow : 673 < digits) (hhigh : digits ≤ 1474) :
    ¬ (digits + -1074 : Int) < -exponentBound ∧ ¬ exponentBound < digits + -1074 := by
  simp only [exponentBound]
  omega

/-- The exact value of a finite number is read as that number. -/
theorem ofDecimal_exactDecimal (negative : Bool) (r : Fin finiteRanks) :
    ofDecimal (exactDecimal negative r) = .finite negative r := by
  obtain ⟨unit, hexact, hscale, hleast, hgreatest⟩ := exactDecimal_eq negative r
  rw [hexact]
  -- zero is no magnitude with digits of its own
  by_cases hr : r.val = 0
  · obtain rfl : r = ⟨0, by decide⟩ := Fin.ext hr
    exact ofDecimal_of_coefficient_eq_zero (Nat.zero_mul unit)
  · have hunits : 1 ≤ unitsOfRank r :=
      unitsOfRank_strictMono.monotone (Nat.one_le_iff_ne_zero.mpr hr)
    have hunit : 0 < unit := Nat.lt_of_lt_of_le (Nat.pow_pos (by decide)) hleast
    have hlow := lt_length_toDigits (by decide) (hleast.trans (Nat.le_mul_of_pos_left unit hunits))
    have hhigh := (Nat.length_toDigits_le_iff (by decide) (by decide)).mpr
      (Nat.lt_of_lt_of_le (Nat.mul_lt_mul_of_pos_right (unitsOfRank_strictMono r.isLt) hunit)
        hgreatest)
    obtain ⟨hzero, hinfinite⟩ := within_exponentBound hlow hhigh
    rw [ofDecimal_of_coefficient_ne_zero (Nat.mul_pos hunits hunit).ne', if_neg hzero,
      if_neg hinfinite, ← ofRatio_unitsOfRank]
    -- the power of ten that the units are counted in is cancelled
    have hpower : (-(-1074) : Int).toNat = 1074 := rfl
    refine ofRatio_congr (Nat.pow_pos (by decide)) Nat.one_pos ?_ _
    show unitsOfRank r * unit * 10 ^ 0 * unitsPerOne * 1
      = unitsOfRank r * 10 ^ (-(-1074) : Int).toNat
    rw [hpower, ← hscale, Nat.pow_zero, Nat.mul_one, Nat.mul_one, Nat.mul_assoc]

/-- **A shortest decimal number** is read as the number that it was found for: either the search
finds one that is, or the exact decimal number is kept, which is read so as well. -/
theorem ofDecimal_shortest (negative : Bool) (r : Fin finiteRanks) :
    ofDecimal (shortest (.finite negative r) (exactDecimal negative r)) = .finite negative r := by
  rw [shortest]
  cases hfind : List.find? (fun c => decide (ofDecimal c = .finite negative r)) _ with
  | none => exact ofDecimal_exactDecimal negative r
  | some d => simpa using List.find?_some hfind

end Binary64
end Abacus
