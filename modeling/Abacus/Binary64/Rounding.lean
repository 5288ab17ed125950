import Abacus.Binary64.Basic
import Abacus.Decimal

/-!
# Rounding to double precision

`ofRatio` gives the double precision number that is nearest to a fraction, the one of even rank
where two are equally near, and an infinity where the fraction exceeds the finite numbers by half a
step or more. Every operation on double precision numbers computes an exact fraction first and
rounds it once.

- `nearestRank`: the rank of the nearest magnitude, counted on beyond the finite ones.
- `ofRatio`, `ofInt`, `ofDecimal`: the number nearest to a fraction of units, to an integer, and to
  a decimal number.
-/

namespace Abacus.Binary64

/-- The integer nearest to `num / den`, the even one of two that are equally near. -/
def roundHalfEven (num den : Nat) : Nat :=
  let floor := num / den
  let rest := num % den
  if 2 * rest < den then floor
  else if den < 2 * rest then floor + 1
  else floor + floor % 2

/-- The rank of the magnitude nearest to `num / den` units. With `2 ^ (52 + k)` units or more, but
less than twice as many, magnitudes are `2 ^ k` units apart, so the fraction is rounded to a whole
number of such steps. -/
def nearestRank (num den : Nat) : Nat :=
  let k := Nat.log2 (num / den) - 52
  k * binadeSize + roundHalfEven num (den * Nat.pow 2 k)

/-- The number nearest to `num / den` units, with the given sign. -/
def ofRatio (negative : Bool) (num den : Nat) : Binary64 :=
  if h : nearestRank num den < finiteRanks then .finite negative ⟨nearestRank num den, h⟩
  else .infinite negative

/-- The number nearest to an integer. -/
def ofInt (n : Int) : Binary64 :=
  ofRatio (n < 0) (n.natAbs * unitsPerOne) 1

/-- The decimal exponent beyond which every positive number rounds to an infinity, and below whose
opposite every number rounds to zero. -/
def exponentBound : Int := 400

/-- The number nearest to a decimal number. Numbers far outside the range are told by their decimal
exponent, so that no power of ten grows with an exponent that is merely written. -/
def ofDecimal (d : Decimal) : Binary64 :=
  let point := (Nat.toDigits 10 d.coefficient).length + d.exponent
  if d.coefficient = 0 || point < -exponentBound then zero d.negative
  else if exponentBound < point then .infinite d.negative
  else if 0 ≤ d.exponent then
    ofRatio d.negative (d.coefficient * Nat.pow 10 d.exponent.toNat * unitsPerOne) 1
  else
    ofRatio d.negative (d.coefficient * unitsPerOne) (Nat.pow 10 (-d.exponent).toNat)

end Abacus.Binary64
