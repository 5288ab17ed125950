/-!
# Double precision numbers

What a quotient is that is no integer (specification §4.3). The binary floating point numbers with
53 bits of significand and 11 bits of exponent. The finite magnitudes are counted upwards from zero:
the magnitude of rank `r` is the `r`-th of them, so that a finite number is a sign and a rank and
has only one representation. Every finite magnitude is a whole number of units of `2 ^ -1074`, and
`unitsOfRank` says how many.
-/

namespace Abacus

/-- The number of magnitudes that share an exponent: `2 ^ 52`. -/
abbrev binadeSize : Nat := 0x10000000000000

/-- How many finite magnitudes there are: those of 2047 exponents. -/
abbrev finiteRanks : Nat := 2047 * binadeSize

/-- A double precision number. -/
inductive Binary64 where
  /-- The finite number with the given sign and the magnitude of the given rank. -/
  | finite (negative : Bool) (rank : Fin finiteRanks)
  | infinite (negative : Bool)
  | nan
deriving DecidableEq, Repr

namespace Binary64

/-- The number of units of `2 ^ -1074` in one. -/
def unitsPerOne : Nat := Nat.pow 2 1074

/-- The magnitude of rank `r` in units of `2 ^ -1074`. The first `2 ^ 52` magnitudes are one unit
apart; from there on each `2 ^ 52` magnitudes are twice as far apart as those before. -/
def unitsOfRank (r : Nat) : Nat :=
  if r < binadeSize then r
  else (binadeSize + r % binadeSize) * Nat.pow 2 (r / binadeSize - 1)

/-- The zero with the given sign. -/
def zero (negative : Bool) : Binary64 :=
  .finite negative ⟨0, by decide⟩

/-- Whether a number is neither infinite nor the absent number. -/
def isFinite : Binary64 → Bool
  | .finite _ _ => true
  | .infinite _ => false
  | .nan => false

/-- Whether a number is a zero of either sign. -/
def isZero : Binary64 → Bool
  | .finite _ r => r.val = 0
  | .infinite _ => false
  | .nan => false

/-- Whether a number is below zero. -/
def isNegative : Binary64 → Bool
  | .finite negative r => negative && r.val ≠ 0
  | .infinite negative => negative
  | .nan => false

/-- A number of units with a sign. -/
def signed (negative : Bool) (units : Nat) : Int :=
  if negative then -(units : Int) else units

/-- The integer that a finite number is equal to. -/
def toInt? : Binary64 → Option Int
  | .finite negative r =>
    let units := unitsOfRank r
    if units % unitsPerOne = 0 then some (signed negative (units / unitsPerOne)) else none
  | .infinite _ => none
  | .nan => none

/-- Whether a number is less than an integer. -/
def isBelow (bound : Int) : Binary64 → Bool
  | .finite negative r => signed negative (unitsOfRank r) < bound * unitsPerOne
  | .infinite negative => negative
  | .nan => false

end Binary64
end Abacus
