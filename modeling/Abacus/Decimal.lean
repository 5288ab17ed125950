import Abacus.Text.Numeral

/-!
# Decimal numbers

A decimal number is a sign, a coefficient and a power of ten. `Decimal.ofChars?` reads the numerals
of the form `digits[.digits][e[sign]digits]`, and `Decimal.toChars` writes a decimal number
positionally when its decimal exponent is at least -4 and below 16, and with a power of ten
otherwise. What is written has a point or a power of ten, so it cannot be taken for an integer.
-/

namespace Abacus

/-- The number `± coefficient · 10 ^ exponent`. -/
structure Decimal where
  negative : Bool
  coefficient : Nat
  exponent : Int
deriving DecidableEq, Repr

namespace Decimal

/-! ## Reading -/

/-- The value of a run of ASCII digits. -/
def digitsValue (ds : List Char) : Nat :=
  Nat.ofDigitChars 10 ds 0

/-- Reads what follows the digits of a numeral: nothing, or a power of ten. -/
def readExponent? : List Char → Option Int
  | [] => some 0
  | c :: cs =>
    if c = 'e' || c = 'E' then
      let (negative, ds) := Text.splitSign cs
      if ds ≠ [] && ds.all Char.isDigit then
        some (if negative then -(digitsValue ds : Int) else digitsValue ds)
      else none
    else none

/-- Splits the point and the digits after it off; without a point there are no such digits. -/
def splitFraction : List Char → List Char × List Char
  | '.' :: cs => (cs.takeWhile Char.isDigit, cs.dropWhile Char.isDigit)
  | cs => ([], cs)

/-- Reads a numeral without sign. It has a digit before or after its point. -/
def readMagnitude? (negative : Bool) (cs : List Char) : Option Decimal :=
  let whole := cs.takeWhile Char.isDigit
  let (fraction, rest) := splitFraction (cs.dropWhile Char.isDigit)
  if whole ++ fraction = [] then none
  else (readExponent? rest).map fun e =>
    { negative, coefficient := digitsValue (whole ++ fraction), exponent := e - fraction.length }

/-- Reads a numeral with an optional sign. -/
def ofChars? (cs : List Char) : Option Decimal :=
  let (negative, body) := Text.splitSign cs
  readMagnitude? negative body

/-! ## Writing -/

/-- The digits of a positive number without the zeros at the end. -/
def significantDigits (n : Nat) : List Char :=
  ((Nat.toDigits 10 n).reverse.dropWhile (· = '0')).reverse

/-- Writes `0.ds · 10 ^ point` without a power of ten. -/
def positional (ds : List Char) (point : Int) : List Char :=
  if point ≤ 0 then
    '0' :: '.' :: (List.replicate (-point).toNat '0' ++ ds)
  else if ds.length ≤ point.toNat then
    ds ++ (List.replicate (point.toNat - ds.length) '0' ++ ['.', '0'])
  else
    ds.take point.toNat ++ '.' :: ds.drop point.toNat

/-- Writes the exponent of a power of ten: always with a sign, and with two digits at least. -/
def exponentChars (e : Int) : List Char :=
  let ds := Nat.toDigits 10 e.natAbs
  (if e < 0 then '-' else '+') :: (if ds.length < 2 then '0' :: ds else ds)

/-- Writes `d.ds · 10 ^ e` with a power of ten; the point is left out where no digit follows. -/
def scientific (ds : List Char) (e : Int) : List Char :=
  match ds with
  | [] => []
  | [d] => d :: 'e' :: exponentChars e
  | d :: rest => d :: '.' :: (rest ++ 'e' :: exponentChars e)

/-- The decimal exponents that are written positionally. -/
def isPositional (e : Int) : Bool :=
  -4 ≤ e && e < 16

/-- Writes a positive magnitude, `coefficient · 10 ^ exponent`. -/
def magnitudeChars (coefficient : Nat) (exponent : Int) : List Char :=
  let ds := significantDigits coefficient
  let point := (Nat.toDigits 10 coefficient).length + exponent
  if isPositional (point - 1) then positional ds point else scientific ds (point - 1)

/-- Writes a decimal number. -/
def toChars (d : Decimal) : List Char :=
  let magnitude :=
    if d.coefficient = 0 then ['0', '.', '0'] else magnitudeChars d.coefficient d.exponent
  if d.negative then '-' :: magnitude else magnitude

end Decimal
end Abacus
