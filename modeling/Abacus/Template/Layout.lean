import Abacus.Binary64.Rounding

/-!
# Layout of values in templates

A directive of a template may say how wide the field of its value is, on which side of it the value
stands, and how a number is written: with how many digits, in which base, and with what in front of
it.

- `Layout.place` and `Layout.placeNumber`: put a text or a number into its field.
- `Layout.integer`: an integer in some base.
- `Layout.fixed`, `Layout.scientific`, `Layout.general`: an integer as a number with a fraction.
-/

namespace Abacus.Template

/-- How the text of a value is laid out. -/
structure Layout where
  /-- The value stands at the left end of its field. -/
  leftAligned : Bool
  /-- A plus stands before a number that is not negative. -/
  plus : Bool
  /-- A space stands before a number that is not negative and has no plus. -/
  space : Bool
  /-- The base of an integer is marked, and the point and the zeros of a fraction are kept. -/
  explicit : Bool
  /-- Zeros fill the field of a number. -/
  zeros : Bool
  width : Nat
  precision : Option Nat

namespace Layout

/-! ## Fields -/

/-- Puts a text into its field. -/
def place (l : Layout) (cs : List Char) : List Char :=
  let gap := List.replicate (l.width - cs.length) ' '
  if l.leftAligned then cs ++ gap else gap ++ cs

/-- Puts a number into its field. Zeros stand behind what is in front of the digits. -/
def placeNumber (l : Layout) (front digits : List Char) : List Char :=
  if l.zeros && !l.leftAligned then
    front ++ (List.replicate (l.width - (front.length + digits.length)) '0' ++ digits)
  else l.place (front ++ digits)

/-- What shows the sign of a number. -/
def sign (l : Layout) (negative : Bool) : List Char :=
  if negative then ['-'] else if l.plus then ['+'] else if l.space then [' '] else []

/-! ## Integers -/

/-- An integer in some base, with as many digits as the precision says at least. -/
def integer (l : Layout) (base : Nat) (marker : List Char) (n : Int) : List Char :=
  let ds := Nat.toDigits base n.natAbs
  let front := l.sign (n < 0) ++ if l.explicit then marker else []
  l.placeNumber front (List.replicate (l.precision.getD 0 - ds.length) '0' ++ ds)

/-! ## Numbers with a fraction -/

/-- How many digits follow the point, or how many digits there are, if no precision is given. -/
def usualPrecision : Nat := 6

/-- Joins a whole part and the digits of a fraction. -/
def joinFraction (l : Layout) (whole fraction : List Char) : List Char :=
  if fraction.isEmpty && !l.explicit then whole else whole ++ '.' :: fraction

/-- The first `count` digits of a number, the last one rounded half to even, and the power of ten
that the first digit counts. -/
def leadingDigits (count n : Nat) : List Char × Nat :=
  let ds := Nat.toDigits 10 n
  if ds.length ≤ count then (ds ++ List.replicate (count - ds.length) '0', ds.length - 1)
  else
    let dropped := ds.length - count
    let rounded := Nat.toDigits 10 (Binary64.roundHalfEven n (Nat.pow 10 dropped))
    (rounded.take count, dropped + rounded.length - 1)

/-- An integer with a fraction of zeros. -/
def fixed (l : Layout) (n : Int) : List Char :=
  let places := l.precision.getD usualPrecision
  l.placeNumber (l.sign (n < 0))
    (l.joinFraction (Nat.toDigits 10 n.natAbs) (List.replicate places '0'))

/-- A digit, a fraction and a power of ten. -/
def withPower (l : Layout) (letter : Char) (digit fraction : List Char) (power : Nat) : List Char :=
  l.joinFraction digit fraction ++ letter :: Decimal.exponentChars power

/-- An integer with one digit before the point and a power of ten. -/
def scientific (l : Layout) (letter : Char) (n : Int) : List Char :=
  let (ds, power) := leadingDigits (l.precision.getD usualPrecision + 1) n.natAbs
  l.placeNumber (l.sign (n < 0)) (l.withPower letter (ds.take 1) (ds.drop 1) power)

/-- The zeros at the end of a fraction are kept only where that is asked for. -/
def trimFraction (l : Layout) (fraction : List Char) : List Char :=
  if l.explicit then fraction else (fraction.reverse.dropWhile (· = '0')).reverse

/-- An integer with a power of ten if it has more digits than the precision says, and without
otherwise. -/
def general (l : Layout) (letter : Char) (n : Int) : List Char :=
  let count := max 1 (l.precision.getD usualPrecision)
  let (ds, power) := leadingDigits count n.natAbs
  l.placeNumber (l.sign (n < 0)) <|
    if power < count then
      l.joinFraction (ds.take (power + 1)) (l.trimFraction (ds.drop (power + 1)))
    else l.withPower letter (ds.take 1) (l.trimFraction (ds.drop 1)) power

end Layout
end Abacus.Template
