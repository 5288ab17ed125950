import Abacus.Binary64.Rounding

/-!
# Double precision numbers as text

A finite number is written with the fewest digits that are read back as the same number, and among
the numerals of that length with the digits nearest to its exact value. `toChars` writes a number
and `ofText?` reads one; reading also admits surrounding blanks, digit groups, and the names of the
infinities and of the absent number in upper or lower case.
-/

namespace Abacus.Binary64

/-! ## Writing -/

/-- The exact value of the finite number of rank `r`: one unit is `5 ^ 1074 · 10 ^ -1074`. -/
def exactDecimal (negative : Bool) (r : Nat) : Decimal :=
  { negative, coefficient := unitsOfRank r * Nat.pow 5 1074, exponent := -1074 }

/-- The two neighbours of a decimal number among those with `n` digits, the nearer one first and,
where both are equally near, the one with an even last digit first. The number itself has `size`
digits. -/
def neighbours (d : Decimal) (size n : Nat) : List Decimal :=
  let step := Nat.pow 10 (size - n)
  let floor := d.coefficient / step
  let rest := d.coefficient % step
  let below : Decimal := { d with coefficient := floor, exponent := d.exponent + (size - n : Nat) }
  let above : Decimal := { below with coefficient := floor + 1 }
  if 2 * rest < step || (2 * rest = step && floor % 2 = 0) then [below, above] else [above, below]

/-- Seventeen digits tell any two double precision numbers apart. -/
def mostDigits : Nat := 17

/-- The shortest decimal number that rounds to `x`, whose exact value is `d`. -/
def shortest (x : Binary64) (d : Decimal) : Decimal :=
  let size := (Nat.toDigits 10 d.coefficient).length
  let candidates := (List.range mostDigits).flatMap fun n => neighbours d size (n + 1)
  (candidates.find? fun c => ofDecimal c = x).getD d

/-- The characters of a sign: a minus for a negative number and nothing for another. -/
def signChars (negative : Bool) : List Char :=
  if negative then ['-'] else []

/-- Writes a number. -/
def toChars : Binary64 → List Char
  | x@(.finite negative r) => (shortest x (exactDecimal negative r)).toChars
  | .infinite negative => signChars negative ++ ['i', 'n', 'f']
  | .nan => ['n', 'a', 'n']

/-- The written form of a number. -/
def text (x : Binary64) : String :=
  String.ofList x.toChars

/-! ## Reading -/

/-- Reads a number from ASCII characters without digit groups. -/
def ofChars? (cs : List Char) : Option Binary64 :=
  let (negative, body) := Text.splitSign cs
  let name := body.map Char.toLower
  if name = ['i', 'n', 'f'] || name = ['i', 'n', 'f', 'i', 'n', 'i', 't', 'y'] then
    some (.infinite negative)
  else if name = ['n', 'a', 'n'] then some .nan
  else (Decimal.readMagnitude? negative body).map ofDecimal

/-- Reads a number. -/
def ofText? (s : String) : Option Binary64 :=
  (Text.ungrouped? (Text.numeralChars s)).bind ofChars?

end Abacus.Binary64
