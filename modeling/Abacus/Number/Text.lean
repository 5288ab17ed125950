import Abacus.Binary64.Text
import Abacus.Number.Basic
import Abacus.Text.Quoted

/-!
# Numbers as text

Between two steps of a reduction, numbers stand as text (specification §4.3). An operand that is a
run of digits with an optional minus is an integer, and any other operand is read as a double
precision number. A result that is an integer is written as one, also where it is an integral double
precision number below `2 ^ 53`, so that what is written is read back as an integer. Integers of
more than 4300 digits are neither read nor written.
-/

namespace Abacus

/-- The ways in which a numeral cannot be read or written. -/
inductive NumeralError where
  /-- An integer numeral with too many digits. -/
  | tooLongToRead (digits : Nat)
  /-- An integer that would need too many digits. -/
  | tooLongToWrite
  /-- A text that is no numeral of a double precision number. -/
  | notFloat (text : String)
  /-- A text that is no numeral of an integer. -/
  | notInteger (text : String)
deriving DecidableEq, Repr

/-- A text as the message about an unreadable integer shows it: the first 200 characters of its
quoted form. -/
def shortQuoted (s : String) : String :=
  String.ofList ((Text.quoted s).toList.take 200)

/-- The message of an error. -/
def NumeralError.message : NumeralError → String
  | .tooLongToRead digits =>
    "Exceeds the limit (4300 digits) for integer string conversion: value has " ++ toString digits
      ++ " digits; use sys.set_int_max_str_digits() to increase the limit"
  | .tooLongToWrite =>
    "Exceeds the limit (4300 digits) for integer string conversion; "
      ++ "use sys.set_int_max_str_digits() to increase the limit"
  | .notFloat text => "could not convert string to float: " ++ Text.quoted text
  | .notInteger text => "invalid literal for int() with base 10: " ++ shortQuoted text

namespace Number

/-- The greatest number of digits of an integer that is read or written. -/
def maxIntegerDigits : Nat := 4300

/-- The sign and the digits of an integer operand, if the operand is one. -/
def integerDigits? (cs : List Char) : Option (Bool × List Char) :=
  let (negative, ds) := match cs with
    | '-' :: ds => (true, ds)
    | ds => (false, ds)
  if ds ≠ [] && ds.all Char.isDigit then some (negative, ds) else none

/-- The integer with the given sign and digits, unless the digits are too many. -/
def readInteger (negative : Bool) (ds : List Char) : Except NumeralError Int :=
  if maxIntegerDigits < ds.length then .error (.tooLongToRead ds.length)
  else .ok (Binary64.signed negative (Decimal.digitsValue ds))

/-- Reads an operand. -/
def ofText (s : String) : Except NumeralError Number :=
  match integerDigits? s.toList with
  | some (negative, ds) => (readInteger negative ds).map .int
  | none => match Binary64.ofText? s with
    | some x => .ok (.float x)
    | none => .error (.notFloat s)

/-- The decimal numeral of an integer. -/
def integerChars (n : Int) : List Char :=
  Binary64.signChars (n < 0) ++ Nat.toDigits 10 n.natAbs

/-- Writes an integer, unless it needs too many digits. -/
def integerText (n : Int) : Except NumeralError String :=
  if maxIntegerDigits < (Nat.toDigits 10 n.natAbs).length then .error .tooLongToWrite
  else .ok (String.ofList (integerChars n))

/-- The bound below which every integer is a double precision number: `2 ^ 53`. -/
def exactIntegerBound : Nat := 2 * binadeSize

/-- The integer as which a double precision number is written: the one that it is equal to, if that
lies below the bound. -/
def shownInteger? (x : Binary64) : Option Int :=
  x.toInt?.filter fun n => n.natAbs < exactIntegerBound

/-- Writes a number as an operand. -/
def text : Number → Except NumeralError String
  | .int n => integerText n
  | .float x => match shownInteger? x with
    | some n => integerText n
    | none => .ok x.text

/-- Reads an integer numeral that may have a plus, surrounding blanks, digit groups and the digits
of any script, such as a setting holds. -/
def integerOfSetting (s : String) : Except NumeralError Int :=
  let (negative, body) := Text.splitSign (Text.numeralChars s)
  let isPart := fun c : Char => c.isDigit || c = '_'
  match Text.ungrouped? (body.takeWhile isPart) with
  | none | some [] => .error (.notInteger s)
  | some ds => do
    let n ← readInteger negative ds
    if body.dropWhile isPart = [] then .ok n else .error (.notInteger s)

end Number
end Abacus
