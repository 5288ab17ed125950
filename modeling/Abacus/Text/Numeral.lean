import Abacus.Text.Blank
import Abacus.Text.DecimalDigit

/-!
# Numerals as they are written

What the readers of integers and of floating point numbers share. A numeral may be surrounded by
blanks, may use the decimal digits of any script, and may divide its digits by single underscores.
`numeralChars` settles the first two points and `ungrouped?` the third, after which only ASCII
characters are left to be read.
-/

namespace Abacus.Text

/-- The blanks that may surround a numeral, once written in ASCII: tab to carriage return, and the
space. -/
def isNumeralBlank (c : Char) : Bool :=
  c = ' ' || (9 ≤ c.toNat && c.toNat ≤ 13)

/-- The ASCII character that a character of a numeral stands for: itself, a space for a blank, a
digit for a decimal digit, and a question mark, which no numeral admits, for anything else. -/
def asciiForm (c : Char) : Char :=
  if c.toNat < 127 then c
  else if isBlank c then ' '
  else match digitValue? c with
    | some d => d.digitChar
    | none => '?'

/-- The characters of a numeral in ASCII and without the surrounding blanks. -/
def numeralChars (s : String) : List Char :=
  trimBoth isNumeralBlank (s.toList.map asciiForm)

/-- The characters without underscores, provided that each underscore stands between two digits;
`afterDigit` says whether a digit precedes the first character. -/
def ungroupedFrom? (afterDigit : Bool) : List Char → Option (List Char)
  | [] => some []
  | '_' :: c :: cs =>
    if afterDigit && c.isDigit then (ungroupedFrom? true cs).map (c :: ·) else none
  | c :: cs =>
    if c = '_' then none else (ungroupedFrom? c.isDigit cs).map (c :: ·)

/-- The characters without underscores, provided that each underscore stands between two digits. -/
def ungrouped? (cs : List Char) : Option (List Char) :=
  ungroupedFrom? false cs

/-- Splits a leading sign off; the first part says whether it is a minus. -/
def splitSign : List Char → Bool × List Char
  | '-' :: cs => (true, cs)
  | '+' :: cs => (false, cs)
  | cs => (false, cs)

end Abacus.Text
