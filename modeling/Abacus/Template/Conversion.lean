import Abacus.Json.Literal
import Abacus.Template.Layout

/-!
# Conversions of values in templates

A conversion is what a directive makes of its value, and a letter stands for it. Some conversions
take any value, some take numbers only, where a truth value counts as 0 or 1, and one takes a
character.
-/

namespace Abacus.Template

/-- What is made of a value. -/
inductive Conversion where
  /-- The value as part of a text. -/
  | display
  /-- The value as a literal. -/
  | literal
  /-- The value as a literal in which the characters beyond ASCII are escaped. -/
  | asciiLiteral
  | integer (base : Nat) (marker : List Char) (capitals : Bool)
  | fixed
  | scientific (letter : Char)
  | general (letter : Char)
  /-- A character, or that with a given code point. -/
  | character
deriving DecidableEq, Repr

namespace Conversion

/-- The conversion that a letter stands for. -/
def ofChar? (c : Char) : Option Conversion :=
  match c with
  | 's' => some .display
  | 'r' => some .literal
  | 'a' => some .asciiLiteral
  | 'd' | 'i' | 'u' => some (.integer 10 [] false)
  | 'o' => some (.integer 8 ['0', 'o'] false)
  | 'x' => some (.integer 16 ['0', 'x'] false)
  | 'X' => some (.integer 16 ['0', 'x'] true)
  | 'f' | 'F' => some .fixed
  | 'e' => some (.scientific 'e')
  | 'E' => some (.scientific 'E')
  | 'g' => some (.general 'e')
  | 'G' => some (.general 'E')
  | 'c' => some .character
  | _ => none

/-- The integer that a value counts as. -/
def integer? : Json → Option Int
  | .int n => some n
  | .bool b => some (if b then 1 else 0)
  | _ => none

/-- The character that a value is or whose code point it is. -/
def character? (v : Json) : Option Char :=
  match v.string?.map String.toList, integer? v with
  | some [c], _ => some c
  | _, some n => if 0 ≤ n && n.toNat.isValidChar then some (Char.ofNat n.toNat) else none
  | _, none => none

/-- A text in its field, cut off behind as many characters as the precision says. -/
def placeText (l : Layout) (s : String) : List Char :=
  match l.precision with
  | some n => l.place (s.toList.take n)
  | none => l.place s.toList

/-- How many characters a layout asks for at least. In a text the precision asks for none. -/
def extent (l : Layout) : Conversion → Nat
  | .display => l.width
  | .literal => l.width
  | .asciiLiteral => l.width
  | .character => l.width
  | .integer _ _ _ => max l.width (l.precision.getD 0)
  | .fixed => max l.width (l.precision.getD 0)
  | .scientific _ => max l.width (l.precision.getD 0)
  | .general _ => max l.width (l.precision.getD 0)

/-- A character, escaped unless it is an ASCII character. -/
def asciiEscape (c : Char) : List Char :=
  if c.toNat < 128 then [c] else Text.codePointEscape c

/-- What a conversion makes of a value, if it takes the value. -/
def write? (l : Layout) (v : Json) : Conversion → Option (List Char)
  | .display => some (placeText l v.display)
  | .literal => some (placeText l v.literal)
  | .asciiLiteral => some (placeText l (String.ofList (v.literal.toList.flatMap asciiEscape)))
  | .integer base marker capitals => (integer? v).map fun n =>
    let cs := l.integer base marker n
    if capitals then cs.map Char.toUpper else cs
  | .fixed => (integer? v).map l.fixed
  | .scientific letter => (integer? v).map (l.scientific letter)
  | .general letter => (integer? v).map (l.general letter)
  | .character => (character? v).map fun c => l.place [c]

end Conversion
end Abacus.Template
