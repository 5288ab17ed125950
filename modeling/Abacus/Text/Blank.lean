/-!
# Blank characters

The white space of the Unicode standard together with the four separators U+001C to U+001F. A name
in the environment may have them around it (specification §10). `strip` removes the blank characters
from both ends of a text and none from within it.
-/

namespace Abacus.Text

/-- The first and last code points of each run of blank characters, in increasing order. -/
def blankRuns : List (Nat × Nat) :=
  [(0x09, 0x0d), (0x1c, 0x20), (0x85, 0x85), (0xa0, 0xa0), (0x1680, 0x1680), (0x2000, 0x200a),
   (0x2028, 0x2029), (0x202f, 0x202f), (0x205f, 0x205f), (0x3000, 0x3000)]

/-- Whether a character is blank. -/
def isBlank (c : Char) : Bool :=
  blankRuns.any fun run => run.1 ≤ c.toNat && c.toNat ≤ run.2

/-- Drops the characters that satisfy `p` from both ends. -/
def trimBoth (p : Char → Bool) (cs : List Char) : List Char :=
  ((cs.dropWhile p).reverse.dropWhile p).reverse

/-- A text without the blank characters at its two ends. -/
def strip (s : String) : String :=
  String.ofList (trimBoth isBlank s.toList)

/-- Whether a text holds blank characters only. -/
def allBlank (s : String) : Bool :=
  s.toList.all isBlank

end Abacus.Text
