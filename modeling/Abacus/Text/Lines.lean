import Abacus.Text.Blank

/-!
# Lines

The command reads its input by lines (specification §14). A line ends with a line feed, with a
carriage return, or with the two together; no other character ends a line. The last line may lack
its end.
-/

namespace Abacus.Text

/-- Turns each line end into a single line feed. -/
def unifyLineEnds : List Char → List Char
  | '\r' :: '\n' :: cs => '\n' :: unifyLineEnds cs
  | '\r' :: cs => '\n' :: unifyLineEnds cs
  | c :: cs => c :: unifyLineEnds cs
  | [] => []

/-- The lines of a text whose lines end with line feeds, without their ends. `line` holds the
characters read so far of the first line, the latest first. -/
def splitLines (line : List Char) : List Char → List (List Char)
  | [] => if line.isEmpty then [] else [line.reverse]
  | c :: cs => if c = '\n' then line.reverse :: splitLines [] cs else splitLines (c :: line) cs

/-- The lines of a text, without their ends. -/
def lines (s : String) : List String :=
  (splitLines [] (unifyLineEnds s.toList)).map String.ofList

/-- The lines of a text that hold more than blanks. -/
def filledLines (s : String) : List String :=
  (lines s).filter fun line => !allBlank line

end Abacus.Text
