import Abacus.Text.Blank
import Abacus.Text.WordChar

/-!
# Filled paragraphs

The help of the command is filled into columns (specification §14). `fill` lays a paragraph out in
lines of a given width. Runs of blanks count as one space, a line is broken at a space or behind a
hyphen within a compound word, or around a dash, and a word that is longer than a whole line is cut.
-/

namespace Abacus.Text

/-! ## Where words can be broken -/

/-- Whether a dash can follow a character directly. -/
def isWordPunctuation (c : Char) : Bool :=
  isWordChar c || ['!', '"', '\'', '&', '.', ',', '?'].contains c

/-- Whether two letters come first, divided by a hyphen or not. -/
def startsWithLetters : List Char → Bool
  | a :: '-' :: b :: _ => isWordLetter a && isWordLetter b
  | a :: b :: _ => isWordLetter a && isWordLetter b
  | _ => false

/-- Whether a hyphen joins the parts of a compound word. `before` holds the characters before it,
nearest first, and `after` those behind it. -/
def joinsWords (before after : List Char) : Bool :=
  startsWithLetters before && startsWithLetters after

/-- Whether a dash of two hyphens or more stands between words here. -/
def startsDash (before here : List Char) : Bool :=
  (before.head?.map isWordPunctuation).getD false &&
    (match here with
      | '-' :: '-' :: rest => ((rest.dropWhile (· = '-')).head?.map isWordChar).getD false
      | _ => false)

/-- Divides a word into the parts between which a line can be broken. `before` holds the characters
before those to come, `part` those of the current part, both nearest first, and `dash` tells whether
the current part is a dash. -/
def wordParts (before part : List Char) (dash : Bool) : List Char → List (List Char)
  | [] => if part.isEmpty then [] else [part.reverse]
  | c :: cs =>
    if dash && c = '-' then wordParts (c :: before) (c :: part) true cs
    else if dash then part.reverse :: wordParts (c :: before) [c] false cs
    else if part.isEmpty then wordParts (c :: before) [c] false cs
    else if c = '-' && joinsWords before cs then
      (c :: part).reverse :: wordParts (c :: before) [] false cs
    else if startsDash before (c :: cs) then
      part.reverse :: wordParts (c :: before) [c] true cs
    else wordParts (c :: before) (c :: part) false cs

/-- The words of a paragraph. `word` holds the characters of the current one, the latest first. -/
def words (word : List Char) : List Char → List (List Char)
  | [] => if word.isEmpty then [] else [word.reverse]
  | c :: cs =>
    if c = ' ' || (9 ≤ c.toNat && c.toNat ≤ 13) then
      if word.isEmpty then words [] cs else word.reverse :: words [] cs
    else words (c :: word) cs

/-- The parts of a paragraph between which a line can be broken, with a single space between the
words. -/
def breakableParts (paragraph : List Char) : List (List Char) :=
  [[' ']].intercalate ((words [] paragraph).map (wordParts [] [] false))

/-! ## Laying lines out -/

/-- How many characters of a word that is longer than a line go into the `room` that is left: up to
behind its last hyphen, if there is one within the room and not hyphens only before it. -/
def cutPoint (word : List Char) (room : Nat) : Nat :=
  let head := word.take room
  let hyphen := head.length - 1 - (head.reverse.takeWhile (· ≠ '-')).length
  if head.contains '-' && 0 < hyphen && (word.take hyphen).any (· ≠ '-') then hyphen + 1 else room

/-- Ends a line: drops a blank part at its end. The parts come the latest first. -/
def endLine (line : List (List Char)) : List (List Char) :=
  match line with
  | part :: rest => if part.all isBlank then rest else line
  | [] => []

/-- The texts of finished lines, without those that turned out to be empty. -/
def lineText (line : List (List Char)) : List (List Char) :=
  match endLine line with
  | [] => []
  | parts => [parts.reverse.flatten]

/-- The parts that are left for a line: a blank one is not put at the start of a line, unless it is
the first line. -/
def partsForLine (first : Bool) (parts : List (List Char)) : List (List Char) :=
  match parts with
  | part :: rest => if !first && part.all isBlank then rest else parts
  | [] => []

/-- Puts parts into lines. `line` holds the parts of the current line, the latest first, `used` how
many characters they have, and `first` tells that there is no line before it. Each step places a
part, or the piece of one that fits, or ends a line, and `fuel` bounds the number of steps. -/
def layLines (width : Nat) : Nat → Bool → List (List Char) → Nat → List (List Char) →
    List (List Char)
  | 0, _, line, _, _ => lineText line
  | _ + 1, _, line, _, [] => lineText line
  | fuel + 1, first, line, used, part :: parts =>
    if used + part.length ≤ width then
      layLines width fuel first (part :: line) (used + part.length) parts
    else
      let cut := if width < part.length then cutPoint part (width - used) else 0
      let line := if width < part.length then part.take cut :: line else line
      let first := first && (lineText line).isEmpty
      lineText line ++ layLines width fuel first [] 0 (partsForLine first (part.drop cut :: parts))

/-- The lines of a paragraph, filled up to the given width. -/
def fill (width : Nat) (paragraph : String) : List String :=
  let parts := breakableParts (strip paragraph).toList
  (layLines width (2 * paragraph.length + 2) true [] 0 parts).map String.ofList

end Abacus.Text
