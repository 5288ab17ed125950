import Abacus.Json.Basic
import Abacus.Number.Text
import Abacus.Text.Quoted

/-!
# Writing JSON

Documents are written as JSON (specification §13). `Json.compact` writes a value on one line,
`Json.pretty` with each item and member on an indented line of its own. In strings, quotes,
backslashes and the controls below U+0020 are escaped and nothing else.
-/

namespace Abacus.Json

/-- A character as it stands in a string. -/
def escapedChar (c : Char) : List Char :=
  if c = '"' then ['\\', '"']
  else if c = '\\' then ['\\', '\\']
  else if c = '\n' then ['\\', 'n']
  else if c = '\r' then ['\\', 'r']
  else if c = '\t' then ['\\', 't']
  else if c = '\x08' then ['\\', 'b']
  else if c = '\x0c' then ['\\', 'f']
  else if c.toNat < 0x20 then '\\' :: 'u' :: Text.hexDigits 4 c.toNat
  else [c]

/-- A string with its quotes. -/
def stringChars (s : String) : List Char :=
  '"' :: (s.toList.flatMap escapedChar ++ ['"'])

/-- The break before an item at the given depth: a line feed and the indentation, if there is
one. -/
def breakChars (indent : Option Nat) (depth : Nat) : List Char :=
  match indent with
  | none => []
  | some width => '\n' :: List.replicate (width * depth) ' '

mutual

/-- Writes a value that stands at the given depth. -/
def chars (indent : Option Nat) (depth : Nat) : Json → List Char
  | .null => ['n', 'u', 'l', 'l']
  | .bool true => ['t', 'r', 'u', 'e']
  | .bool false => ['f', 'a', 'l', 's', 'e']
  | .int n => Number.integerChars n
  | .float x => x.toChars
  | .string s => stringChars s
  | .array [] => ['[', ']']
  | .array (item :: items) =>
    '[' :: (breakChars indent (depth + 1) ++ chars indent (depth + 1) item
      ++ itemsChars indent depth items)
  | .object [] => ['{', '}']
  | .object ((key, value) :: members) =>
    '{' :: (breakChars indent (depth + 1) ++ stringChars key ++ ':' :: ' ' ::
      (chars indent (depth + 1) value ++ membersChars indent depth members))

/-- Writes the further items of an array that stands at the given depth, and its end. -/
def itemsChars (indent : Option Nat) (depth : Nat) : List Json → List Char
  | [] => breakChars indent depth ++ [']']
  | item :: items =>
    ',' :: (breakChars indent (depth + 1) ++ chars indent (depth + 1) item
      ++ itemsChars indent depth items)

/-- Writes the further members of an object that stands at the given depth, and its end. -/
def membersChars (indent : Option Nat) (depth : Nat) : List (String × Json) → List Char
  | [] => breakChars indent depth ++ ['}']
  | (key, value) :: members =>
    ',' :: (breakChars indent (depth + 1) ++ stringChars key ++ ':' :: ' ' ::
      (chars indent (depth + 1) value ++ membersChars indent depth members))

end

/-- Writes a value on one line. -/
def compact (v : Json) : String :=
  String.ofList (chars none 0 v)

/-- Writes a value with each level indented by two more spaces. -/
def pretty (v : Json) : String :=
  String.ofList (chars (some 2) 0 v)

end Abacus.Json
