import Abacus.Json.Basic

/-!
# Reading JSON

The bodies of requests are JSON (specification §15). `Json.parse?` reads a text that holds one JSON
value and nothing else but blanks.

- `Json.readString?`: a string with its escapes; two escapes can make one character together.
- `Json.readValue?`: any value. The recursion is bounded by the length of the text: a call for
  further items or members takes a character, and so does one for a value.
-/

namespace Abacus.Json

/-- The blanks that may stand between the parts of a value. -/
def isSpace (c : Char) : Bool :=
  c = ' ' || c = '\n' || c = '\r' || c = '\t'

/-- Drops leading blanks. -/
def skipSpace (cs : List Char) : List Char :=
  cs.dropWhile isSpace

/-! ## Strings -/

/-- The value of a hexadecimal digit. -/
def hexValue? (c : Char) : Option Nat :=
  if c.isDigit then some (c.toNat - '0'.toNat)
  else if 'a' ≤ c && c ≤ 'f' then some (c.toNat - 'a'.toNat + 10)
  else if 'A' ≤ c && c ≤ 'F' then some (c.toNat - 'A'.toNat + 10)
  else none

/-- The value of four hexadecimal digits. -/
def hexValue4? (a b c d : Char) : Option Nat := do
  let a ← hexValue? a
  let b ← hexValue? b
  let c ← hexValue? c
  let d ← hexValue? d
  return ((a * 16 + b) * 16 + c) * 16 + d

/-- The character that a backslash and one letter stand for. -/
def simpleEscape? (c : Char) : Option Char :=
  if c = '"' || c = '\\' || c = '/' then some c
  else if c = 'n' then some '\n'
  else if c = 'r' then some '\r'
  else if c = 't' then some '\t'
  else if c = 'b' then some '\x08'
  else if c = 'f' then some '\x0c'
  else none

/-- Reads a string behind its opening quote as code units: a character stands for its code point
and an escape for the unit that it gives. Also returns what follows the closing quote. -/
def readUnits? : List Char → Option (List Nat × List Char)
  | '"' :: rest => some ([], rest)
  | '\\' :: 'u' :: a :: b :: c :: d :: rest => do
    let unit ← hexValue4? a b c d
    let (units, rest) ← readUnits? rest
    return (unit :: units, rest)
  | '\\' :: e :: rest => do
    let c ← simpleEscape? e
    let (units, rest) ← readUnits? rest
    return (c.toNat :: units, rest)
  | c :: rest =>
    if c = '\\' || c.toNat < 0x20 then none
    else do
      let (units, rest) ← readUnits? rest
      return (c.toNat :: units, rest)
  | [] => none

/-- The character of a code point, if it has one. -/
def scalar? (n : Nat) : Option Char :=
  if n.isValidChar then some (Char.ofNat n) else none

/-- Joins the two halves of a surrogate pair. -/
def pairUp? (high low : Nat) : Option Nat :=
  if 0xd800 ≤ high && high < 0xdc00 && 0xdc00 ≤ low && low < 0xe000 then
    some (0x10000 + (high - 0xd800) * 0x400 + (low - 0xdc00))
  else none

/-- The characters of code units. A surrogate without its other half has none. -/
def scalars? : List Nat → Option (List Char)
  | [] => some []
  | [unit] => (scalar? unit).map (· :: [])
  | unit :: next :: units =>
    match pairUp? unit next with
    | some code => do return (← scalar? code) :: (← scalars? units)
    | none => do return (← scalar? unit) :: (← scalars? (next :: units))

/-- Reads a string behind its opening quote. -/
def readString? (cs : List Char) : Option (String × List Char) := do
  let (units, rest) ← readUnits? cs
  return (String.ofList (← scalars? units), rest)

/-! ## Numbers -/

/-- Whether a character can stand in a number. -/
def isNumberChar (c : Char) : Bool :=
  c.isDigit || c = '-' || c = '+' || c = '.' || c = 'e' || c = 'E'

/-- The value of a number: a whole number if it has digits only. -/
def ofNumberChars? (cs : List Char) : Option Json :=
  let (negative, ds) := Text.splitSign cs
  if cs.head? = some '+' then none
  else if ds ≠ [] && ds.all Char.isDigit then
    some (.int (Binary64.signed negative (Decimal.digitsValue ds)))
  else if (ds.head?.map Char.isDigit).getD false then
    (Decimal.readMagnitude? negative ds).map fun d => .float (.ofDecimal d)
  else none

/-! ## Values -/

/-- Takes the given characters off the front. -/
def expect? : List Char → List Char → Option (List Char)
  | [], cs => some cs
  | e :: es, c :: cs => if e = c then expect? es cs else none
  | _ :: _, [] => none

mutual

/-- Reads a value. -/
def readValue? : Nat → List Char → Option (Json × List Char)
  | 0, _ => none
  | fuel + 1, cs =>
    match skipSpace cs with
    | [] => none
    | '"' :: rest => (readString? rest).map fun (s, rest) => (.string s, rest)
    | '[' :: rest =>
      match skipSpace rest with
      | ']' :: rest => some (.array [], rest)
      | rest => do
        let (item, rest) ← readValue? fuel rest
        let (items, rest) ← readItems? fuel rest
        return (.array (item :: items), rest)
    | '{' :: rest =>
      match skipSpace rest with
      | '}' :: rest => some (.object [], rest)
      | rest => do
        let (member, rest) ← readMember? fuel rest
        let (members, rest) ← readMembers? fuel rest
        return (.object (member :: members), rest)
    | 'n' :: rest => (expect? ['u', 'l', 'l'] rest).map fun rest => (.null, rest)
    | 't' :: rest => (expect? ['r', 'u', 'e'] rest).map fun rest => (.bool true, rest)
    | 'f' :: rest => (expect? ['a', 'l', 's', 'e'] rest).map fun rest => (.bool false, rest)
    | c :: rest =>
      (ofNumberChars? ((c :: rest).takeWhile isNumberChar)).map
        fun v => (v, (c :: rest).dropWhile isNumberChar)

/-- Reads the further items of an array and its end. -/
def readItems? : Nat → List Char → Option (List Json × List Char)
  | 0, _ => none
  | fuel + 1, cs =>
    match skipSpace cs with
    | ']' :: rest => some ([], rest)
    | ',' :: rest => do
      let (item, rest) ← readValue? fuel rest
      let (items, rest) ← readItems? fuel rest
      return (item :: items, rest)
    | _ => none

/-- Reads a member of an object. -/
def readMember? : Nat → List Char → Option ((String × Json) × List Char)
  | 0, _ => none
  | fuel + 1, cs =>
    match skipSpace cs with
    | '"' :: rest => do
      let (key, rest) ← readString? rest
      match skipSpace rest with
      | ':' :: rest => do
        let (value, rest) ← readValue? fuel rest
        return ((key, value), rest)
      | _ => none
    | _ => none

/-- Reads the further members of an object and its end. -/
def readMembers? : Nat → List Char → Option (List (String × Json) × List Char)
  | 0, _ => none
  | fuel + 1, cs =>
    match skipSpace cs with
    | '}' :: rest => some ([], rest)
    | ',' :: rest => do
      let (member, rest) ← readMember? fuel rest
      let (members, rest) ← readMembers? fuel rest
      return (member :: members, rest)
    | _ => none

end

/-- Reads the one value that a text holds. -/
def parse? (s : String) : Option Json := do
  let (v, rest) ← readValue? (2 * s.toList.length + 1) s.toList
  if (skipSpace rest).isEmpty then some v else none

end Abacus.Json
