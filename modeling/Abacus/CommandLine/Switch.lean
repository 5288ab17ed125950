import Abacus.Results.Document

/-!
# Switches

The switches of the command line (specification §14), and what an argument is: a switch, possibly
abbreviated and with a value attached to it, a switch that is not known, or a plain argument. A
number with a minus and an argument with a space in it are plain even though they start with a
hyphen, and so is all that follows a double hyphen.
-/

namespace Abacus.CommandLine

/-- A switch of the command line. -/
inductive Switch where
  | help
  | form
  | parse
  | format
  | serve
deriving DecidableEq, Repr

namespace Switch

/-- All switches, in the order in which they are listed. -/
def all : List Switch := [.help, .form, .parse, .format, .serve]

/-- The long spelling of a switch. -/
def long : Switch → String
  | .help => "--help"
  | .form => "--notation"
  | .parse => "--parse"
  | .format => "--format"
  | .serve => "--serve"

/-- The spelling of a switch in messages. -/
def label : Switch → String
  | .help => "-h/--help"
  | .form => "--notation"
  | .parse => "--parse"
  | .format => "--format"
  | .serve => "--serve"

/-- Whether a switch has a value. -/
def takesValue : Switch → Bool
  | .help => false
  | .form => true
  | .parse => false
  | .format => true
  | .serve => false

/-- The values that a switch can have. -/
def choices : Switch → List String
  | .form => Notation.names
  | .format => Format.keys
  | .help => []
  | .parse => []
  | .serve => []

end Switch

/-- What is wrong with the arguments. -/
inductive UsageError where
  /-- An abbreviation of several switches. -/
  | ambiguous (argument : String) (candidates : List Switch)
  | missingValue (s : Switch)
  /-- A value attached to a switch that has none. -/
  | unwantedValue (s : Switch) (value : String)
  | invalidChoice (s : Switch) (value : String)
  /-- A switch that cannot stand together with an earlier one. -/
  | conflict (s earlier : Switch)
  | unrecognized (arguments : List String)
deriving DecidableEq, Repr

/-- The message of an error. -/
def UsageError.message : UsageError → String
  | .ambiguous argument candidates =>
    "ambiguous option: " ++ argument ++ " could match "
      ++ ", ".intercalate (candidates.map Switch.long)
  | .missingValue s => "argument " ++ s.label ++ ": expected one argument"
  | .unwantedValue s value =>
    "argument " ++ s.label ++ ": ignored explicit argument " ++ Text.quoted value
  | .invalidChoice s value =>
    "argument " ++ s.label ++ ": invalid choice: " ++ Text.quoted value ++ " (choose from "
      ++ ", ".intercalate (s.choices.map Text.quoted) ++ ")"
  | .conflict s earlier =>
    "argument " ++ s.label ++ ": not allowed with argument " ++ earlier.label
  | .unrecognized arguments => "unrecognized arguments: " ++ " ".intercalate arguments

/-! ## Arguments -/

/-- What an argument is. -/
inductive Argument where
  | plain (text : String)
  /-- The double hyphen behind which all arguments are plain. -/
  | separator
  | switch (s : Switch) (value : Option String)
  /-- The short switch, possibly with something attached to it. -/
  | short (attached : Option (List Char))
  | unknown (text : String)
deriving DecidableEq, Repr

namespace Argument

/-- Divides an argument at its first equals sign. -/
def splitValue (cs : List Char) : List Char × Option String :=
  match cs.dropWhile (· ≠ '=') with
  | [] => (cs, none)
  | _ :: value => (cs.takeWhile (· ≠ '='), some (String.ofList value))

/-- Whether the characters behind a minus make a number: digits, or a point with digits behind it.
A line feed may follow. -/
def isNumberTail (cs : List Char) : Bool :=
  let isDigit := fun c => (Text.digitValue? c).isSome
  let cs := if cs.getLast? = some '\n' then cs.dropLast else cs
  match cs.dropWhile isDigit with
  | [] => !cs.isEmpty
  | '.' :: fraction => !fraction.isEmpty && fraction.all isDigit
  | _ => false

/-- An argument that starts with a hyphen and is no switch. -/
def ofOther (cs : List Char) : Argument :=
  let text := String.ofList cs
  if isNumberTail (cs.drop 1) || cs.contains ' ' then .plain text else .unknown text

/-- An argument that starts with two hyphens: a switch by its spelling, else by an abbreviation. -/
def ofLong (cs : List Char) : Except UsageError Argument :=
  let text := String.ofList cs
  let (stem, value) := splitValue cs
  match Switch.all.find? fun s => s.long = text with
  | some s => .ok (.switch s none)
  | none => match Switch.all.find? fun s => s.long.toList = stem with
    | some s => .ok (.switch s value)
    | none => match Switch.all.filter fun s => stem.isPrefixOf s.long.toList with
      | [s] => .ok (.switch s value)
      | [] => .ok (ofOther cs)
      | candidates => .error (.ambiguous text candidates)

/-- What an argument before the double hyphen is. -/
def ofText (s : String) : Except UsageError Argument :=
  match s.toList with
  | '-' :: '-' :: rest => ofLong ('-' :: '-' :: rest)
  | ['-', 'h'] => .ok (.short none)
  | '-' :: 'h' :: '=' :: value => .ok (.short (some value))
  | '-' :: 'h' :: attached => .ok (.short (some attached))
  | '-' :: c :: rest => .ok (ofOther ('-' :: c :: rest))
  | _ => .ok (.plain s)

/-- What each argument is. -/
def ofTexts : List String → Except UsageError (List Argument)
  | [] => .ok []
  | s :: rest =>
    if s = "--" then .ok (.separator :: rest.map .plain)
    else do return (← ofText s) :: (← ofTexts rest)

end Argument
end Abacus.CommandLine
