import Abacus.CommandLine.Switch

/-!
# Invocations

What the command line asks for (specification §14). The arguments are read in order. The last of
repeated switches counts, and only one way of output can be asked for. A double hyphen as the value
of a switch stands for no value: it asks for no notation, and for results in no format. Plain
arguments are expressions as long as they follow each other; those that come later are not
recognized.
-/

namespace Abacus.CommandLine

/-- A way of output that is asked for. -/
inductive Mode where
  /-- Bare results: a double hyphen stands in place of the format. -/
  | results
  | plans
  | document (format : Format)
  | serve
deriving DecidableEq, Repr

/-- The switch that asks for a way of output. -/
def Mode.switch : Mode → Switch
  | .results => .format
  | .plans => .parse
  | .document _ => .format
  | .serve => .serve

/-- The notation that is asked for. -/
inductive FormChoice where
  /-- That of the settings. -/
  | configured
  | named (form : Notation)
  /-- A double hyphen stands in place of the name. -/
  | none
deriving DecidableEq, Repr

/-- What the command line asks for. -/
structure Invocation where
  form : FormChoice
  mode : Option Mode
  expressions : List String
deriving DecidableEq, Repr

/-- What reading the arguments ends with if not with an invocation. -/
inductive Stop where
  | help
  | wrongUsage (e : UsageError)
deriving DecidableEq, Repr

/-- Whether the plain arguments that are expressions are still to come, are being read, or have been
followed by a switch. -/
inductive Phase where
  | ahead
  | reading
  | done
deriving DecidableEq, Repr

/-- What has been read so far. -/
structure Progress where
  form : FormChoice
  mode : Option Mode
  phase : Phase
  /-- The plain arguments of the first group, with the double hyphen if it is among them. -/
  group : List String
  /-- The arguments that were not recognized. -/
  extras : List String

namespace Progress

/-- Nothing has been read. -/
def start : Progress :=
  { form := .configured, mode := none, phase := .ahead, group := [], extras := [] }

/-- Reads a plain argument. -/
def addPlain (p : Progress) (text : String) : Progress :=
  match p.phase with
  | .done => { p with extras := p.extras ++ [text] }
  | .ahead | .reading => { p with phase := .reading, group := p.group ++ [text] }

/-- Ends a group of plain arguments, where there is one. -/
def endGroup (p : Progress) : Progress :=
  if p.phase = .reading then { p with phase := .done } else p

/-- Asks for a way of output. -/
def choose (p : Progress) (mode : Mode) : Except Stop Progress :=
  match p.mode with
  | some earlier =>
    if earlier.switch = mode.switch then .ok { p with mode := some mode }
    else .error (.wrongUsage (.conflict mode.switch earlier.switch))
  | none => .ok { p with mode := some mode }

/-- Reads a switch that has no value. -/
def addFlag (p : Progress) : Switch → Except Stop Progress
  | .parse => p.choose .plans
  | .serve => p.choose .serve
  | .help => .error .help
  | .form => .ok p
  | .format => .ok p

/-- Reads a switch with its value. -/
def addValue (p : Progress) (s : Switch) (value : String) : Except Stop Progress :=
  match s, Notation.ofName? value, Format.ofKey? value with
  | .form, some form, _ => .ok { p with form := .named form }
  | .format, _, some format => p.choose (.document format)
  | .form, none, _ =>
    if value = "--" then .ok { p with form := .none }
    else .error (.wrongUsage (.invalidChoice s value))
  | .format, _, none =>
    if value = "--" then p.choose .results
    else .error (.wrongUsage (.invalidChoice s value))
  | _, _, _ => .error (.wrongUsage (.invalidChoice s value))

/-- What the short switch stops with, which asks for help. What is attached to it may only repeat
it. -/
def shortStop : List Char → Stop
  | ['h'] => .help
  | 'h' :: rest => shortStop rest
  | attached => .wrongUsage (.unwantedValue .help (String.ofList attached))

/-- Reads arguments. -/
def addAll (p : Progress) : List Argument → Except Stop Progress
  | [] => .ok p
  | .plain text :: rest => addAll (p.addPlain text) rest
  | .separator :: rest => addAll (p.addPlain "--") rest
  | .unknown text :: rest =>
    addAll { p.endGroup with extras := p.extras ++ [text] } rest
  | .short none :: _ => .error .help
  | .short (some attached) :: _ => .error (shortStop attached)
  | .switch s (some value) :: rest =>
    if s.takesValue then do addAll (← p.endGroup.addValue s value) rest
    else .error (.wrongUsage (.unwantedValue s value))
  | .switch s none :: rest =>
    if s.takesValue then
      match rest with
      | .plain value :: rest => do addAll (← p.endGroup.addValue s value) rest
      | _ => .error (.wrongUsage (.missingValue s))
    else do addAll (← p.endGroup.addFlag s) rest

/-- The invocation that was read: the double hyphen is no expression, and nothing may be left
over. -/
def finish (p : Progress) : Except Stop Invocation :=
  if p.extras.isEmpty then
    .ok { form := p.form, mode := p.mode, expressions := p.group.erase "--" }
  else .error (.wrongUsage (.unrecognized p.extras))

end Progress

/-- Reads the arguments of the command line. -/
def Invocation.ofArguments (texts : List String) : Except Stop Invocation := do
  let arguments ← (Argument.ofTexts texts).mapError .wrongUsage
  (← Progress.start.addAll arguments).finish

end Abacus.CommandLine
