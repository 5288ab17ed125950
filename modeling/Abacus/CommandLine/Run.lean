import Abacus.CommandLine.Help
import Abacus.CommandLine.Invocation
import Abacus.Text.Lines

/-!
# Runs of the command

A run of the command (specification §14) reads its expressions from the command line, or from the
lines of the input if there are none, and prints a result, a plan or a document. It is a function
from settings, arguments and input to what is printed and how the run ends: with status 0 if nothing
was wrong with any expression, with 1 otherwise, and with 2 if the command was used wrongly.
-/

namespace Abacus.CommandLine

/-- What stops a run in the middle. -/
inductive Breakdown where
  | numeral (e : NumeralError)
  | violation (v : Violation)
  /-- No log level has the configured name. -/
  | unknownLevel (name : String)
  /-- The help cannot be written. -/
  | description (e : TemplateError)

/-- How a run ends. -/
inductive Ending where
  | exit (status : Nat)
  /-- The service is to be run on a host and a port. -/
  | serve (host : String) (port : Int)
  | breakdown (b : Breakdown)

/-- What a run prints on its two outputs, and how it ends. -/
structure Outcome where
  out : String
  err : String
  ending : Ending

namespace Outcome

/-- An outcome that prints nothing. -/
def silent (ending : Ending) : Outcome :=
  { out := "", err := "", ending }

/-- An outcome before which something else is printed. -/
def after (out err : String) (o : Outcome) : Outcome :=
  { o with out := out ++ o.out, err := err ++ o.err }

end Outcome

/-- The lines of the log records that the threshold lets pass. -/
def logText (threshold : Nat) (log : List LogRecord) : String :=
  String.join ((log.filter fun r => threshold ≤ r.level.rank).map fun r => r.line ++ "\n")

/-- The record of an expression that something is wrong with. -/
def failureRecord (expression : String) : LogRecord :=
  { level := .debug, logger := "arithmetic.cli",
    message := "Failed expression " ++ Text.quoted expression }

/-- Prints what `answer` gives for each expression. `status` is the one to end with if nothing is
wrong with the expressions to come. -/
def runEach (threshold : Nat) (answer : String → Except Failure String) (status : Nat) :
    List String → Outcome
  | [] => .silent (.exit status)
  | expression :: rest =>
    match answer expression with
    | .ok text => (runEach threshold answer status rest).after (text ++ "\n") ""
    | .error (.expression e) =>
      (runEach threshold answer 1 rest).after ""
        (logText threshold [failureRecord expression] ++ "Error: " ++ e.message ++ "\n")
    | .error (.numeral e) => .silent (.breakdown (.numeral e))

/-- A document ends with a line feed, unless it is empty. -/
def closeLine (content : String) : String :=
  if content.isEmpty || content.toList.getLast? = some '\n' then content else content ++ "\n"

/-- Prints the document of the rendered expressions. -/
def runDocument (threshold : Nat) (format : Format) (rendering : Rendering) : Outcome :=
  let err := logText threshold rendering.log
  match rendering.stopped with
  | some e => { out := "", err, ending := .breakdown (.numeral e) }
  | none => match format.document (rendering.values.map Entry.ofValue) with
    | .error v => { out := "", err, ending := .breakdown (.violation v) }
    | .ok d =>
      let status := if rendering.values.all RenderedValue.ok then 0 else 1
      { out := closeLine d.content, err, ending := .exit status }

/-- Runs an invocation on expressions that are read in the given notation. -/
def runMode (settings : Settings) (threshold : Nat) (form : Notation) (mode : Option Mode)
    (expressions : List String) : Outcome :=
  let operators := Operators.basic
  match mode with
  | none | some .results => runEach threshold (operators.calculate form) 0 expressions
  | some .plans =>
    let plan := fun expression =>
      ((operators.parse form expression).map Plan.text).mapError Failure.expression
    runEach threshold plan 0 expressions
  | some (.document format) =>
    let renderer : Renderer := { operators, form, placeholder := settings.placeholder }
    runDocument threshold format (renderer.renderAll expressions)
  | some .serve => .silent (.serve settings.host settings.port)

/-- What is printed where the notation to read in is none. -/
def unknownNotation (name : String) : String :=
  "Error: Unknown notation '" ++ name ++ "'. Available: " ++ Notation.listing ++ "\n"

/-- The notation that is asked for, or else the name that is shown for what is none. -/
def formOf (settings : Settings) : FormChoice → Except String Notation
  | .configured => match Notation.ofName? settings.defaultName with
    | some form => .ok form
    | none => .error settings.defaultName
  | .named form => .ok form
  | .none => .error "[]"

/-- Runs an invocation. -/
def runInvocation (settings : Settings) (threshold : Nat) (input : String) (i : Invocation) :
    Outcome :=
  match formOf settings i.form with
  | .error name => { out := "", err := unknownNotation name, ending := .exit 2 }
  | .ok form =>
    let expressions := if i.expressions.isEmpty then Text.filledLines input else i.expressions
    runMode settings threshold form i.mode expressions

/-- Runs the command. -/
def run (settings : Settings) (arguments : List String) (input : String) : Outcome :=
  match LogLevel.threshold? settings.logLevel with
  | none => .silent (.breakdown (.unknownLevel settings.logLevel))
  | some threshold => match Invocation.ofArguments arguments with
    | .error .help => match help settings with
      | .error e => .silent (.breakdown (.description e))
      | .ok text => { out := text, err := "", ending := .exit 0 }
    | .error (.wrongUsage e) => { out := "", err := usageMessage e, ending := .exit 2 }
    | .ok i => runInvocation settings threshold input i

end Abacus.CommandLine
