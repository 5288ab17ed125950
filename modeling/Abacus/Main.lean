import Abacus.CommandLine.Run

/-!
# The command

Reads the arguments, the environment and, where expressions are to come from it, the input, and
prints the outcome of the run (specification §14).
-/

namespace Abacus

/-- The environment variables that are settings. -/
def settingNames : List String :=
  ["ARITHMETIC_NOTATION", "ARITHMETIC_PLACEHOLDER", "ARITHMETIC_LOG_LEVEL", "ARITHMETIC_API_HOST",
   "ARITHMETIC_API_PORT"]

/-- The values of the environment variables that are settings. -/
def readEnvironment : IO Settings.Environment := do
  let values ← settingNames.filterMapM fun name => do
    return (← IO.getEnv name).map fun value => (name, value)
  return fun name => values.lookup name

/-- What is printed about a run that was stopped. -/
def CommandLine.Breakdown.text : CommandLine.Breakdown → String
  | .numeral e => e.message
  | .violation v => v.message
  | .unknownLevel name => "Unknown level: " ++ Text.quoted name
  | .description e => e.message

/-- Prints an outcome and gives the exit status. -/
def report (outcome : CommandLine.Outcome) : IO UInt32 := do
  IO.print outcome.out
  IO.eprint outcome.err
  match outcome.ending with
  | .exit status => return status.toUInt32
  | .serve host port =>
    IO.println (host ++ ":" ++ String.ofList (Number.integerChars port))
    return 0
  | .breakdown b =>
    IO.eprintln b.text
    return 1

end Abacus

/-- Runs the command. -/
def main (arguments : List String) : IO UInt32 := do
  match Abacus.Settings.ofEnvironment (← Abacus.readEnvironment) with
  | .error e =>
    IO.eprintln e.message
    return 1
  | .ok settings =>
    let needsInput : Bool := match Abacus.CommandLine.Invocation.ofArguments arguments with
      | .ok i => i.expressions.isEmpty && i.mode ≠ some .serve
      | .error _ => false
    let input ← if needsInput then (← IO.getStdin).readToEnd else pure ""
    Abacus.report (Abacus.CommandLine.run settings arguments input)
