import Abacus.Expression.Notation
import Abacus.Number.Text
import Abacus.Text.LetterCase

/-!
# Settings

What the environment configures (specification §10). The default notation is kept by its name, which
is only looked up where the default is needed, so that a wrong one does no harm to calls that name
their notation.
-/

namespace Abacus

/-- The settings that all surfaces share. -/
structure Settings where
  /-- The name of the default notation, without blanks around it and in small letters. -/
  defaultName : String
  /-- What is shown in place of a result that failed. -/
  placeholder : String
  /-- The name of the level from which log records are shown, in capitals. -/
  logLevel : String
  /-- The host and the port that requests are served on. -/
  host : String
  port : Int
deriving DecidableEq, Repr

namespace Settings

/-- The values of environment variables. -/
abbrev Environment := String → Option String

/-- The settings of an environment, with a default for each variable that is not set. A port that is
not an integer makes them unusable. -/
def ofEnvironment (env : Environment) : Except NumeralError Settings := do
  let port ← Number.integerOfSetting ((env "ARITHMETIC_API_PORT").getD "8000")
  return {
    defaultName := Text.lower (Text.strip ((env "ARITHMETIC_NOTATION").getD "infix"))
    placeholder := (env "ARITHMETIC_PLACEHOLDER").getD "Malformed expression."
    logLevel := Text.upper ((env "ARITHMETIC_LOG_LEVEL").getD "WARNING")
    host := (env "ARITHMETIC_API_HOST").getD "127.0.0.1"
    port }

/-- The default notation: `load_default_notation` of the specification. -/
def defaultForm (settings : Settings) : Except NotationError Notation :=
  match Notation.ofName? settings.defaultName with
  | some form => .ok form
  | none => .error (.misconfigured settings.defaultName)

end Settings
end Abacus
