/-!
# Log records

What is reported beside the answers (specification §11). A record has a level, and a threshold keeps
the records below it from being shown.
-/

namespace Abacus

/-- How important a record is. -/
inductive LogLevel where
  | debug
  | info
  | warning
  | error
  | critical
deriving DecidableEq, Repr

namespace LogLevel

/-- The name of a level. -/
def name : LogLevel → String
  | .debug => "DEBUG"
  | .info => "INFO"
  | .warning => "WARNING"
  | .error => "ERROR"
  | .critical => "CRITICAL"

/-- The rank of a level: a record is shown if its rank is that of the threshold or above. -/
def rank : LogLevel → Nat
  | .debug => 10
  | .info => 20
  | .warning => 30
  | .error => 40
  | .critical => 50

/-- The rank that a name sets as the threshold. Two levels have a second name, and there is a name
for a threshold below all levels. -/
def threshold? (s : String) : Option Nat :=
  if s = "NOTSET" then some 0
  else if s = "WARN" then some warning.rank
  else if s = "FATAL" then some critical.rank
  else ([debug, info, warning, error, critical].find? fun level => level.name = s).map rank

end LogLevel

/-- A log record: its level, who reports it, and what. -/
structure LogRecord where
  level : LogLevel
  logger : String
  message : String
deriving DecidableEq, Repr

/-- A record as a line, without the end of the line. -/
def LogRecord.line (r : LogRecord) : String :=
  r.level.name ++ " " ++ r.logger ++ ": " ++ r.message

end Abacus
