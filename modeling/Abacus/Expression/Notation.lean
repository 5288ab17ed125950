/-!
# Notations

The two ways in which an expression can be written, and their names (specification §6). A name that
neither has is an error of its own and not one of the expression (§7).
-/

namespace Abacus

/-- How an expression is written. -/
inductive Notation where
  /-- Operators between their operands, with parentheses. -/
  | algebraic
  /-- Operators behind their operands. -/
  | reversePolish
deriving DecidableEq, Repr

/-- The ways in which a name does not tell a notation. -/
inductive NotationError where
  /-- A notation was asked for by a name that none has. -/
  | unknown (name : String)
  /-- The configured name is that of no notation. -/
  | misconfigured (name : String)
deriving DecidableEq, Repr

namespace Notation

/-- All notations, in the order in which they are listed. -/
def all : List Notation := [.algebraic, .reversePolish]

/-- The name of a notation. -/
def name : Notation → String
  | .algebraic => "infix"
  | .reversePolish => "postfix"

/-- The names of all notations. -/
def names : List String := all.map name

/-- The names of all notations as messages list them. -/
def listing : String := ", ".intercalate names

/-- The notation of a name. -/
def ofName? (s : String) : Option Notation :=
  all.find? fun form => form.name = s

theorem ofName?_name (form : Notation) : ofName? form.name = some form := by
  cases form <;> rfl

theorem ofName?_eq_none {s : String} (h : ∀ form : Notation, s ≠ form.name) : ofName? s = none := by
  rw [ofName?, List.find?_eq_none]
  intro form _
  simpa using (h form).symm

/-- The notation of a name that was asked for. -/
def ofName (s : String) : Except NotationError Notation :=
  match ofName? s with
  | some form => .ok form
  | none => .error (.unknown s)

end Notation

/-- The message of an error. -/
def NotationError.message : NotationError → String
  | .unknown name =>
    "No notation defined for '" ++ name ++ "'. Available: " ++ Notation.listing
  | .misconfigured name =>
    "ARITHMETIC_NOTATION must be one of " ++ Notation.listing ++ ", got '" ++ name ++ "'."

end Abacus
