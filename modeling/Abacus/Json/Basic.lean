import Abacus.Binary64.Text

/-!
# JSON values

The values that requests and documents are made of (specification §13, §15). Whole numbers and
numbers with a fraction or an exponent are told apart, and the members of an object keep their
order. A text may name a member more than once; the value keeps all of them, and `Json.get?` finds
the last.
-/

namespace Abacus

/-- A JSON value. -/
inductive Json where
  | null
  | bool (value : Bool)
  | int (value : Int)
  | float (value : Binary64)
  | string (value : String)
  | array (items : List Json)
  | object (members : List (String × Json))
deriving Repr

namespace Json

/-- The value of a member of an object: of the last one, if several have the name. -/
def get? (key : String) : Json → Option Json
  | .object members => members.reverse.lookup key
  | _ => none

/-- The value of a member, where `null` counts as absent. -/
def getNonNull? (key : String) (v : Json) : Option Json :=
  match v.get? key with
  | some .null => none
  | other => other

/-- The text of a string value. -/
def string? : Json → Option String
  | .string s => some s
  | _ => none

/-- The number of a whole number value. -/
def int? : Json → Option Int
  | .int n => some n
  | _ => none

/-- The items of an array value. -/
def array? : Json → Option (List Json)
  | .array items => some items
  | _ => none

/-- An array of strings. -/
def ofStrings (texts : List String) : Json :=
  .array (texts.map .string)

/-- A string value, or `null` for an absent one. -/
def ofString? : Option String → Json
  | some s => .string s
  | none => .null

end Json
end Abacus
