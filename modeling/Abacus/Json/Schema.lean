import Abacus.Json.Literal

/-!
# Schemas

A schema tells by its keywords which JSON values are admitted. The keywords are those that documents
are checked with (specification §13), with their meaning in draft 7 of JSON Schema: each concerns
values of certain types and admits all others, and a keyword that is left out admits everything.

- `Json.Schema.violations`: everything in a value that a schema does not admit, with the place where
  it is.
- `Violation.foremost?`: the one that is reported.
- `Violation.message`: what is reported about it.
-/

namespace Abacus

namespace Json

/-! ## Types -/

/-- The types of values. -/
inductive Kind where
  | null
  | boolean
  | integer
  | string
  | array
  | object
deriving DecidableEq, Repr

namespace Kind

/-- The name of a type. -/
def name : Kind → String
  | .null => "null"
  | .boolean => "boolean"
  | .integer => "integer"
  | .string => "string"
  | .array => "array"
  | .object => "object"

/-- Whether a value is of a type. A number without a fraction is an integer, however it is
written. -/
def admits : Kind → Json → Bool
  | .null, .null => true
  | .boolean, .bool _ => true
  | .integer, .int _ => true
  | .integer, .float x => x.toInt?.isSome
  | .string, .string _ => true
  | .array, .array _ => true
  | .object, .object _ => true
  | _, _ => false

end Kind

/-- Whether a value is a number less than a bound. -/
def isBelow (bound : Int) : Json → Bool
  | .int n => n < bound
  | .float x => x.isBelow bound
  | _ => false

/-! ## Keywords -/

/-- A schema, keyword by keyword. -/
structure Schema where
  /-- The types that are admitted. -/
  type : Option (List Kind) := none
  /-- The values that are admitted, if they are all strings. -/
  enum : Option (List String) := none
  minimum : Option Int := none
  required : List String := []
  properties : List (String × Schema) := []
  /-- Whether an object may have members other than the properties. -/
  additionalProperties : Bool := true
  items : Option Schema := none

/-- What a keyword demands of a value itself, as opposed to the parts of it. -/
inductive Demand where
  | type (kinds : List Kind)
  | enum (texts : List String)
  | minimum (bound : Int)
  | required (key : String)
  /-- There are no members but the properties; these are the others. -/
  | noOthers (keys : List String)

/-- What is reported about a value that a demand is not met by. -/
def Demand.message (v : Json) : Demand → String
  | .type kinds =>
    v.literal ++ " is not of type " ++ ", ".intercalate (kinds.map fun k => Text.quoted k.name)
  | .enum texts =>
    v.literal ++ " is not one of [" ++ ", ".intercalate (texts.map Text.quoted) ++ "]"
  | .minimum bound => v.literal ++ " is less than the minimum of " ++ (Json.int bound).literal
  | .required key => Text.quoted key ++ " is a required property"
  | .noOthers keys =>
    "Additional properties are not allowed (" ++ ", ".intercalate (keys.map Text.quoted)
      ++ (if keys.length = 1 then " was" else " were") ++ " unexpected)"

namespace Schema

/-- The demand of a type. -/
def unmetType (s : Schema) (v : Json) : List Demand :=
  match s.type with
  | some kinds => if kinds.any (·.admits v) then [] else [.type kinds]
  | none => []

/-- The demand of one of several texts. -/
def unmetEnum (s : Schema) (v : Json) : List Demand :=
  match s.enum with
  | some texts => if (v.string?.map texts.contains).getD false then [] else [.enum texts]
  | none => []

/-- The demand of a smallest number. -/
def unmetMinimum (s : Schema) (v : Json) : List Demand :=
  match s.minimum with
  | some bound => if v.isBelow bound then [.minimum bound] else []
  | none => []

/-- The demands on the names of members: none may be missing, and none may be unknown if there are
to be no others. -/
def unmetKeys (s : Schema) : Json → List Demand
  | .object members =>
    let keys := members.map Prod.fst
    let others := keys.filter fun key => !(s.properties.map Prod.fst).contains key
    (s.required.filter fun key => !keys.contains key).map .required
      ++ (if s.additionalProperties || others.isEmpty then [] else [.noOthers others])
  | _ => []

/-- The demands of a schema that a value itself does not meet. -/
def unmet (s : Schema) (v : Json) : List Demand :=
  s.unmetType v ++ s.unmetEnum v ++ s.unmetMinimum v ++ s.unmetKeys v

end Schema
end Json

/-! ## Violations -/

/-- A part of a value that does not meet a demand, and the names and positions that lead to it. -/
structure Violation where
  value : Json
  demand : Json.Demand
  place : List Json

namespace Violation

/-- The message about a violation. -/
def message (v : Violation) : String :=
  v.demand.message v.value

/-- The way to a violation as a value. -/
def path (v : Violation) : Json :=
  .array v.place

/-- Whether a place comes before another of the same depth: names in the order of their characters,
positions by number. -/
def comesBefore : List Json → List Json → Bool
  | .string a :: as, .string b :: bs => a < b || (a = b && comesBefore as bs)
  | .int a :: as, .int b :: bs => a < b || (a = b && comesBefore as bs)
  | _, _ => false

/-- Whether a violation is reported rather than another: it lies less deep, or as deep and further
behind. -/
def outranks (v w : Violation) : Bool :=
  v.place.length < w.place.length ||
    (v.place.length = w.place.length && comesBefore w.place v.place)

/-- The violation that is reported. If none of two outranks the other, it is the earlier one. -/
def foremost? : List Violation → Option Violation
  | [] => none
  | v :: rest =>
    match foremost? rest with
    | none => some v
    | some w => if w.outranks v then some w else some v

end Violation

namespace Json

mutual

/-- The violations of a schema by a value, which stands at a place. First come those by the value
itself, then those by its members and items. -/
def Schema.violations : Schema → List Json → Json → List Violation
  | s@⟨_, _, _, _, properties, _, items⟩, place, v =>
    (s.unmet v).map (fun demand => ⟨v, demand, place⟩) ++ memberViolations properties place v
      ++ itemViolations items place v

/-- The violations by those members of a value that have a schema. -/
def memberViolations : List (String × Schema) → List Json → Json → List Violation
  | [], _, _ => []
  | (key, t) :: properties, place, v =>
    (match v.get? key with
      | some part => t.violations (place ++ [.string key]) part
      | none => []) ++ memberViolations properties place v

/-- The violations by the items of a value, if these have a schema. -/
def itemViolations : Option Schema → List Json → Json → List Violation
  | some t, place, .array parts =>
    (parts.zipIdx.map fun (part, i) => t.violations (place ++ [.int i]) part).flatten
  | _, _, _ => []

end

end Json
end Abacus
