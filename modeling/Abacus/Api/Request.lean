import Abacus.Expression.Notation
import Abacus.Json.Basic

/-!
# Request bodies

The bodies that the service accepts and what is wrong with any other (specification §15). All fields
of a body are checked, and the issues come in the order of the fields. Fields that are not known are
ignored. A body is a JSON value here; a text that is none never gets as far as these checks.

- `ExpressionRequest.ofBody`: requests to calculate or parse an expression.
- `RenderRequest.ofBody`: requests to render expressions.
- `Issue`: what is told about a body that is refused.
-/

namespace Abacus.Api

/-! ## Issues -/

/-- What can be wrong with a body or one of its fields. -/
inductive IssueKind where
  | missing
  | notText
  | notList
  | notNotation
  | notObject
deriving DecidableEq, Repr

namespace IssueKind

/-- The name of a kind. -/
def name : IssueKind → String
  | .missing => "missing"
  | .notText => "string_type"
  | .notList => "list_type"
  | .notNotation => "enum"
  | .notObject => "model_attributes_type"

/-- What should have been there. -/
def message : IssueKind → String
  | .missing => "Field required"
  | .notText => "Input should be a valid string"
  | .notList => "Input should be a valid list"
  | .notNotation =>
    "Input should be " ++ " or ".intercalate (Notation.names.map fun n => "'" ++ n ++ "'")
  | .notObject => "Input should be a valid dictionary or object to extract fields from"

end IssueKind

/-- An issue and where in the body it is: the names and positions that lead to it. -/
structure Issue where
  kind : IssueKind
  path : List Json

/-- An issue as an object. The web framework adds the refused input to it, and for a notation also
the names that it expected. These are left out, so that only what is said here is known about the
answer to a body that is refused: which issues it tells and where. -/
def Issue.toJson (i : Issue) : Json :=
  .object
    [("type", .string i.kind.name), ("loc", .array (.string "body" :: i.path)),
     ("msg", .string i.kind.message)]

/-- A value that was read, or the issues that were found instead. -/
abbrev Checked := Except (List Issue)

/-- The issues of a check. -/
def issues {α : Type} : Checked α → List Issue
  | .ok _ => []
  | .error found => found

/-! ## Fields -/

/-- A single issue at a field. -/
def issueAt {α : Type} (kind : IssueKind) (field : String) : Checked α :=
  .error [⟨kind, [.string field]⟩]

/-- A text. -/
def textField (body : Json) (field : String) : Checked String :=
  match body.get? field with
  | none => issueAt .missing field
  | some (.string s) => .ok s
  | some _ => issueAt .notText field

/-- A text that may be left out. -/
def textFieldOr (default : String) (body : Json) (field : String) : Checked String :=
  match body.get? field with
  | none => .ok default
  | some _ => textField body field

/-- The texts of a list; each item that is none is an issue. -/
def textsAt (field : String) (position : Nat) : List Json → Checked (List String)
  | [] => .ok []
  | item :: items =>
    let rest := textsAt field (position + 1) items
    match item with
    | .string s => rest.map (s :: ·)
    | _ => .error (⟨.notText, [.string field, .int position]⟩ :: issues rest)

/-- A list of texts. -/
def textsField (body : Json) (field : String) : Checked (List String) :=
  match body.get? field with
  | none => issueAt .missing field
  | some (.array items) => textsAt field 0 items
  | some _ => issueAt .notList field

/-- A notation that may be left out or be `null`. -/
def notationField (body : Json) (field : String) : Checked (Option Notation) :=
  match body.getNonNull? field with
  | none => .ok none
  | some v => match v.string?.bind Notation.ofName? with
    | some form => .ok (some form)
    | none => issueAt .notNotation field

/-! ## Bodies -/

/-- A body that must be an object. -/
def objectBody : Option Json → Checked Json
  | none => .error [⟨.missing, []⟩]
  | some (.object members) => .ok (.object members)
  | some _ => .error [⟨.notObject, []⟩]

/-- A single expression. -/
structure ExpressionRequest where
  expression : String
  form : Option Notation
deriving DecidableEq, Repr

/-- Reads a request about one expression. -/
def ExpressionRequest.ofBody (body : Option Json) : Checked ExpressionRequest := do
  let body ← objectBody body
  match textField body "expression", notationField body "notation" with
  | .ok expression, .ok form => .ok { expression, form }
  | expression, form => .error (issues expression ++ issues form)

/-- Expressions to be rendered as a document. -/
structure RenderRequest where
  values : List String
  form : Option Notation
  format : String
deriving DecidableEq, Repr

/-- Reads a request for a document. -/
def RenderRequest.ofBody (body : Option Json) : Checked RenderRequest := do
  let body ← objectBody body
  match textsField body "values", notationField body "notation",
    textFieldOr "json" body "format" with
  | .ok values, .ok form, .ok format => .ok { values, form, format }
  | values, form, format => .error (issues values ++ issues form ++ issues format)

end Abacus.Api
