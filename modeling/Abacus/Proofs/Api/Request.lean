import Abacus.Api.Request

/-!
# Writing request bodies

The bodies that ask for what a request says: each is read as the request that it was written for
(`ExpressionRequest.ofBody_toJson`, `RenderRequest.ofBody_toJson`). A notation that is not asked for
is left out, as the specification (§15) allows; the format is always given.
-/

namespace Abacus.Api

/-- The member that names a notation, if one is asked for. -/
def formMembers : Option Notation → List (String × Json)
  | none => []
  | some form => [("notation", .string form.name)]

/-- The body of a request about one expression. -/
def ExpressionRequest.toJson (request : ExpressionRequest) : Json :=
  .object (("expression", .string request.expression) :: formMembers request.form)

/-- The body of a request for a document. -/
def RenderRequest.toJson (request : RenderRequest) : Json :=
  .object (("values", .ofStrings request.values) :: ("format", .string request.format)
    :: formMembers request.form)

/-- **A request about one expression** is read from its body. -/
theorem ExpressionRequest.ofBody_toJson (request : ExpressionRequest) :
    ExpressionRequest.ofBody (some request.toJson) = .ok request := by
  obtain ⟨expression, form⟩ := request
  rcases form with _ | _ | _ <;> rfl

theorem textsAt_map_string (field : String) (position : Nat) (texts : List String) :
    textsAt field position (texts.map .string) = .ok texts := by
  induction texts generalizing position with
  | nil => rfl
  | cons s texts ih =>
    rw [List.map_cons, textsAt, ih]
    rfl

/-- **A request for a document** is read from its body. -/
theorem RenderRequest.ofBody_toJson (request : RenderRequest) :
    RenderRequest.ofBody (some request.toJson) = .ok request := by
  obtain ⟨values, form, format⟩ := request
  have hvalues : textsField (toJson ⟨values, form, format⟩) "values" = .ok values := by
    have hget : (toJson ⟨values, form, format⟩).get? "values" = some (.ofStrings values) := by
      cases form <;> rfl
    rw [textsField, hget]
    exact textsAt_map_string "values" 0 values
  have hform : notationField (toJson ⟨values, form, format⟩) "notation" = .ok form := by
    rcases form with _ | _ | _ <;> rfl
  have hformat : textFieldOr "json" (toJson ⟨values, form, format⟩) "format" = .ok format := by
    cases form <;> rfl
  have hbody : objectBody (some (toJson ⟨values, form, format⟩))
      = .ok (toJson ⟨values, form, format⟩) := rfl
  simp only [ofBody, hbody, bind, Except.bind, hvalues, hform, hformat]

end Abacus.Api
