import Abacus.Api.Service
import Abacus.Proofs.Outcome

/-!
# Requests that name no notation

A request without a notation is answered as if it named the default one, if there is one
(`respond_named`), and told that there is none otherwise (specification §15). The answer to a
request with a notation does not depend on the default (`respond_defaultName`). All three kinds of
requests that are about expressions are alike in this.

All of this is about bodies that are accepted (`Accepts`). A body that is refused never gets as far
as the default notation; it is answered by what is wrong with it. The web framework shows the
refused input with that, so that answer need not be the same for two bodies with the same issues.
-/

namespace Abacus.Api

/-- The members of a body that names a notation and is otherwise the same. Members that named one
before are taken out, although only the last one of a name counts. -/
def naming (form : Notation) (members : List (String × Json)) : List (String × Json) :=
  members.filter (fun member => member.1 ≠ "notation") ++ [("notation", .string form.name)]

/-- Whether a body is accepted at the path of an endpoint that is about expressions, and which
notation it names there, if any. A member that is `null` names none, like one that is left out. -/
inductive Accepts : String → Option Json → Option Notation → Prop
  | calculations {body : Option Json} {request : ExpressionRequest} {asked : Option Notation} :
      ExpressionRequest.ofBody body = .ok request → request.form = asked →
      Accepts "/calculations" body asked
  | parse {body : Option Json} {request : ExpressionRequest} {asked : Option Notation} :
      ExpressionRequest.ofBody body = .ok request → request.form = asked →
      Accepts "/parse" body asked
  | render {body : Option Json} {request : RenderRequest} {asked : Option Notation} :
      RenderRequest.ofBody body = .ok request → request.form = asked →
      Accepts "/render" body asked

variable {members : List (String × Json)} {form : Notation}

/-! ## Fields -/

/-- Members of another name do not matter to a lookup. -/
theorem lookup_filter_ne {key other : String} (h : key ≠ other) :
    (members.filter fun member => member.1 ≠ other).lookup key = members.lookup key := by
  induction members with
  | nil => rfl
  | cons member members ih =>
    obtain ⟨name, v⟩ := member
    by_cases hname : name = other
    · have hne : (key == name) = false := by
        rw [beq_eq_false_iff_ne, hname]
        exact h
      rw [List.filter_cons_of_neg (by simpa using hname), List.lookup_cons, hne]
      exact ih
    · rw [List.filter_cons_of_pos (by simpa using hname), List.lookup_cons, List.lookup_cons, ih]

/-- The other members stay as they are. -/
theorem get?_naming {key : String} (h : key ≠ "notation") (form : Notation)
    (members : List (String × Json)) :
    (Json.object (naming form members)).get? key = (Json.object members).get? key := by
  have hne : (key == "notation") = false := beq_eq_false_iff_ne.mpr h
  show (naming form members).reverse.lookup key = members.reverse.lookup key
  rw [naming, List.reverse_append, List.reverse_singleton, List.singleton_append, List.lookup_cons,
    hne, ← List.filter_reverse]
  exact lookup_filter_ne h

/-- The notation that is named is the one that is found, whatever the body said before. -/
theorem notationField_naming (form : Notation) (members : List (String × Json)) :
    notationField (.object (naming form members)) "notation" = .ok (some form) := by
  -- the name is put at the end, and the last member of a name counts
  have hget : (Json.object (naming form members)).get? "notation"
      = some (.string form.name) := by
    show (naming form members).reverse.lookup "notation" = _
    rw [naming, List.reverse_append]
    rfl
  rw [notationField, Json.getNonNull?, hget]
  cases form <;> rfl

theorem textField_naming {field : String} (h : field ≠ "notation") :
    textField (.object (naming form members)) field = textField (.object members) field := by
  rw [textField, textField, get?_naming h]

theorem textsField_naming {field : String} (h : field ≠ "notation") :
    textsField (.object (naming form members)) field = textsField (.object members) field := by
  rw [textsField, textsField, get?_naming h]

theorem textFieldOr_naming (default : String) {field : String} (h : field ≠ "notation") :
    textFieldOr default (.object (naming form members)) field
      = textFieldOr default (.object members) field := by
  rw [textFieldOr, textFieldOr, get?_naming h, textField_naming h]

/-! ## Bodies -/

/-- The body of a request about one expression is accepted if both of its fields are, and otherwise
told everything that is wrong with them. -/
theorem ExpressionRequest.ofBody_object (members : List (String × Json)) :
    ofBody (some (.object members))
      = match textField (.object members) "expression",
            notationField (.object members) "notation" with
        | .ok expression, .ok form => .ok { expression, form }
        | expression, form => .error (issues expression ++ issues form) := rfl

/-- The body of a request about several expressions is accepted if all of its three fields are. -/
theorem RenderRequest.ofBody_object (members : List (String × Json)) :
    ofBody (some (.object members))
      = match textsField (.object members) "values", notationField (.object members) "notation",
            textFieldOr "json" (.object members) "format" with
        | .ok values, .ok form, .ok format => .ok { values, form, format }
        | values, form, format => .error (issues values ++ issues form ++ issues format) := rfl

/-- An accepted body is also accepted with a notation named in it. -/
theorem ExpressionRequest.ofBody_naming {request : ExpressionRequest}
    (h : ofBody (some (.object members)) = .ok request) (form : Notation) :
    ofBody (some (.object (naming form members))) = .ok { request with form := some form } := by
  rw [ofBody_object] at h
  rw [ofBody_object, textField_naming (by decide), notationField_naming]
  -- only the case in which both fields are right is an accepted body
  cases hexpression : textField (.object members) "expression" <;>
    cases hform : notationField (.object members) "notation" <;>
    rw [hexpression, hform] at h <;> cases h
  rfl

/-- So is the body of a request about several expressions. -/
theorem RenderRequest.ofBody_naming {request : RenderRequest}
    (h : ofBody (some (.object members)) = .ok request) (form : Notation) :
    ofBody (some (.object (naming form members))) = .ok { request with form := some form } := by
  rw [ofBody_object] at h
  rw [ofBody_object, textsField_naming (by decide), notationField_naming,
    textFieldOr_naming "json" (by decide)]
  -- only the case in which all three fields are right is an accepted body
  cases hvalues : textsField (.object members) "values" <;>
    cases hform : notationField (.object members) "notation" <;>
    cases hformat : textFieldOr "json" (.object members) "format" <;>
    rw [hvalues, hform, hformat] at h <;> cases h
  rfl

/-! ## Requests -/

/-- The notation that a request is answered in, if there is one. -/
def resolve (settings : Settings) : Option Notation → Except NotationError Notation
  | some form => .ok form
  | none => settings.defaultForm

/-- The reply where the default notation is needed and there is none. -/
def misconfigured (e : NotationError) : Reply :=
  .detail 500 ("Server misconfigured: " ++ e.message) [misconfiguration e]

section
variable {settings other : Settings} {asked asked' : Option Notation}

/-- With a notation, the request is answered in it. -/
theorem withForm_of_ok (h : resolve settings asked = .ok form) (answer : Notation → Reply) :
    withForm settings asked answer = answer form := by
  cases asked with
  | some form' =>
    obtain rfl := Except.ok.inj h
    rfl
  | none =>
    have hdefault : settings.defaultForm = .ok form := h
    rw [withForm, hdefault]

/-- Without one, the reply tells that the server has no default. -/
theorem withForm_of_error {e : NotationError} (h : resolve settings asked = .error e)
    (answer : Notation → Reply) : withForm settings asked answer = misconfigured e := by
  cases asked with
  | some form' => cases h
  | none =>
    have hdefault : settings.defaultForm = .error e := h
    rw [withForm, hdefault]
    rfl

/-- What is answered depends on the settings through the notation only. -/
theorem withForm_congr (h : resolve settings asked = resolve other asked')
    (answer : Notation → Reply) :
    withForm settings asked answer = withForm other asked' answer := by
  cases hresolve : resolve settings asked with
  | ok form =>
    rw [withForm_of_ok hresolve, withForm_of_ok (h.symm.trans hresolve)]
  | error e =>
    rw [withForm_of_error hresolve, withForm_of_error (h.symm.trans hresolve)]

end

section
variable {settings other : Settings} {body body' : Option Json} {asked : Option Notation}

/-- Requests about the same expression are answered alike if they are answered in the same
notation. -/
theorem calculate_congr {request : ExpressionRequest}
    (hbody : ExpressionRequest.ofBody body = .ok request)
    (hbody' : ExpressionRequest.ofBody body' = .ok { request with form := asked })
    (h : resolve settings request.form = resolve other asked) :
    calculate settings body = calculate other body' := by
  rw [calculate, calculate, hbody, hbody']
  exact withForm_congr h _

theorem parse_congr {request : ExpressionRequest}
    (hbody : ExpressionRequest.ofBody body = .ok request)
    (hbody' : ExpressionRequest.ofBody body' = .ok { request with form := asked })
    (h : resolve settings request.form = resolve other asked) :
    parse settings body = parse other body' := by
  rw [parse, parse, hbody, hbody']
  exact withForm_congr h _

/-- Requests for the same document are answered alike if they are answered in the same notation and
with the same placeholder. -/
theorem render_congr {request : RenderRequest} (hbody : RenderRequest.ofBody body = .ok request)
    (hbody' : RenderRequest.ofBody body' = .ok { request with form := asked })
    (h : resolve settings request.form = resolve other asked)
    (hplaceholder : settings.placeholder = other.placeholder) :
    render settings body = render other body' := by
  -- an unknown format is told before the notation is looked for
  rw [render, render, hbody, hbody', hplaceholder]
  simp only
  cases Format.ofKey? request.format with
  | none => rfl
  | some format => exact withForm_congr h _

end

/-! ## Replies -/

variable {settings : Settings} {path : String}

/-- **A request without a notation** is one in the default notation: whatever is asked for at
whatever path, the reply is that to the same body with the notation named in it. The body has to be
one that the path accepts, so that both are. -/
theorem respond_named (hdefault : settings.defaultForm = .ok form)
    (h : Accepts path (some (.object members)) none) :
    respond settings "POST" path (some (.object members))
      = respond settings "POST" path (some (.object (naming form members))) := by
  have hresolve {asked : Option Notation} (hasked : asked = none) :
      resolve settings asked = resolve settings (some form) := by
    rw [hasked]
    exact hdefault
  cases h with
  | calculations hbody hform =>
    exact calculate_congr hbody (ExpressionRequest.ofBody_naming hbody form) (hresolve hform)
  | parse hbody hform =>
    exact parse_congr hbody (ExpressionRequest.ofBody_naming hbody form) (hresolve hform)
  | render hbody hform =>
    exact render_congr hbody (RenderRequest.ofBody_naming hbody form) (hresolve hform) rfl

/-- **A request with a notation** does not depend on the default one: settings that differ in its
name only give the same reply. -/
theorem respond_defaultName {body : Option Json} (h : Accepts path body (some form))
    (name : String) :
    respond { settings with defaultName := name } "POST" path body
      = respond settings "POST" path body := by
  have hresolve {asked : Option Notation} (hasked : asked = some form) :
      resolve { settings with defaultName := name } asked = resolve settings asked := by
    rw [hasked]
    rfl
  cases h with
  | calculations hbody hform => exact calculate_congr hbody hbody (hresolve hform)
  | parse hbody hform => exact parse_congr hbody hbody (hresolve hform)
  | render hbody hform => exact render_congr hbody hbody (hresolve hform) rfl

section
variable {body : Option Json} {e : NotationError} (hdefault : settings.defaultForm = .error e)
include hdefault

theorem resolve_of_none {asked : Option Notation} (h : asked = none) :
    resolve settings asked = .error e := by
  rw [h]
  exact hdefault

/-- A request for a result that names no notation is told that there is no default. -/
theorem calculate_misconfigured {request : ExpressionRequest}
    (hbody : ExpressionRequest.ofBody body = .ok request) (hform : request.form = none) :
    calculate settings body = misconfigured e := by
  rw [calculate, hbody]
  exact withForm_of_error (resolve_of_none hdefault hform) _

theorem parse_misconfigured {request : ExpressionRequest}
    (hbody : ExpressionRequest.ofBody body = .ok request) (hform : request.form = none) :
    parse settings body = misconfigured e := by
  rw [parse, hbody]
  exact withForm_of_error (resolve_of_none hdefault hform) _

/-- Without a notation, a request for a document is told that there is no default, if the format is
a known one. An unknown format is told first. -/
theorem render_misconfigured {request : RenderRequest}
    (hbody : RenderRequest.ofBody body = .ok request) (hform : request.form = none)
    {format : Format} (hformat : Format.ofKey? request.format = some format) :
    render settings body = misconfigured e := by
  rw [render, hbody]
  simp only [hformat]
  exact withForm_of_error (resolve_of_none hdefault hform) _

end

end Abacus.Api
