import Abacus.Api.Service
import Abacus.Proofs.Api.Request
import Abacus.Proofs.Expression.Calculation
import Abacus.Proofs.Results.Rendering
import Abacus.Proofs.Results.Report

/-!
# Answers for one expression and for many

The service gives the value of one expression, or a document of the values of many (specification
§15). Both answers agree expression by expression (`rendering_agrees`): an entry of the document has
a result where the single answer has one, and an error where the single answer is a rejection.

- `gives_calculation_iff`, `rejects_calculation_iff`: what the reply for one expression tells of its
  value.
- `renderer_cases`: what the document is written of.
- `Agrees.of_render`: the value that an entry was written for says by its error alone, whatever the
  placeholder is, whether the expression has a value.
- `respond_render`: the body that asks for the document is accepted, so the renderer answers.

Neither answer is defined by the other. Both come down to `Operators.calculate`, of which the reply
for one expression is a table (`calculation_eq`) and the rendered value another one; the document is
then decoded, as a client does it. All expressions have to be settled: where one is not, the batch
has no document, and the single expression has no answer either.
-/

namespace Abacus.Api

/-! ## Replies -/

namespace Reply

/-- A reply that gives a result: its status is 200 and its body has the result as a member. -/
def Gives (reply : Reply) (result : String) : Prop :=
  reply.status = 200 ∧ ∃ v, reply.content = .json v ∧ v.get? "result" = some (.string result)

/-- A reply that tells what is wrong with an expression: its status is 422 and its body has the
message as a member, not in a list as the issues of a body are. -/
def Rejects (reply : Reply) (message : String) : Prop :=
  reply.status = 422 ∧ ∃ v, reply.content = .json v ∧ v.get? "detail" = some (.string message)

end Reply

/-- The reply to a request for the value of an expression. -/
def calculation (settings : Settings) (form : Notation) (expression : String) : Reply :=
  respond settings "POST" "/calculations" (some (ExpressionRequest.toJson ⟨expression, some form⟩))

/-- The reply to a request for the JSON document of some expressions. -/
def rendering (settings : Settings) (form : Notation) (expressions : List String) : Reply :=
  respond settings "POST" "/render" (some (RenderRequest.toJson ⟨expressions, some form, "json"⟩))

variable {settings : Settings} {form : Notation} {expression : String}

/-- The three outcomes of a calculation and what is replied to each. -/
theorem calculation_eq (settings : Settings) (form : Notation) (expression : String) :
    calculation settings form expression = match operators.calculate form expression with
      | .ok result => .json 200 (.object
          [("expression", .string expression), ("notation", .string form.name),
           ("result", .string result)]) []
      | .error (.expression e) => rejected e
      | .error (.numeral e) => .broken (.numeral e) [] := by
  show calculate settings (some (ExpressionRequest.toJson ⟨expression, some form⟩)) = _
  rw [calculate, ExpressionRequest.ofBody_toJson]
  rfl

/-- A result is given if the expression has that value, and only then. -/
theorem gives_calculation_iff {result : String} :
    (calculation settings form expression).Gives result
      ↔ operators.calculate form expression = .ok result := by
  rw [calculation_eq]
  cases operators.calculate form expression with
  | ok text =>
    constructor
    · rintro ⟨-, v, hv, hresult⟩
      cases hv
      cases hresult
      rfl
    · intro h
      cases h
      exact ⟨rfl, _, rfl, rfl⟩
  | error failure =>
    constructor
    · rintro ⟨hstatus, -⟩
      cases failure <;> cases hstatus
    · intro h
      cases h

/-- The reply is a rejection if something is wrong with the expression, and only then. -/
theorem rejects_calculation_iff {message : String} :
    (calculation settings form expression).Rejects message
      ↔ ∃ err, operators.calculate form expression = .error (.expression err) ∧
          err.message = message := by
  rw [calculation_eq]
  cases operators.calculate form expression with
  | ok text =>
    constructor
    · rintro ⟨hstatus, -⟩
      cases hstatus
    · rintro ⟨err, h, -⟩
      cases h
  | error failure =>
    cases failure with
    | expression err =>
      constructor
      · rintro ⟨-, v, hv, hdetail⟩
        cases hv
        cases hdetail
        exact ⟨err, rfl, rfl⟩
      · rintro ⟨err', h, rfl⟩
        cases h
        exact ⟨rfl, _, rfl, rfl⟩
    | numeral e =>
      constructor
      · rintro ⟨hstatus, -⟩
        cases hstatus
      · rintro ⟨err, h, -⟩
        cases h

theorem status_calculation_of_error {err : ExpressionError}
    (h : operators.calculate form expression = .error (.expression err)) :
    (calculation settings form expression).status = 422 :=
  (rejects_calculation_iff.mpr ⟨err, h, rfl⟩).1

theorem status_calculation_of_ok {result : String}
    (h : operators.calculate form expression = .ok result) :
    (calculation settings form expression).status = 200 :=
  (gives_calculation_iff.mpr h).1

/-! ## Agreement -/

/-- What a document reports of an expression agrees with the reply to a request for its value. There
is such a reply, with a result or with what is wrong; and each of the two is what the document
reports, word for word, with the placeholder in the place of a result that failed. -/
structure Agrees (settings : Settings) (form : Notation) (expression : String)
    (reported : Reported) : Prop where
  source_eq : reported.source = expression
  form_eq : reported.form = form.name
  answered : (∃ result, (calculation settings form expression).Gives result) ∨
    ∃ message, (calculation settings form expression).Rejects message
  gives_iff (result : String) :
    reported.ok = true ∧ reported.error = none ∧ reported.result = result
      ↔ (calculation settings form expression).Gives result
  rejects_iff (message : String) :
    reported.ok = false ∧ reported.error = some message ∧ reported.result = settings.placeholder
      ↔ (calculation settings form expression).Rejects message

/-- The renderer of the service. -/
def renderer (settings : Settings) (form : Notation) : Renderer :=
  { operators, form, placeholder := settings.placeholder }

/-- What the renderer gives for an expression, in terms of its value. -/
theorem renderer_cases {v : RenderedValue}
    (h : (renderer settings form).render expression = .ok v) :
    (∃ text, operators.calculate form expression = .ok text ∧
      v = { source := expression, result := text, form, error := none }) ∨
    ∃ err, operators.calculate form expression = .error (.expression err) ∧
      v = { source := expression, result := settings.placeholder, form,
            error := some err.message } :=
  Renderer.render_cases h

/-- **One entry agrees** with the reply for its expression. -/
theorem Agrees.of_render {v : RenderedValue}
    (h : (renderer settings form).render expression = .ok v) :
    Agrees settings form expression (Reported.ofValue v) := by
  rcases renderer_cases h with ⟨text, htext, rfl⟩ | ⟨err, herr, rfl⟩
  -- an expression with a value, which is not rejected
  · refine ⟨rfl, rfl, .inl ⟨text, gives_calculation_iff.mpr htext⟩, fun result => ?_,
      fun message => ?_⟩
    · rw [gives_calculation_iff, htext, Except.ok.injEq]
      exact ⟨fun h => h.2.2, fun h => ⟨rfl, rfl, h⟩⟩
    · rw [rejects_calculation_iff, htext]
      constructor
      · rintro ⟨hok, -⟩
        cases hok
      · rintro ⟨err, herr, -⟩
        cases herr
  -- a rejected expression, which gives no result even where the placeholder looks like one
  · refine ⟨rfl, rfl, .inr ⟨err.message, rejects_calculation_iff.mpr ⟨err, herr, rfl⟩⟩,
      fun result => ?_, fun message => ?_⟩
    · rw [gives_calculation_iff, herr]
      constructor
      · rintro ⟨hok, -⟩
        cases hok
      · intro hresult
        cases hresult
    · rw [rejects_calculation_iff, herr]
      constructor
      · rintro ⟨-, herror, -⟩
        exact ⟨err, rfl, Option.some.inj herror⟩
      · rintro ⟨err', herr', rfl⟩
        cases herr'
        exact ⟨rfl, rfl, rfl⟩

/-- The entries that failed are the expressions that are rejected. -/
theorem countP_rejected {expressions : List String} {values : List RenderedValue}
    (h : List.Forall₂ (fun e v => (renderer settings form).render e = .ok v) expressions values) :
    values.countP (fun v => !v.ok)
      = expressions.countP fun e => (calculation settings form e).status = 422 := by
  induction h with
  | nil => rfl
  | cons hv _ ih =>
    rw [List.countP_cons, List.countP_cons, ih]
    rcases renderer_cases hv with ⟨text, htext, rfl⟩ | ⟨err, herr, rfl⟩
    · rw [status_calculation_of_ok htext]
      rfl
    · rw [status_calculation_of_error herr]
      rfl

/-! ## Documents -/

/-- The record of an error that a document reports. -/
def errorRecord? (reported : Reported) : Option LogRecord :=
  reported.error.map fun message => { level := .error, logger := "arithmetic.render", message }

/-- The document that is asked for by the key of a format is that of the rendered expressions. -/
theorem respond_render (settings : Settings) (form : Notation) (format : Format)
    (expressions : List String) :
    respond settings "POST" "/render"
        (some (RenderRequest.toJson ⟨expressions, some form, format.key⟩))
      = renderDocument format ((renderer settings form).renderAll expressions) := by
  show render settings (some (RenderRequest.toJson ⟨expressions, some form, format.key⟩)) = _
  rw [render, RenderRequest.ofBody_toJson]
  cases format <;> rfl

/-- The reply to a request for the JSON document is that document of the rendered expressions. -/
theorem rendering_eq (settings : Settings) (form : Notation) (expressions : List String) :
    rendering settings form expressions
      = renderDocument .json ((renderer settings form).renderAll expressions) :=
  respond_render settings form .json expressions

/-- **One expression and many** (specification §15). If all expressions are settled, the document
that is asked for of them is given, and it agrees with the replies for the single expressions: entry
by entry in the result and in the detail of the error, and in the number of failures. The log
records the errors that the document reports. -/
theorem rendering_agrees (settings : Settings) (form : Notation) {expressions : List String}
    (h : ∀ e ∈ expressions, operators.IsSettled form e) :
    ∃ text report,
      (rendering settings form expressions).status = 200 ∧
      (rendering settings form expressions).contentType = "application/json" ∧
      (rendering settings form expressions).content = .text text ∧
      (rendering settings form expressions).breakdown = none ∧
      Report.ofText? text = some report ∧
      List.Forall₂ (Agrees settings form) expressions report.results ∧
      report.failed = expressions.countP (fun e => (calculation settings form e).status = 422) ∧
      (rendering settings form expressions).log = report.results.filterMap errorRecord? := by
  obtain ⟨hstopped, hvalues⟩ := (renderer settings form).forall₂_renderAll h
  obtain ⟨text, hcontent, hreport⟩ :=
    exists_content_json ((renderer settings form).renderAll expressions).values
  -- nothing stops the renderer, so the document is complete and can be read back
  have hreply := rendering_eq settings form expressions
  rw [renderDocument, hstopped] at hreply
  simp only [Format.document, hcontent, Except.map] at hreply
  have hread : Report.ofText? text
      = some (Report.ofValues ((renderer settings form).renderAll expressions).values) := by
    rw [← hreport "" (by simp), String.append_empty]
  have htype : (rendering settings form expressions).contentType = "application/json" := by
    have htext : ¬Format.json.mediaType.toList.take 5 = ['t', 'e', 'x', 't', '/'] := by decide
    rw [hreply]
    exact if_neg htext
  refine ⟨text, _, by rw [hreply]; rfl, htype, by rw [hreply]; rfl, by rw [hreply]; rfl, hread,
    ?_, ?_, ?_⟩
  · rw [Report.ofValues, List.forall₂_map_right_iff]
    exact hvalues.imp fun e v hv => Agrees.of_render hv
  · show ((List.countP _ _ : Nat) : Int) = _
    rw [countP_rejected hvalues]
  · rw [hreply, Report.ofValues, List.filterMap_map]
    rfl

/-- A batch in which the placeholder is the value of one expression and stands for that of the
other. -/
theorem rendering_agrees_placeholder :
    (∀ e ∈ ["5-5", "1/0"], operators.IsSettled .algebraic e) ∧
    ∃ report : Report,
      List.Forall₂ (Agrees ⟨"infix", "0", "WARNING", "127.0.0.1", 8000⟩ .algebraic)
        ["5-5", "1/0"] report.results ∧
      report.failed = 1 := by
  have hdifference : operators.calculate .algebraic "5-5" = .ok "0" :=
    Operators.calculate_eq_ok_iff.mpr
      ⟨⟨[.operand "5", .operand "5", .operator "-"]⟩, rfl, rfl⟩
  have hdivision :
      operators.calculate .algebraic "1/0" = .error (.expression ⟨.divisionByZero, "1/0"⟩) := by
    have hplan : Plan.ofExpression operators .algebraic "1/0"
        = .ok ⟨[.operand "1", .operand "0", .operator "/"]⟩ := rfl
    rw [Operators.calculate_of_plan hplan]
    rfl
  have hsettled : ∀ e ∈ ["5-5", "1/0"], operators.IsSettled .algebraic e :=
    List.forall_mem_cons.mpr ⟨Operators.isSettled_of_ok hdifference,
      List.forall_mem_singleton.mpr (Operators.isSettled_of_error hdivision)⟩
  obtain ⟨text, report, -, -, -, -, -, hagrees, hfailed, -⟩ :=
    rendering_agrees ⟨"infix", "0", "WARNING", "127.0.0.1", 8000⟩ .algebraic hsettled
  refine ⟨hsettled, report, hagrees, ?_⟩
  rw [hfailed, List.countP_cons, List.countP_singleton, status_calculation_of_ok hdifference,
    status_calculation_of_error hdivision]
  rfl

end Abacus.Api
