import Abacus.Results.Rendering
import Mathlib.Data.List.Forall2

/-!
# Batches of rendered values

An expression is settled if it has a value or something is wrong with it; any other one leads to a
number that is too long to be read or written. A batch of settled expressions is rendered to its
end, one value for each expression (`Renderer.forall₂_renderAll`), and what an expression is
rendered as tells whether it has a value (`Renderer.render_cases`). The specification (§12) has one
value for each item whatever the items are; beyond the limit on digits that fails, and so batches of
settled expressions are what the theorems about documents are about.
-/

namespace Abacus

/-- An expression that has a value or that something is wrong with. The others are those that meet
an integer of too many digits, on which rendering stops. -/
def Operators.IsSettled (ops : Operators) (form : Notation) (expression : String) : Prop :=
  ∀ e, ops.calculate form expression ≠ .error (.numeral e)

namespace Operators

variable {ops : Operators} {form : Notation} {expression : String}

theorem isSettled_of_ok {text : String} (h : ops.calculate form expression = .ok text) :
    ops.IsSettled form expression := by
  intro e he
  rw [h] at he
  cases he

theorem isSettled_of_error {err : ExpressionError}
    (h : ops.calculate form expression = .error (.expression err)) :
    ops.IsSettled form expression := by
  intro e he
  rw [h] at he
  cases he

/-- An expression is settled because it has a value or because something is wrong with it. -/
theorem IsSettled.cases (h : ops.IsSettled form expression) :
    (∃ text, ops.calculate form expression = .ok text) ∨
      ∃ err, ops.calculate form expression = .error (.expression err) := by
  cases hcalculate : ops.calculate form expression with
  | ok text => exact .inl ⟨text, rfl⟩
  | error failure =>
    cases failure with
    | expression err => exact .inr ⟨err, rfl⟩
    | numeral e => exact absurd hcalculate (h e)

end Operators

namespace Renderer

variable {r : Renderer} {source : String}

/-- What an expression can be rendered as. -/
theorem render_cases {v : RenderedValue} (h : r.render source = .ok v) :
    (∃ result, r.operators.calculate r.form source = .ok result ∧
      v = { source, result, form := r.form, error := none }) ∨
    ∃ err, r.operators.calculate r.form source = .error (.expression err) ∧
      v = { source, result := r.placeholder, form := r.form, error := some err.message } := by
  rw [render] at h
  split at h
  · next result hresult => exact .inl ⟨result, hresult, (Except.ok.inj h).symm⟩
  · next err herr => exact .inr ⟨err, herr, (Except.ok.inj h).symm⟩
  · cases h

theorem exists_render (h : r.operators.IsSettled r.form source) :
    ∃ v, r.render source = .ok v := by
  rcases h.cases with ⟨text, htext⟩ | ⟨err, herr⟩
  · exact ⟨_, by rw [render, htext]⟩
  · exact ⟨_, by rw [render, herr]⟩

/-- **A batch of settled expressions** is rendered to its end, in order. -/
theorem forall₂_renderAll {sources : List String}
    (h : ∀ source ∈ sources, r.operators.IsSettled r.form source) :
    (r.renderAll sources).stopped = none ∧
      List.Forall₂ (fun source v => r.render source = .ok v) sources
        (r.renderAll sources).values := by
  induction sources with
  | nil => exact ⟨rfl, .nil⟩
  | cons source sources ih =>
    obtain ⟨hsource, hsources⟩ := List.forall_mem_cons.mp h
    obtain ⟨v, hv⟩ := exists_render hsource
    obtain ⟨hstopped, hvalues⟩ := ih hsources
    rw [renderAll, hv]
    exact ⟨hstopped, .cons hv hvalues⟩

end Renderer
end Abacus
