import Abacus.Proofs.Expression.Windows
import Abacus.Proofs.Number.CanonicalText
import Mathlib.Logic.Relation

/-!
# Canonical results

The operands of a plan may be written in any way in which they can be read, but those that the
reduction puts in their place are canonical, whatever the operators compute: each pass replaces a
window by the canonical text of a finite number (`Plan.Passes.exists_window`). So on the way to the
result there are no other operands than those of the plan and canonical ones
(`Plan.isCanonical_of_passes`), and the result of a plan of more than one token is the text that the
last pass has written (`Plan.reduce_isCanonical`).
-/

namespace Abacus

/-- What an operator writes is canonical. -/
theorem Operator.isCanonical_of_evaluate {op : Operator} {left right text : String}
    (h : op.evaluate left right = .ok text) : Number.IsCanonical text := by
  obtain ⟨_, _, v, -, -, -, hfinite, htext⟩ := evaluate_eq_ok h
  exact Number.isCanonical_of_text hfinite htext

namespace Plan

variable {ops : Operators} {plan next : Plan} {text : String}

/-! ## One pass -/

/-- One pass of the reduction, which collapses the leftmost window. -/
def Passes (ops : Operators) (plan next : Plan) : Prop :=
  Reduction.collapse ops plan.tokens = .ok next.tokens

/-- **What a pass does**: it puts the canonical text of a finite result in the place of a window. -/
theorem Passes.exists_window (h : Passes ops plan next) :
    ∃ (w : Window ops plan) (text : String), w.op.evaluate w.left w.right = .ok text ∧
      next = w.collapsed text ∧ Number.IsCanonical text := by
  obtain ⟨w, text, hvalue, hnext⟩ := Reduction.exists_window_of_collapse h
  exact ⟨w, text, hvalue, hnext, Operator.isCanonical_of_evaluate hvalue⟩

/-- A pass brings no operands but canonical ones. -/
theorem Passes.isCanonical_of_mem (h : Passes ops plan next)
    (hmem : .operand text ∈ next.tokens) :
    .operand text ∈ plan.tokens ∨ Number.IsCanonical text := by
  obtain ⟨w, value, -, rfl, hcanonical⟩ := h.exists_window
  rw [Window.collapsed_eq] at hmem
  rw [w.tokens_eq]
  rcases List.mem_append.mp hmem with hbefore | hrest
  · exact .inl (List.mem_append_left _ hbefore)
  rcases List.mem_cons.mp hrest with hvalue | hafter
  · obtain rfl := Token.operand.inj hvalue
    exact .inr hcanonical
  · exact .inl (by simp [hafter])

/-! ## All passes -/

/-- Passes bring no operands but canonical ones. -/
theorem isCanonical_of_passes (h : Relation.ReflTransGen (Passes ops) plan next)
    (hmem : .operand text ∈ next.tokens) :
    .operand text ∈ plan.tokens ∨ Number.IsCanonical text := by
  induction h with
  | refl => exact .inl hmem
  | tail _ hpass ih => exact (hpass.isCanonical_of_mem hmem).elim ih .inr

/-- A plan that is reduced to a text is left with that text after some passes. -/
theorem passes_of_reduce (h : plan.reduce ops = .ok text) :
    Relation.ReflTransGen (Passes ops) plan ⟨[.operand text]⟩ := by
  obtain ⟨tokens⟩ := plan
  have h : Reduction.run ops tokens = .ok text := h
  fun_induction Reduction.run ops tokens with
  | case1 => cases h
  | case2 value =>
    obtain rfl := Except.ok.inj h
    exact .refl
  | case3 => cases h
  | case4 => cases h
  | case5 => cases h
  | case6 first second rest next hcollapse ih => exact .head hcollapse (ih h h)

/-- **Results are canonical**, whatever the operators compute: on the way from a plan to its result,
each pass replaces a window by a canonical text (specification §4.3, step 4), so that all operands
that are not those of the plan are canonical, and so is the result of a plan of more than one token.
The operand of a plan of one token is kept as it is, with leading zeros. -/
theorem reduce_isCanonical (plan : Plan) (ops : Operators) :
    (∀ middle, Relation.ReflTransGen (Passes ops) plan middle →
      (∀ text, .operand text ∈ middle.tokens →
        .operand text ∈ plan.tokens ∨ Number.IsCanonical text) ∧
      ∀ next, Passes ops middle next → ∃ (w : Window ops middle) (text : String),
        w.op.evaluate w.left w.right = .ok text ∧ next = w.collapsed text ∧
          Number.IsCanonical text) ∧
    ∀ text, plan.reduce ops = .ok text →
      Relation.ReflTransGen (Passes ops) plan ⟨[.operand text]⟩ ∧
      (2 ≤ plan.size → Number.IsCanonical text) := by
  refine ⟨fun middle hmiddle => ⟨fun text hmem => isCanonical_of_passes hmiddle hmem,
    fun next hpass => hpass.exists_window⟩, fun text h => ⟨passes_of_reduce h, fun hsize => ?_⟩⟩
  rcases Relation.ReflTransGen.cases_tail (passes_of_reduce h) with hplan | ⟨middle, -, hpass⟩
  · -- a plan that no pass was needed for has one token only
    rw [← hplan] at hsize
    exact absurd hsize (Nat.not_succ_le_self 1)
  · obtain ⟨w, value, -, hlast, hcanonical⟩ := hpass.exists_window
    rw [Window.collapsed_eq] at hlast
    have hmem : Token.operand value ∈ [Token.operand text] := by
      rw [mk.inj hlast]
      simp
    obtain rfl := Token.operand.inj (List.mem_singleton.mp hmem)
    exact hcanonical

/-- A quotient that is no integer, and a product of it that is one. -/
theorem reduce_isCanonical_sevenHalves :
    let plan := mk [.operand "07", .operand "2", .operator "/", .operand "2.0", .operator "*"]
    let middle := mk [.operand "3.5", .operand "2.0", .operator "*"]
    plan.reduce .basic = .ok "7" ∧ Passes .basic plan middle ∧
      Number.IsCanonical "3.5" ∧ Number.IsCanonical "7" := by
  intro plan middle
  have hvalue : plan.reduce .basic = .ok "7" := by
    rw [reduce_eq_evaluate]
    decide +kernel
  have hpass : Passes .basic plan middle := by
    show Reduction.collapse .basic plan.tokens = .ok middle.tokens
    decide +kernel
  obtain ⟨hpasses, hresult⟩ := reduce_isCanonical plan .basic
  refine ⟨hvalue, hpass, ?_, (hresult "7" hvalue).2 (by decide)⟩
  exact ((hpasses middle (.single hpass)).1 "3.5" (by decide)).resolve_left (by decide)

end Plan
end Abacus
