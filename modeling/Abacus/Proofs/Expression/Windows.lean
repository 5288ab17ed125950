import Abacus.Proofs.Expression.WellFormed

/-!
# Windows in any order

The reduction collapses the leftmost window of two operands and an operator (`reduce_sequence`,
specification §4.3). A plan can have other windows, and one of them may be collapsed before those to
its left. That makes no difference: the tokens of a window leave on the stack what their result
leaves there (`Stack.read_window`). So if a plan is reduced to a text, none of its windows can fail,
and it still is reduced to that text after any collapse (`Plan.Window.reduce_collapsed`). The
leftmost window is one of all (`Reduction.collapses_of_collapse`), so there is one as long as there
are several tokens; and each collapse takes two tokens away. Every order of collapses thus ends with
the text, after as many steps as there are operators (`Plan.reduce_any_order`).

That a plan is reduced to a text is the condition for all of this: of two windows that fail, the
order decides which fault is told.
-/

namespace Abacus

/-- What an operator makes of two texts, be it finite or not, and how that is written.
`Operator.evaluate` is stricter: it complains about what is not finite. -/
def Operator.outcome (op : Operator) (left right : String) : Except Fault (Number × String) := do
  let x ← (Number.ofText left).mapError .numeral
  let y ← (Number.ofText right).mapError .numeral
  let v ← (op.apply x y).mapError fun fault => .complaint (.ofArithmetic fault)
  return (v, ← v.text.mapError .numeral)

/-- What an operator is evaluated to is a finite outcome. -/
theorem Operator.outcome_of_evaluate {op : Operator} {left right text : String}
    (h : op.evaluate left right = .ok text) :
    ∃ v, op.outcome left right = .ok (v, text) ∧ v.isFinite = true := by
  obtain ⟨x, y, v, hx, hy, hv, hfinite, htext⟩ := evaluate_eq_ok h
  refine ⟨v, ?_, hfinite⟩
  rw [outcome, hx, hy]
  show ((op.apply x y).mapError _).bind _ = _
  rw [hv]
  show (v.text.mapError _).bind _ = _
  rw [htext]
  rfl

/-! ## Windows -/

namespace Plan

variable {ops : Operators} {plan : Plan}

/-- A window of a plan: two operands, and an operator of the table behind them. It may lie anywhere
in the plan, and there may be several. -/
structure Window (ops : Operators) (plan : Plan) where
  before : List Token
  left : String
  right : String
  op : Operator
  after : List Token
  listed : op ∈ ops.list
  tokens_eq : plan.tokens
    = before ++ .operand left :: .operand right :: .operator op.symbol :: after

namespace Window

/-- The plan with an operand in the place of a window. -/
def collapsed (w : Window ops plan) (text : String) : Plan :=
  plan.splice w.before.length (w.before.length + 3) (.operand text)

/-- A collapsed plan: what stood before the window, the operand, and what stood behind it. -/
theorem collapsed_eq (w : Window ops plan) (text : String) :
    w.collapsed text = ⟨w.before ++ .operand text :: w.after⟩ := by
  have hsize : plan.size = w.before.length + (w.after.length + 3) := by
    rw [size, w.tokens_eq, List.length_append]
    rfl
  have hfirst : plan.boundary w.before.length = w.before.length := by
    rw [boundary, if_neg (by omega)]
    omega
  have hlast : plan.boundary (w.before.length + 3) = w.before.length + 3 := by
    rw [boundary, if_neg (by omega)]
    omega
  rw [collapsed, splice, hfirst, hlast, Nat.max_eq_right (Nat.le_add_right _ 3), w.tokens_eq]
  simp

/-- A collapse takes two tokens away. -/
theorem size_collapsed (w : Window ops plan) (text : String) :
    (w.collapsed text).size + 2 = plan.size := by
  rw [size, size, collapsed_eq, w.tokens_eq]
  simp only [List.length_append, List.length_cons]
  omega

/-- The same window with one more token before it. -/
def behind {tokens : List Token} (w : Window ops ⟨tokens⟩) (first : Token) :
    Window ops ⟨first :: tokens⟩ where
  before := first :: w.before
  left := w.left
  right := w.right
  op := w.op
  after := w.after
  listed := w.listed
  tokens_eq := congrArg (first :: ·) w.tokens_eq

end Window

/-- A collapse of a window, wherever it is: the outcome of its operator takes its place. -/
def Collapses (ops : Operators) (plan next : Plan) : Prop :=
  ∃ (w : Window ops plan) (v : Number) (text : String),
    w.op.outcome w.left w.right = .ok (v, text) ∧ next = w.collapsed text

/-- A number of collapses, one after the other. -/
inductive CollapsesIn (ops : Operators) : Nat → Plan → Plan → Prop where
  | refl (plan : Plan) : CollapsesIn ops 0 plan plan
  | cons {n : Nat} {plan next last : Plan} :
      Collapses ops plan next → CollapsesIn ops n next last → CollapsesIn ops (n + 1) plan last

end Plan

/-! ## The leftmost window -/

/-- **The reduction works on windows**: one step replaces a window by what its operator makes of the
two texts. -/
theorem Reduction.exists_window_of_collapse {ops : Operators} {tokens next : List Token}
    (h : collapse ops tokens = .ok next) :
    ∃ (w : Plan.Window ops ⟨tokens⟩) (text : String),
      w.op.evaluate w.left w.right = .ok text ∧ ⟨next⟩ = w.collapsed text := by
  fun_induction collapse ops tokens generalizing next with
  | case1 a b c rest ih =>
    obtain ⟨tail, htail, rfl⟩ := Outcome.map_eq_ok h
    obtain ⟨w, text, hvalue, hnext⟩ := ih htail
    rw [Plan.Window.collapsed_eq] at hnext
    obtain rfl := Plan.mk.inj hnext
    let longer := w.behind (.operand a)
    exact ⟨longer, text, hvalue, (longer.collapsed_eq text).symm⟩
  | case2 a b symbol rest op hop =>
    obtain ⟨text, hvalue, rfl⟩ := Outcome.map_eq_ok h
    obtain ⟨hlisted, rfl⟩ := Operators.find?_eq_some_iff.mp hop
    let w : Plan.Window ops ⟨_⟩ := ⟨[], a, b, op, rest, hlisted, rfl⟩
    exact ⟨w, text, hvalue, (w.collapsed_eq text).symm⟩
  | case3 => cases h
  | case4 => cases h

/-- What the reduction does in one step is a collapse. -/
theorem Reduction.collapses_of_collapse {ops : Operators} {tokens next : List Token}
    (h : collapse ops tokens = .ok next) : Plan.Collapses ops ⟨tokens⟩ ⟨next⟩ := by
  obtain ⟨w, text, hvalue, hnext⟩ := exists_window_of_collapse h
  obtain ⟨v, houtcome, -⟩ := Operator.outcome_of_evaluate hvalue
  exact ⟨w, v, text, houtcome, hnext⟩

/-! ## What a collapse preserves

The machine reads the tokens of a window to the text of its result, whatever the stack is. So before
and after a collapse it leaves the same stack, and everything behind the window is read alike. -/

/-- A window leaves on the stack what its result leaves there. -/
theorem Stack.read_window {ops : Operators} {op : Operator} (hop : op ∈ ops.list)
    (stack : List String) (before : List Token) (left right : String) (after : List Token) :
    read ops stack (before ++ .operand left :: .operand right :: .operator op.symbol :: after)
      = (read ops stack before).bind fun next =>
        (op.evaluate left right).bind fun text => read ops next (.operand text :: after) := by
  rw [read_append]
  congr 1
  funext next
  show (step ops (right :: left :: next) (.operator op.symbol)).bind _ = _
  rw [step_operator (Operators.find?_symbol hop)]
  cases op.evaluate left right <;> rfl

namespace Plan

variable {ops : Operators} {plan : Plan} {text : String}

/-- **A window of a plan that is reduced to a text** does not fail, and the plan is reduced to the
same text once the window is collapsed: on the machine, the text of the window's result is left
where its three tokens leave it. -/
theorem Window.reduce_collapsed (w : Window ops plan) (h : plan.reduce ops = .ok text) :
    ∃ value, w.op.evaluate w.left w.right = .ok value ∧
      (w.collapsed value).reduce ops = .ok text := by
  rw [reduce_eq_evaluate, Stack.evaluate_eq_ok_iff, w.tokens_eq, Stack.read_window w.listed] at h
  obtain ⟨stack, hbefore, h⟩ := Outcome.bind_eq_ok h
  obtain ⟨value, hvalue, hread⟩ := Outcome.bind_eq_ok h
  refine ⟨value, hvalue, ?_⟩
  rw [reduce_eq_evaluate, Stack.evaluate_eq_ok_iff, w.collapsed_eq, Stack.read_append, hbefore]
  exact hread

/-- A collapse does not change what a plan is reduced to. -/
theorem Collapses.reduce {next : Plan} (hstep : Collapses ops plan next)
    (h : plan.reduce ops = .ok text) : next.reduce ops = .ok text := by
  obtain ⟨w, v, written, houtcome, rfl⟩ := hstep
  obtain ⟨value, hvalue, hreduce⟩ := w.reduce_collapsed h
  -- the outcome of the operator is what it is evaluated to
  obtain ⟨v', houtcome', -⟩ := Operator.outcome_of_evaluate hvalue
  obtain rfl : written = value := (Prod.mk.inj (Except.ok.inj (houtcome.symm.trans houtcome'))).2
  exact hreduce

theorem Collapses.size {next : Plan} (hstep : Collapses ops plan next) :
    next.size + 2 = plan.size := by
  obtain ⟨w, v, written, -, rfl⟩ := hstep
  exact w.size_collapsed written

/-- After any collapses the plan is reduced to the same text, and each has taken two tokens away. -/
theorem CollapsesIn.reduce {n : Nat} {last : Plan} (hsteps : CollapsesIn ops n plan last)
    (h : plan.reduce ops = .ok text) :
    last.reduce ops = .ok text ∧ last.size + 2 * n = plan.size := by
  induction hsteps with
  | refl plan => exact ⟨h, rfl⟩
  | cons hstep _ ih =>
    obtain ⟨hreduce, hsize⟩ := ih (hstep.reduce h)
    have hfirst := hstep.size
    exact ⟨hreduce, by omega⟩

/-- As long as there are several tokens, a plan that is reduced to a text can be collapsed. -/
theorem exists_collapses (h : plan.reduce ops = .ok text) (hsize : 2 ≤ plan.size) :
    ∃ next, Collapses ops plan next := by
  rw [Plan.reduce, Reduction.run_of_two_le hsize] at h
  obtain ⟨next, hnext, -⟩ := Outcome.bind_eq_ok h
  exact ⟨⟨next⟩, Reduction.collapses_of_collapse hnext⟩

/-- A single token that is reduced to a text is an operand with that text. -/
theorem eq_operand_of_reduce (h : plan.reduce ops = .ok text) (hsize : plan.size = 1) :
    plan = ⟨[.operand text]⟩ := by
  obtain ⟨tokens⟩ := plan
  obtain ⟨token, rfl⟩ := List.length_eq_one_iff.mp hsize
  rw [reduce_eq_evaluate, Stack.evaluate_eq_ok_iff] at h
  cases token with
  | operand written =>
    cases h
    rfl
  | operator symbol =>
    rw [Stack.read_cons, Stack.step_of_length_lt (by simp) rfl] at h
    cases h
  | group symbol => cases h

/-- **The order of collapses does not matter** to a plan that is reduced to a text: whichever
windows are collapsed, none of them fails or has a result that is not finite, there is another one
until there have been as many collapses as there are operators, and then the text is left. -/
theorem reduce_any_order (h : plan.reduce ops = .ok text) :
    ∃ m, plan.size = 2 * m + 1 ∧ ∀ n middle, CollapsesIn ops n plan middle →
      (∀ w : Window ops middle, ∃ v written,
        w.op.outcome w.left w.right = .ok (v, written) ∧ v.isFinite = true) ∧
      n ≤ m ∧ (n < m → ∃ next, Collapses ops middle next) ∧
      (n = m → middle = ⟨[.operand text]⟩) := by
  have hread := Stack.evaluate_eq_ok_iff.mp ((reduce_eq_evaluate plan ops).symm.trans h)
  have hodd := (isWellFormed_of_read hread).size_eq
  refine ⟨_, hodd, fun n middle hsteps => ?_⟩
  obtain ⟨hreduce, hsize⟩ := hsteps.reduce h
  have hleft := (isWellFormed_of_read
    (Stack.evaluate_eq_ok_iff.mp ((reduce_eq_evaluate middle ops).symm.trans hreduce))).size_eq
  refine ⟨fun w => ?_, by omega, fun hlt => exists_collapses hreduce (by omega), fun heq =>
    eq_operand_of_reduce hreduce (by omega)⟩
  obtain ⟨value, hvalue, -⟩ := w.reduce_collapsed hreduce
  obtain ⟨v, houtcome, hfinite⟩ := Operator.outcome_of_evaluate hvalue
  exact ⟨v, value, houtcome, hfinite⟩

/-- A product of two sums, the right one of which is collapsed first: the rest can be collapsed, and
three collapses end with the value. -/
theorem reduce_any_order_sums :
    let sums : List Token := [.operand "1", .operand "2", .operator "+"]
    let plan := mk (sums ++ [.operand "3", .operand "4", .operator "+", .operator "*"])
    let next := mk (sums ++ [.operand "7", .operator "*"])
    plan.reduce .basic = .ok "21" ∧ Collapses .basic plan next ∧
      (∃ last, Collapses .basic next last) ∧
      ∀ last, CollapsesIn .basic 3 plan last → last = ⟨[.operand "21"]⟩ := by
  intro sums plan next
  have hvalue : plan.reduce .basic = .ok "21" := by
    rw [reduce_eq_evaluate]
    exact Stack.evaluate_eq_ok_iff.mpr rfl
  have hright : Collapses .basic plan next := by
    have hseven : Operator.evaluate ⟨"+", 0, Number.add⟩ "3" "4" = .ok "7" := rfl
    obtain ⟨v, houtcome, -⟩ := Operator.outcome_of_evaluate hseven
    exact ⟨⟨sums, "3", "4", _, [.operator "*"], Operators.add_mem_basic, rfl⟩, v, "7", houtcome,
      rfl⟩
  obtain ⟨m, hsize, horder⟩ := reduce_any_order hvalue
  obtain rfl : m = 3 := by
    have hseven : plan.size = 7 := rfl
    omega
  refine ⟨hvalue, hright, ?_, fun last hsteps => (horder 3 last hsteps).2.2.2 rfl⟩
  exact (horder 1 next (.cons hright (.refl next))).2.2.1 (by decide)

end Plan
end Abacus
