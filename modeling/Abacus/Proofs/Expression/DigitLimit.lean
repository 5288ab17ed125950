import Abacus.Proofs.Expression.Calculation
import Abacus.Proofs.Expression.InfixReading
import Abacus.Proofs.Expression.Operands
import Abacus.Proofs.Expression.Operation
import Abacus.Proofs.Number.FloatText

/-!
# The limit on digits

Calculation fails without a complaint about the expression exactly where an operator meets an
integer of too many digits: as one of its operands, or as its result
(`Operators.calculate_complains_iff`). The specification (§4.3, §7) promises exact integers of any
size and one kind of error; neither holds beyond 4300 digits, which is what the counterexample
`Operators.not_complains_overlong` shows.

Nothing else can go wrong unnoticed, because every text that an operator finds on the stack is a
number (`Stack.isLegible_of_step`): an operand of the plan is a run of digits, and what was written
for a number can be read again.

- `Operator.ExceedsLimit`: the ways in which an operator meets the limit.
- `Stack.ReachesLimit`: the machine comes to such an operator.
- `Stack.evaluate_eq_numeral_iff`: that is when an evaluation fails without a complaint.
-/

namespace Abacus

/-! ## Texts on the stack

An operator on two legible texts fails in three ways: a text is too long to read, the result is too
long to write, or there is a complaint. The first two are told apart from the third here. -/

/-- Whether a text is a number, which may have too many digits to be read. All that ever is on the
stack of the machine is legible (`isLegible_of_read`). -/
def IsLegible (text : String) : Prop :=
  (∃ x, Number.ofText text = .ok x) ∨ ∃ ds : Digits, text = ds.text ∧ ds.IsOverlong

theorem Digits.isLegible_text (ds : Digits) : IsLegible ds.text := by
  by_cases h : ds.IsOverlong
  · exact .inr ⟨ds, rfl, h⟩
  · exact .inl ⟨_, Number.ofText_signed h false⟩

theorem IsLegible.ne_empty {text : String} (h : IsLegible text) : text ≠ "" := by
  rintro rfl
  rcases h with ⟨x, hx⟩ | ⟨ds, hds, -⟩
  · cases hx
  · have hchars : [] = ds.chars := by simpa [Digits.text] using congrArg String.toList hds
    exact ds.ne_nil hchars.symm

namespace Operator

variable {op : Operator} {left right : String} {e : NumeralError}

/-- An operator meets an integer of too many digits: as an operand that it has to read, or as its
result, which it has to write. Of two operands that are too long, the left one counts, as it is read
first. -/
inductive ExceedsLimit (op : Operator) (left right : String) : NumeralError → Prop
  | left {ds : Digits} (hleft : left = ds.text) (h : ds.IsOverlong) :
    ExceedsLimit op left right (.tooLongToRead ds.chars.length)
  | right {x : Number} {ds : Digits} (hleft : Number.ofText left = .ok x) (hright : right = ds.text)
    (h : ds.IsOverlong) : ExceedsLimit op left right (.tooLongToRead ds.chars.length)
  | result {x y : Number} {n : Int} (hleft : Number.ofText left = .ok x)
    (hright : Number.ofText right = .ok y) (hresult : op.apply x y = .ok (.int n))
    (h : 10 ^ Number.maxIntegerDigits ≤ n.natAbs) : ExceedsLimit op left right .tooLongToWrite

/-- An operator that meets the limit fails. -/
theorem evaluate_of_exceedsLimit (h : op.ExceedsLimit left right e) :
    op.evaluate left right = .error (.numeral e) := by
  cases h with
  | left hleft h =>
    rw [hleft]
    exact evaluate_left_error (Number.ofText_overlong h false)
  | right hleft hright h =>
    rw [hright]
    exact evaluate_right_error hleft (Number.ofText_overlong h false)
  | result hleft hright hresult h =>
    rw [evaluate_int hleft hright hresult, Number.integerText_overlong h]
    rfl

/-- There is no more than one way to meet the limit. -/
theorem ExceedsLimit.eq_of_evaluate {e' : NumeralError} (hlimit : op.ExceedsLimit left right e')
    (h : op.evaluate left right = .error (.numeral e)) : e' = e :=
  Fault.numeral.inj (Except.error.inj ((evaluate_of_exceedsLimit hlimit).symm.trans h))

/-- The only result that cannot be written is an integer of too many digits. Double precision
numbers always can. -/
theorem exceedsLimit_of_text {x y v : Number} (hleft : Number.ofText left = .ok x)
    (hright : Number.ofText right = .ok y) (hv : op.apply x y = .ok v) (h : v.text = .error e) :
    op.ExceedsLimit left right e := by
  cases v with
  | float z =>
    obtain ⟨t, ht⟩ := Number.exists_text_float z
    rw [ht] at h
    cases h
  | int n =>
    have h : Number.integerText n = .error e := h
    by_cases hlong : 10 ^ Number.maxIntegerDigits ≤ n.natAbs
    · rw [Number.integerText_overlong hlong] at h
      obtain rfl := Except.error.inj h
      exact .result hleft hright hv hlong
    · rw [Number.integerText_eq_toString (Nat.not_le.mp hlong)] at h
      cases h

/-- An operator on two numbers fails without a complaint only at the limit: a number that is not
read has too many digits, and what has no finite result is complained about. -/
theorem exceedsLimit_of_evaluate (hleft : IsLegible left) (hright : IsLegible right)
    (h : op.evaluate left right = .error (.numeral e)) : op.ExceedsLimit left right e := by
  -- the texts are read from left to right, and the first that is too long is told
  rcases hleft with ⟨x, hx⟩ | ⟨ds, hds, hlong⟩
  · rcases hright with ⟨y, hy⟩ | ⟨ds, hds, hlong⟩
    · -- both texts are read, so it is the result that cannot be written
      cases hv : op.apply x y with
      | error fault =>
        rw [evaluate_fault hx hy hv] at h
        cases h
      | ok v =>
        rw [evaluate_of_apply hx hy hv] at h
        split at h
        · obtain ⟨e', htext, he⟩ := Outcome.mapError_eq_error h
          obtain rfl := Fault.numeral.inj he
          exact exceedsLimit_of_text hx hy hv htext
        · cases h
    · -- the left text is read and the right one is not
      have hlimit : op.ExceedsLimit left right _ := .right hx hds hlong
      exact hlimit.eq_of_evaluate h ▸ hlimit
  · -- the left text is not read, whatever the right one is
    have hlimit : op.ExceedsLimit left right _ := .left hds hlong
    exact hlimit.eq_of_evaluate h ▸ hlimit

/-- What an operator writes can be read again. -/
theorem isLegible_of_evaluate {text : String} (h : op.evaluate left right = .ok text) :
    IsLegible text := by
  obtain ⟨_, _, v, -, -, -, hfinite, htext⟩ := evaluate_eq_ok h
  obtain ⟨w, hw, -, -⟩ := Number.exists_ofText_text hfinite htext
  exact .inl ⟨w, hw⟩

end Operator

namespace Stack

variable {ops : Operators}

/-! ## The machine -/

/-- On its way through the tokens, the machine comes to an operator that meets an integer of too
many digits. All tokens before that operator have been read, so no other failure comes first. -/
inductive ReachesLimit (ops : Operators) : List String → List Token → NumeralError → Prop
  | here {symbol : String} {op : Operator} {left right : String} {e : NumeralError}
    (hop : ops.find? symbol = some op) (h : op.ExceedsLimit left right e) (below : List String)
    (rest : List Token) : ReachesLimit ops (right :: left :: below) (.operator symbol :: rest) e
  | later {stack next : List String} {token : Token} {rest : List Token} {e : NumeralError}
    (hstep : step ops stack token = .ok next) (h : ReachesLimit ops next rest e) :
    ReachesLimit ops stack (token :: rest) e

/-- A token leaves numbers on a stack of numbers, since the text of a result can be read again. -/
theorem isLegible_of_step {stack next : List String} {token : Token}
    (hstack : ∀ text ∈ stack, IsLegible text)
    (htoken : ∀ text, token = .operand text → IsLegible text)
    (h : step ops stack token = .ok next) : ∀ text ∈ next, IsLegible text := by
  rcases step_cases h with ⟨text, rfl, rfl⟩ |
    ⟨symbol, op, left, right, below, value, rfl, hop, rfl, hvalue, rfl⟩
  · exact List.forall_mem_cons.mpr ⟨htoken text rfl, hstack⟩
  · refine List.forall_mem_cons.mpr ⟨Operator.isLegible_of_evaluate hvalue, ?_⟩
    intro text htext
    exact hstack text (List.mem_cons_of_mem _ (List.mem_cons_of_mem _ htext))

/-- **The stack holds numbers** as long as only numbers are read. -/
theorem isLegible_of_read {stack next : List String} {plan : List Token}
    (hstack : ∀ text ∈ stack, IsLegible text)
    (hplan : ∀ text, Token.operand text ∈ plan → IsLegible text)
    (h : read ops stack plan = .ok next) : ∀ text ∈ next, IsLegible text := by
  induction plan generalizing stack with
  | nil =>
    obtain rfl := Except.ok.inj h
    exact hstack
  | cons token rest ih =>
    obtain ⟨middle, hstep, hread⟩ := Outcome.bind_eq_ok h
    have hmiddle := isLegible_of_step hstack
      (fun text htext => hplan text (htext ▸ List.mem_cons_self)) hstep
    exact ih hmiddle (fun text htext => hplan text (List.mem_cons_of_mem _ htext)) hread

/-- Coming to the limit, a run fails. -/
theorem read_of_reachesLimit {stack : List String} {tokens : List Token} {e : NumeralError}
    (h : ReachesLimit ops stack tokens e) : read ops stack tokens = .error (.numeral e) := by
  induction h with
  | here hop h below rest =>
    rw [read_cons, step_operator hop, Operator.evaluate_of_exceedsLimit h]
    rfl
  | later hstep h ih =>
    rw [read_cons, hstep]
    exact ih

/-- Failing without a complaint, a run has come to the limit. -/
theorem reachesLimit_of_read {stack : List String} {tokens : List Token} {e : NumeralError}
    (hstack : ∀ text ∈ stack, IsLegible text)
    (htokens : ∀ text, Token.operand text ∈ tokens → IsLegible text)
    (h : read ops stack tokens = .error (.numeral e)) : ReachesLimit ops stack tokens e := by
  induction tokens generalizing stack with
  | nil => cases h
  | cons token rest ih =>
    rcases Outcome.bind_eq_error h with hstep | ⟨next, hstep, hread⟩
    · rcases step_eq_error hstep with ⟨op, left, right, below, rfl, hop, rfl, hvalue⟩ | ⟨hfault, -⟩
      · have hright := hstack right List.mem_cons_self
        have hleft := hstack left (List.mem_cons_of_mem _ List.mem_cons_self)
        exact .here (Operators.find?_symbol hop)
          (Operator.exceedsLimit_of_evaluate hleft hright hvalue) below rest
      · cases hfault
    · have hnext := isLegible_of_step hstack
        (fun text htext => htokens text (htext ▸ List.mem_cons_self)) hstep
      exact .later hstep
        (ih hnext (fun text htext => htokens text (List.mem_cons_of_mem _ htext)) hread)

/-- **Evaluation fails without a complaint** exactly where the limit is reached. Both directions are
by induction on the tokens, one along the run and one along the relation. -/
theorem evaluate_eq_numeral_iff {tokens : List Token} {e : NumeralError}
    (htokens : ∀ text, Token.operand text ∈ tokens → IsLegible text) :
    evaluate ops tokens = .error (.numeral e) ↔ ReachesLimit ops [] tokens e := by
  rw [evaluate_eq_numeral_iff_read]
  exact ⟨reachesLimit_of_read (by simp) htokens, read_of_reachesLimit⟩

end Stack

/-! ## Calculation -/

/-- The operands of a plan are numbers. -/
theorem Plan.isLegible_of_mem {ops : Operators} {form : Notation} {expression : String}
    (plan : Plan) (h : Plan.ofExpression ops form expression = .ok plan) (text : String)
    (hmem : Token.operand text ∈ plan.tokens) : IsLegible text := by
  obtain ⟨ds, rfl⟩ := exists_digits_of_mem h hmem
  exact ds.isLegible_text

namespace Operators

variable {ops : Operators} {form : Notation} {expression : String}

/-- An expression whose evaluation comes to an operator that meets an integer of too many digits. -/
def MeetsLimit (ops : Operators) (form : Notation) (expression : String) (e : NumeralError) :
    Prop :=
  ∃ plan, Plan.ofExpression ops form expression = .ok plan ∧
    Stack.ReachesLimit ops [] plan.tokens e

theorem calculate_eq_numeral_iff {e : NumeralError} :
    ops.calculate form expression = .error (.numeral e) ↔ ops.MeetsLimit form expression e := by
  rw [calculate_eq_numeral_iff_evaluate]
  exact exists_congr fun plan => and_congr_right fun hplan =>
    Stack.evaluate_eq_numeral_iff (plan.isLegible_of_mem hplan)

/-- A value is a number. -/
theorem isLegible_of_calculate {text : String} (h : ops.calculate form expression = .ok text) :
    IsLegible text := by
  obtain ⟨plan, hplan, hread⟩ := calculate_eq_ok_iff.mp h
  exact Stack.isLegible_of_read (by simp) (plan.isLegible_of_mem hplan) hread text (by simp)

/-- A complaint is about the expression as it was given. -/
theorem eq_of_calculate_eq_expression {err : ExpressionError}
    (h : ops.calculate form expression = .error (.expression err)) :
    err = ⟨err.complaint, expression⟩ := by
  cases hplan : Plan.ofExpression ops form expression with
  | error c =>
    rw [calculate_of_complaint hplan] at h
    obtain rfl := Failure.expression.inj (Except.error.inj h)
    rfl
  | ok plan =>
    rw [calculate_of_plan hplan] at h
    obtain ⟨fault, -, hfault⟩ := Outcome.mapError_eq_error h
    cases fault with
    | numeral e => cases hfault
    | complaint c =>
      obtain rfl := Failure.expression.inj hfault
      rfl

/-- **A calculation yields a text or a complaint** about the expression as it was given exactly if
no operator meets an integer of more digits than are read or written. If one does, the failure tells
which limit it met. The specification knows a single kind of failure (§7); this condition tells
where the calculator keeps to that. -/
theorem calculate_complains_iff (ops : Operators) (form : Notation) (expression : String) :
    (((∃ text, ops.calculate form expression = .ok text) ∨
      ∃ c, ops.calculate form expression = .error (.expression ⟨c, expression⟩)) ↔
        ∀ e, ¬ ops.MeetsLimit form expression e) ∧
    ∀ e, ops.calculate form expression = .error (.numeral e) ↔
      ops.MeetsLimit form expression e := by
  refine ⟨?_, fun e => calculate_eq_numeral_iff⟩
  constructor
  · rintro h e hlimit
    have herror := calculate_eq_numeral_iff.mpr hlimit
    rcases h with ⟨text, h⟩ | ⟨c, h⟩ <;> rw [herror] at h <;> cases h
  · intro h
    cases hcalculate : ops.calculate form expression with
    | ok text => exact .inl ⟨text, rfl⟩
    | error failure =>
      cases failure with
      | numeral e => exact absurd (calculate_eq_numeral_iff.mp hcalculate) (h e)
      | expression err =>
        refine .inr ⟨err.complaint, ?_⟩
        rw [← eq_of_calculate_eq_expression hcalculate]

/-- The plan of one operation. -/
theorem ofExpression_operation {op : Operator} (hop : op ∈ basic.list) (left right : Digits) :
    Plan.ofExpression basic .algebraic (left.text ++ op.symbol ++ right.text)
      = .ok ⟨[.operand left.text, .operand right.text, .operator op.symbol]⟩ := by
  have hwritten : (Tree.operation op hop (.operand left) (.operand right)).IsWritten
      (left.text ++ op.symbol ++ right.text) :=
    ⟨_, .operation hop (.operand left) (.operand right) (by rintro o ⟨⟩) (by rintro o ⟨⟩)⟩
  have hops : basic.SingleCharacter ['(', ')'] := basic_singleCharacter.mono (by simp)
  exact congrArg (Except.map Plan.mk) (Infix.tokens_of_isWritten hops hwritten)

/-- Whatever is done with an operand of too many digits, it is not read. -/
theorem meetsLimit_of_isOverlong {op : Operator} (hop : op ∈ basic.list) {left : Digits}
    (h : left.IsOverlong) (right : Digits) :
    basic.MeetsLimit .algebraic (left.text ++ op.symbol ++ right.text)
      (.tooLongToRead left.chars.length) :=
  ⟨_, ofExpression_operation hop left right,
    .later rfl (.later rfl (.here (find?_symbol hop) (.left rfl h) [] []))⟩

/-- One more than an integer of 4301 digits: neither a text nor a complaint. -/
theorem not_complains_overlong :
    ¬ ((∃ text, basic.calculate .algebraic (String.ofList (List.replicate 4301 '1') ++ "+" ++ "1")
        = .ok text) ∨
      ∃ c, basic.calculate .algebraic (String.ofList (List.replicate 4301 '1') ++ "+" ++ "1")
        = .error (.expression ⟨c, String.ofList (List.replicate 4301 '1') ++ "+" ++ "1"⟩)) := by
  obtain ⟨ds, hchars⟩ : ∃ ds : Digits, ds.chars = List.replicate 4301 '1' := by
    refine ⟨⟨List.replicate 4301 '1', List.cons_ne_nil _ _, ?_⟩, rfl⟩
    intro c hc
    rw [List.eq_of_mem_replicate hc]
    rfl
  have hlong : ds.IsOverlong := by
    rw [Digits.IsOverlong, hchars, List.length_replicate]
    decide
  have herror := calculate_eq_numeral_iff.mpr
    (meetsLimit_of_isOverlong add_mem_basic hlong (.ofChars ['1'] (by decide)))
  rw [Digits.text, hchars] at herror
  rintro (⟨text, h⟩ | ⟨c, h⟩)
  · cases herror.symm.trans h
  · cases herror.symm.trans h

end Operators
end Abacus
