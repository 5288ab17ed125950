import Abacus.Proofs.Expression.Operators
import Abacus.Proofs.Expression.Stack

/-!
# Runs of the stack machine

What is known once the machine has read all tokens without failing:

- `Stack.isRead_of_read`: every token was an operand or a symbol of the table.
- `Stack.length_of_read`: each operator took one operand away.
- `Stack.read_below`: operands that lay deeper on the stack were not looked at, so tokens that leave
  a single operand can be replaced by it wherever they stand (`Stack.evaluate_around`).

A run that fails does so at one of its tokens, behind others that it has read
(`Stack.exists_of_read_eq_error`): the token has no place there, or it is an operator that fails on
the two texts that it is applied to (`Stack.Applies`, `Stack.read_eq_error`). All of this is shown
step by step from `Stack.step_cases` and carried along the tokens by induction, where the stack is
any.
-/

namespace Abacus
namespace Stack

variable {ops : Operators}

theorem evaluate_of_ne_nil {tokens : List Token} (h : tokens ≠ []) :
    evaluate ops tokens = (read ops [] tokens).bind result := by
  cases tokens with
  | nil => exact absurd rfl h
  | cons token rest => rfl

/-- An evaluation yields a text if and only if that text is all that is on the stack in the end. -/
theorem evaluate_eq_ok_iff {tokens : List Token} {text : String} :
    evaluate ops tokens = .ok text ↔ read ops [] tokens = .ok [text] := by
  cases tokens with
  | nil =>
    constructor
    · intro h
      cases h
    · intro h
      cases Except.ok.inj h
  | cons token rest =>
    constructor
    · intro h
      obtain ⟨stack, hread, hresult⟩ := Outcome.bind_eq_ok h
      unfold result at hresult
      split at hresult
      · obtain rfl := Except.ok.inj hresult
        exact hread
      · cases hresult
    · intro h
      show (read ops [] (token :: rest)).bind result = _
      rw [h]
      rfl

/-- An evaluation fails without a complaint if and only if reading the tokens does. -/
theorem evaluate_eq_numeral_iff_read {tokens : List Token} {e : NumeralError} :
    evaluate ops tokens = .error (.numeral e) ↔ read ops [] tokens = .error (.numeral e) := by
  cases tokens with
  | nil =>
    constructor
    · intro h
      cases h
    · intro h
      cases h
  | cons token rest =>
    rw [evaluate_of_ne_nil (List.cons_ne_nil _ _)]
    constructor
    · intro h
      rcases Outcome.bind_eq_error h with hread | ⟨stack, -, hresult⟩
      · exact hread
      · unfold result at hresult
        split at hresult <;> cases hresult
    · intro h
      rw [h]
      rfl

/-! ## Tokens that can be read -/

/-- Whether a token is an operand or a symbol of the table. -/
def IsRead (ops : Operators) : Token → Prop
  | .operand _ => True
  | .operator symbol => ∃ op, ops.find? symbol = some op
  | .group _ => False

theorem isRead_of_step {stack next : List String} {token : Token}
    (h : step ops stack token = .ok next) : IsRead ops token := by
  rcases step_cases h with ⟨text, rfl, -⟩ | ⟨symbol, op, _, _, _, _, rfl, hop, -⟩
  · trivial
  · exact ⟨op, hop⟩

/-- Tokens that are read are operands and symbols. -/
theorem isRead_of_read {stack next : List String} {tokens : List Token}
    (h : read ops stack tokens = .ok next) : ∀ token ∈ tokens, IsRead ops token := by
  induction tokens generalizing stack with
  | nil =>
    intro token htoken
    cases htoken
  | cons first rest ih =>
    obtain ⟨middle, hstep, hread⟩ := Outcome.bind_eq_ok h
    exact List.forall_mem_cons.mpr ⟨isRead_of_step hstep, ih hread⟩

theorem group_notMem_of_read {stack next : List String} {plan : List Token}
    (h : read ops stack plan = .ok next) (symbol : String) : .group symbol ∉ plan :=
  fun hmem => isRead_of_read h _ hmem

/-- The first token that is read on an empty stack is an operand. -/
theorem isOperand_of_read {next : List String} {token : Token} {rest : List Token}
    (h : read ops [] (token :: rest) = .ok next) : token.isOperand = true := by
  cases hoperand : token.isOperand with
  | true => rfl
  | false =>
    rw [read_cons, step_of_length_lt (by simp) hoperand] at h
    cases h

/-! ## The size of the stack -/

/-- An operand makes the stack longer by one, and an operator shorter by one. -/
theorem length_of_step {stack next : List String} {token : Token}
    (h : step ops stack token = .ok next) :
    next.length + [token].countP Token.isOperator
      = stack.length + [token].countP Token.isOperand := by
  rcases step_cases h with ⟨text, rfl, rfl⟩ |
    ⟨symbol, op, left, right, below, value, rfl, -, rfl, -, rfl⟩
  · rfl
  · rfl

/-- The height of the stack is the surplus of operands: the run of `length_of_step`. -/
theorem length_of_read {stack next : List String} {tokens : List Token}
    (h : read ops stack tokens = .ok next) :
    next.length + tokens.countP Token.isOperator
      = stack.length + tokens.countP Token.isOperand := by
  induction tokens generalizing stack with
  | nil =>
    obtain rfl := Except.ok.inj h
    rfl
  | cons token rest ih =>
    obtain ⟨middle, hstep, hread⟩ := Outcome.bind_eq_ok h
    have hfirst := length_of_step hstep
    have hrest := ih hread
    rw [← List.singleton_append, List.countP_append, List.countP_append]
    omega

/-- Something is left on the stack once a token has been read. -/
theorem ne_nil_of_read {stack next : List String} {tokens : List Token}
    (h : read ops stack tokens = .ok next) (hne : stack ≠ [] ∨ tokens ≠ []) : next ≠ [] := by
  induction tokens generalizing stack with
  | nil =>
    obtain rfl := Except.ok.inj h
    exact hne.resolve_right fun h => h rfl
  | cons token rest ih =>
    obtain ⟨middle, hstep, hread⟩ := Outcome.bind_eq_ok h
    exact ih hread (.inl (ne_nil_of_step hstep))

/-! ## Operands further down -/

/-- A step takes nothing from below the two operands on top. -/
theorem step_below {stack next : List String} {token : Token}
    (h : step ops stack token = .ok next) (below : List String) :
    step ops (stack ++ below) token = .ok (next ++ below) := by
  rcases step_cases h with ⟨text, rfl, rfl⟩ |
    ⟨symbol, op, left, right, rest, value, rfl, hop, rfl, hvalue, rfl⟩
  · rfl
  · rw [List.cons_append, List.cons_append, step_operator hop, hvalue]
    rfl

/-- **What lies below is not touched**: what can be read on a stack is read in the same way if there
are more operands below. The converse fails, since tokens may need those operands. -/
theorem read_below {stack next : List String} {tokens : List Token}
    (h : read ops stack tokens = .ok next) (below : List String) :
    read ops (stack ++ below) tokens = .ok (next ++ below) := by
  induction tokens generalizing stack with
  | nil =>
    obtain rfl := Except.ok.inj h
    rfl
  | cons token rest ih =>
    obtain ⟨middle, hstep, hread⟩ := Outcome.bind_eq_ok h
    rw [read_cons, step_below hstep below]
    exact ih hread

/-- Tokens that leave a single operand can be replaced by it. -/
theorem evaluate_around {plan : List Token} {text : String}
    (h : read ops [] plan = .ok [text]) (before after : List Token) :
    evaluate ops (before ++ (plan ++ after))
      = evaluate ops (before ++ (.operand text :: after)) := by
  have hne : plan ≠ [] := by
    rintro rfl
    cases h
  rw [evaluate_of_ne_nil (by simp [hne]), evaluate_of_ne_nil (by simp), read_append, read_append]
  -- whatever `before` leaves on the stack, both put `text` on top of it
  congr 2
  funext stack
  rw [read_append, show read ops stack plan = .ok (text :: stack) from read_below h stack]
  rfl

/-! ## Runs that fail -/

/-- A run that fails has read some tokens and fails at the next one. So what can fail a run is what
can fail a step (`step_eq_error`). -/
theorem exists_of_read_eq_error {stack : List String} {tokens : List Token} {fault : Fault}
    (h : read ops stack tokens = .error fault) :
    ∃ front token back middle, tokens = front ++ token :: back ∧
      read ops stack front = .ok middle ∧ step ops middle token = .error fault := by
  induction tokens generalizing stack with
  | nil => cases h
  | cons token rest ih =>
    rcases Outcome.bind_eq_error h with hstep | ⟨next, hstep, hread⟩
    · exact ⟨[], token, rest, stack, rfl, rfl, hstep⟩
    · obtain ⟨front, failing, back, middle, rfl, hfront, hfailing⟩ := ih hread
      refine ⟨token :: front, failing, back, middle, rfl, ?_, hfailing⟩
      rw [read_cons, hstep]
      exact hfront

/-- Why a token fails: it is an operator that fails on the two texts on top, or it is no operand and
has no place where it stands. -/
theorem step_eq_error {stack : List String} {token : Token} {fault : Fault}
    (h : step ops stack token = .error fault) :
    (∃ op left right below, token = .operator op.symbol ∧ op ∈ ops.list ∧
      stack = right :: left :: below ∧ op.evaluate left right = .error fault) ∨
    (fault = .complaint .irreducible ∧ token.isOperand = false ∧
      (IsRead ops token → stack.length < 2)) := by
  cases token with
  | operand text => cases h
  | group symbol =>
    cases h
    exact .inr ⟨rfl, rfl, False.elim⟩
  | operator symbol =>
    cases hfind : ops.find? symbol with
    | none =>
      rw [step, hfind] at h
      cases h
      refine .inr ⟨rfl, rfl, fun hlisted => ?_⟩
      obtain ⟨op, hop⟩ := hlisted
      cases hfind.symm.trans hop
    | some op =>
      rcases stack with _ | ⟨right, _ | ⟨left, below⟩⟩
      · rw [step, hfind] at h
        cases h
        exact .inr ⟨rfl, rfl, fun _ => Nat.zero_lt_two⟩
      · rw [step, hfind] at h
        cases h
        exact .inr ⟨rfl, rfl, fun _ => Nat.one_lt_two⟩
      · rw [step_operator hfind] at h
        obtain ⟨hlisted, rfl⟩ := Operators.find?_eq_some_iff.mp hfind
        exact .inl ⟨op, left, right, below, rfl, hlisted, rfl, Outcome.map_eq_error h⟩

/-- On its way through the tokens, the machine applies an operator to two texts: everything before
the operator has been read, and the texts are on top of the stack. What comes of it is left open, as
the operator may fail. -/
def Applies (ops : Operators) (tokens : List Token) (op : Operator) (left right : String) : Prop :=
  ∃ front back below, tokens = front ++ .operator op.symbol :: back ∧ op ∈ ops.list ∧
    read ops [] front = .ok (right :: left :: below)

/-- Where an operator fails, the whole evaluation does. -/
theorem evaluate_of_applies {tokens : List Token} {op : Operator} {left right : String}
    {fault : Fault} (h : Applies ops tokens op left right)
    (hfault : op.evaluate left right = .error fault) : evaluate ops tokens = .error fault := by
  obtain ⟨front, back, below, rfl, hop, hfront⟩ := h
  rw [evaluate_of_ne_nil (by simp), read_append, hfront]
  show ((step ops _ (.operator op.symbol)).bind _).bind _ = _
  rw [step_operator (Operators.find?_symbol hop), hfault]
  rfl

/-- **Why a run fails**: an operator that the machine applies does, or a token has no place where it
stands. In the latter case the complaint is always the same. -/
theorem read_eq_error {tokens : List Token} {fault : Fault}
    (h : read ops [] tokens = .error fault) :
    (∃ op left right, Applies ops tokens op left right ∧
      op.evaluate left right = .error fault) ∨
    (fault = .complaint .irreducible ∧ ∃ front token back stack,
      tokens = front ++ token :: back ∧ read ops [] front = .ok stack ∧
      token.isOperand = false ∧ (IsRead ops token → stack.length < 2)) := by
  obtain ⟨front, token, back, stack, rfl, hfront, hstep⟩ := exists_of_read_eq_error h
  rcases step_eq_error hstep with
    ⟨op, left, right, below, rfl, hop, rfl, hfault⟩ | ⟨hfault, hoperand, hlow⟩
  · exact .inl ⟨op, left, right, ⟨front, back, below, rfl, hop, hfront⟩, hfault⟩
  · exact .inr ⟨hfault, front, token, back, stack, rfl, hfront, hoperand, hlow⟩

/-- **A failure without a complaint** is that of an operator that the machine applies. -/
theorem evaluate_eq_numeral_iff_applies {tokens : List Token} {e : NumeralError} :
    evaluate ops tokens = .error (.numeral e) ↔
      ∃ op left right, Applies ops tokens op left right ∧
        op.evaluate left right = .error (.numeral e) := by
  constructor
  · intro h
    rcases read_eq_error (evaluate_eq_numeral_iff_read.mp h) with happlies | ⟨hfault, -⟩
    · exact happlies
    · cases hfault
  · rintro ⟨op, left, right, happlies, hfault⟩
    exact evaluate_of_applies happlies hfault

end Stack
end Abacus
