import Abacus.Expression.Reduction
import Abacus.Proofs.Outcome

/-!
# Reduction on a stack of operands

A plan is reduced by collapsing its leftmost window over and over (specification §4.3).
`Stack.evaluate` does the same work in one pass: it pushes operands and applies each operator to the
two operands on top. Between two collapses the plan is always the operands pushed so far, deepest
first, followed by the tokens that the machine has not read (`Reduction.run_operands_append`); so
both find the same operators with the same operands in the same order, and fail in the same way if
they fail.

- `Stack.step_cases`: all that a step of the machine can do. Facts about runs of the machine are
  shown from it by induction on the tokens.
- `Reduction.collapse_operands_append`: a collapse is a step of the machine.
- `Plan.reduce_within_eq_evaluate`: a plan has the value that the machine finds, or fails with the
  same fault, whatever the table of operators.

The theorems about calculations are shown for the machine and carried over by the last of these.
-/

namespace Abacus
namespace Stack

/-! ## The machine -/

/-- Applies an operator to the two operands on top, the right one of which comes first. Where there
is no operator, or there are fewer operands, the tokens cannot be reduced. -/
def apply : Option Operator → List String → Except Fault (List String)
  | some op, right :: left :: below => (op.evaluate left right).map (· :: below)
  | _, _ => .error (.complaint .irreducible)

/-- Reads one token. -/
def step (ops : Operators) (stack : List String) : Token → Except Fault (List String)
  | .operand text => .ok (text :: stack)
  | .operator symbol => apply (ops.find? symbol) stack
  | .group _ => .error (.complaint .irreducible)

/-- Reads tokens from left to right. -/
def read (ops : Operators) (stack : List String) : List Token → Except Fault (List String)
  | [] => .ok stack
  | token :: rest => do read ops (← step ops stack token) rest

/-- The value of a final stack, which must hold a single operand. -/
def result : List String → Except Fault String
  | [text] => .ok text
  | _ => .error (.complaint .irreducible)

/-- The text of the value of a sequence of tokens. No tokens have no value, and the complaint about
them is one of its own. -/
def evaluate (ops : Operators) : List Token → Except Fault String
  | [] => .error (.complaint .emptyExpression)
  | tokens => do result (← read ops [] tokens)

variable {ops : Operators}

theorem read_cons (stack : List String) (token : Token) (rest : List Token) :
    read ops stack (token :: rest) = (step ops stack token).bind (read ops · rest) := rfl

/-- Reading can be interrupted anywhere. -/
theorem read_append (stack : List String) (xs ys : List Token) :
    read ops stack (xs ++ ys) = (read ops stack xs).bind (read ops · ys) := by
  induction xs generalizing stack with
  | nil => rfl
  | cons x xs ih =>
    rw [List.cons_append, read_cons, read_cons]
    cases step ops stack x with
    | error fault => rfl
    | ok next => exact ih next

/-- What applying an operator can do to a stack. -/
theorem apply_cases (op? : Option Operator) (stack : List String) :
    (∃ op left right below, op? = some op ∧ stack = right :: left :: below ∧
      apply op? stack = (op.evaluate left right).map (· :: below)) ∨
    apply op? stack = .error (.complaint .irreducible) := by
  match op?, stack with
  | none, _ => exact .inr rfl
  | some _, [] => exact .inr rfl
  | some _, [_] => exact .inr rfl
  | some op, right :: left :: below => exact .inl ⟨op, left, right, below, rfl, rfl, rfl⟩

theorem step_operator {symbol : String} {op : Operator} (h : ops.find? symbol = some op)
    (left right : String) (below : List String) :
    step ops (right :: left :: below) (.operator symbol)
      = (op.evaluate left right).map (· :: below) := by
  rw [step, h]
  rfl

/-- Without two operands on the stack only an operand can be read. -/
theorem step_of_length_lt {stack : List String} {token : Token} (h : stack.length < 2)
    (htoken : token.isOperand = false) :
    step ops stack token = .error (.complaint .irreducible) := by
  cases token with
  | operand text => cases htoken
  | group symbol => rfl
  | operator symbol =>
    rcases apply_cases (ops.find? symbol) stack with ⟨_, _, _, _, -, rfl, -⟩ | happly
    · rw [List.length_cons, List.length_cons] at h
      omega
    · exact happly

/-- What a token can do to a stack. -/
theorem step_cases {stack next : List String} {token : Token}
    (h : step ops stack token = .ok next) :
    (∃ text, token = .operand text ∧ next = text :: stack) ∨
    (∃ symbol op left right below value, token = .operator symbol ∧
      ops.find? symbol = some op ∧ stack = right :: left :: below ∧
      op.evaluate left right = .ok value ∧ next = value :: below) := by
  cases token with
  | operand text => exact .inl ⟨text, rfl, (Except.ok.inj h).symm⟩
  | group symbol => cases h
  | operator symbol =>
    rcases apply_cases (ops.find? symbol) stack with
      ⟨op, left, right, below, hop, rfl, happly⟩ | happly
    · obtain ⟨value, hvalue, rfl⟩ := Outcome.map_eq_ok (happly.symm.trans h)
      exact .inr ⟨symbol, op, left, right, below, value, rfl, hop, rfl, hvalue, rfl⟩
    · cases happly.symm.trans h

/-- A token leaves at least one operand on the stack. -/
theorem ne_nil_of_step {stack next : List String} {token : Token}
    (h : step ops stack token = .ok next) : next ≠ [] := by
  rcases step_cases h with ⟨_, -, rfl⟩ | ⟨_, _, _, _, _, _, -, -, -, -, rfl⟩ <;>
    exact List.cons_ne_nil _ _

end Stack

namespace Reduction

variable {ops : Operators}

/-- The operands of a stack as they stand in a plan, the one on top last. -/
def operands (stack : List String) : List Token :=
  stack.reverse.map Token.operand

theorem operands_cons (text : String) (stack : List String) :
    operands (text :: stack) = operands stack ++ [.operand text] := by
  simp [operands]

/-! ## One collapse

Where there are operands only, up to a token that is none, the leftmost window ends with that token.
The operands are those on the stack, so the collapse is what the machine does with the token. -/

/-- A collapse does not touch operands that two more operands follow. -/
theorem collapse_append (before : List String) (a b : String) (rest : List Token) :
    collapse ops (before.map Token.operand ++ .operand a :: .operand b :: rest)
      = (collapse ops (.operand a :: .operand b :: rest)).map (before.map Token.operand ++ ·) := by
  induction before with
  | nil =>
    rw [List.map_nil, List.nil_append]
    cases collapse ops (.operand a :: .operand b :: rest) <;> rfl
  | cons first before ih =>
    obtain ⟨c, d, tail, htail⟩ : ∃ c d tail,
        before.map Token.operand ++ .operand a :: .operand b :: rest
          = .operand c :: .operand d :: tail := by
      match before with
      | [] => exact ⟨a, b, rest, rfl⟩
      | [c] => exact ⟨c, a, .operand b :: rest, rfl⟩
      | c :: d :: _ => exact ⟨c, d, _, rfl⟩
    -- two operands follow the first one, so that the window starts further on
    rw [List.map_cons, List.cons_append, htail, collapse, ← htail, ih]
    cases collapse ops (.operand a :: .operand b :: rest) <;> rfl

/-- Operands alone have no window. -/
theorem collapse_operands (stack : List String) :
    collapse ops (operands stack) = .error (.complaint .irreducible) := by
  match stack with
  | [] => rfl
  | [a] => rfl
  | right :: left :: below =>
    have h := @collapse_append ops below.reverse left right []
    simpa [operands, collapse, Except.map] using h

/-- **The leftmost window** is the first token that is no operand with the two operands before it:
a collapse is a step of the machine on the operands before that token. -/
theorem collapse_operands_append {token : Token} (htoken : token.isOperand = false)
    (stack : List String) (rest : List Token) :
    collapse ops (operands stack ++ token :: rest)
      = (Stack.step ops stack token).map (operands · ++ rest) := by
  match stack with
  | [] =>
    rw [Stack.step_of_length_lt (by simp) htoken]
    cases token <;> first | rfl | cases htoken
  | [a] =>
    rw [Stack.step_of_length_lt (by simp) htoken]
    cases token <;> first | rfl | cases htoken
  | right :: left :: below =>
    have hoperands : operands (right :: left :: below) ++ token :: rest
        = below.reverse.map Token.operand ++ .operand left :: .operand right :: token :: rest := by
      simp [operands]
    rw [hoperands, collapse_append]
    cases token with
    | operand text => cases htoken
    | group symbol => rfl
    | operator symbol =>
      cases hfind : ops.find? symbol with
      | none => simp [collapse, Stack.step, Stack.apply, hfind, Except.map]
      | some op =>
        rw [Stack.step_operator hfind]
        cases hvalue : op.evaluate left right with
        | error fault => simp [collapse, hfind, hvalue, Except.map]
        | ok value => simp [collapse, hfind, hvalue, Except.map, operands]

/-! ## The whole reduction -/

theorem run_of_two_le {tokens : List Token} (h : 2 ≤ tokens.length) :
    run ops tokens = (collapse ops tokens).bind (run ops) := by
  match tokens, h with
  | first :: second :: rest, _ =>
    rw [run]
    split <;> rename_i hnext <;> rw [hnext] <;> rfl

/-- **Between two collapses**, a plan consists of the operands on the machine's stack and the tokens
that it has not read. By induction on these tokens: an operand goes on the stack and leaves the plan
as it is, an operator is a collapse. -/
theorem run_operands_append (stack : List String) (tokens : List Token)
    (hne : stack ≠ [] ∨ tokens ≠ []) :
    run ops (operands stack ++ tokens) = (Stack.read ops stack tokens).bind Stack.result := by
  induction tokens generalizing stack with
  | nil =>
    have hstack : stack ≠ [] := hne.resolve_right fun h => h rfl
    rw [List.append_nil]
    match stack, hstack with
    | [text], _ =>
      show run ops [.operand text] = .ok text
      rw [run]
    | right :: left :: below, _ =>
      rw [run_of_two_le (by simp [operands]), collapse_operands]
      rfl
  | cons token rest ih =>
    -- the machine takes a step with every token, a reduction only where the token is no operand
    cases hoperand : token.isOperand with
    | true =>
      obtain ⟨text, rfl⟩ : ∃ text, token = .operand text := by
        cases token with
        | operand text => exact ⟨text, rfl⟩
        | operator symbol => cases hoperand
        | group symbol => cases hoperand
      have hshift : operands stack ++ .operand text :: rest = operands (text :: stack) ++ rest := by
        rw [operands_cons, List.append_assoc, List.singleton_append]
      -- the plan stays as it is: it is only divided further on
      rw [hshift, ih (text :: stack) (.inl (List.cons_ne_nil _ _))]
      rfl
    | false =>
      rw [Stack.read_cons]
      by_cases hlength : 2 ≤ (operands stack ++ token :: rest).length
      · -- the token ends the leftmost window, so the next collapse is the machine's next step
        rw [run_of_two_le hlength, collapse_operands_append hoperand]
        cases hstep : Stack.step ops stack token with
        | error fault => rfl
        | ok next => exact ih next (.inl (Stack.ne_nil_of_step hstep))
      · -- a single token, and not an operand: there is no window to collapse
        have hempty : stack = [] ∧ rest = [] := by
          simp [operands] at hlength
          exact ⟨List.eq_nil_of_length_eq_zero (by omega),
            List.eq_nil_of_length_eq_zero (by omega)⟩
        obtain ⟨rfl, rfl⟩ := hempty
        rw [Stack.step_of_length_lt (by simp) hoperand]
        show run ops [token] = .error (.complaint .irreducible)
        cases token with
        | operand text => cases hoperand
        | operator symbol => rw [run]
        | group symbol => rw [run]

/-- The machine starts with an empty stack, when nothing of the plan has been read. -/
theorem run_eq_evaluate (tokens : List Token) : run ops tokens = Stack.evaluate ops tokens := by
  cases tokens with
  | nil => rw [run, Stack.evaluate]
  | cons token rest =>
    exact run_operands_append [] (token :: rest) (.inr (List.cons_ne_nil _ _))

end Reduction

theorem Plan.reduce_eq_evaluate (plan : Plan) (ops : Operators) :
    plan.reduce ops = Stack.evaluate ops plan.tokens :=
  Reduction.run_eq_evaluate plan.tokens

/-- **Reduction is evaluation on a stack**, for every plan, every table of operators and every
expression that the plan may stem from. The two agree in failures as well, of which both find the
leftmost one. -/
theorem Plan.reduce_within_eq_evaluate (plan : Plan) (ops : Operators) (expression : String) :
    (plan.reduce ops).mapError (·.within expression)
      = (Stack.evaluate ops plan.tokens).mapError (·.within expression) := by
  rw [Plan.reduce, Reduction.run_eq_evaluate]

end Abacus
