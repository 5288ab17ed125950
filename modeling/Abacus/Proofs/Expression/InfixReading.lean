import Abacus.Proofs.Expression.Lexemes

/-!
# Reading a written tree

Reading an infix text of a tree puts the tree's tokens into the plan in order, operators behind
their operands (specification §4.1, step 2). What makes this an induction over the tree is a
statement about any pending operators (`read_of_writes`): while a subtree is read, those that pended
before stay where they are, and on top of them some operators of the subtree are left, none of which
binds weaker than the subtree's root. So the next operator outside, which binds no stronger than
that root, finds them before all others.

- `step_operator_pended`: what an operator does to operators of a subtree that pend.
- `step_closing`: what a closing parenthesis does to them.
- `read_of_writes`: reading a subtree.
- `Plan.ofInfix_of_isWritten`: the plan of a whole expression, where nothing pends before.
-/

namespace Abacus
namespace Infix

variable {ops : Operators}

/-! ## Reading in parts -/

theorem read_append_ok {xs ys : List Lexeme} {first second : List Token}
    {before between after : List Pending} (hxs : read before xs = .ok (first, between))
    (hys : read between ys = .ok (second, after)) :
    read before (xs ++ ys) = .ok (first ++ second, after) := by
  simp only [read_append, hxs, hys, bind, Except.bind, pure, Except.pure]

theorem read_cons_ok {x : Lexeme} {xs : List Lexeme} {first second : List Token}
    {before between after : List Pending} (hx : step before x = .ok (first, between))
    (hxs : read between xs = .ok (second, after)) :
    read before (x :: xs) = .ok (first ++ second, after) := by
  simp only [read, hx, hxs, bind, Except.bind, pure, Except.pure]

/-! ## Pending operators -/

/-- Operators that pend one above the other, with no parenthesis between them. -/
def pended (stacked : List Operator) : List Pending :=
  stacked.map Pending.operator

/-- The tokens of operators. -/
def symbolTokens (stacked : List Operator) : List Token :=
  stacked.map fun op => .operator op.symbol

theorem map_token_pended (stacked : List Operator) :
    (pended stacked).map Pending.token = symbolTokens stacked := by
  rw [pended, symbolTokens, List.map_map]
  rfl

/-- Pending operators that bind no weaker than an operator go into the plan before it. -/
theorem step_operator_pended {op : Operator} (hsymbol : op.symbol ≠ "(") {stacked : List Operator}
    (hstacked : ∀ o ∈ stacked, op.precedence ≤ o.precedence) {pending : List Pending}
    (hpending : pending.takeWhile (·.yieldsTo op) = []) :
    step (pended stacked ++ pending) (.operator op)
      = .ok (symbolTokens stacked, .operator op :: pending) := by
  have hyield : ∀ p ∈ pended stacked, p.yieldsTo op = true := by
    intro p hp
    obtain ⟨o, ho, rfl⟩ := List.mem_map.mp hp
    exact decide_eq_true (hstacked o ho)
  have hdrop : pending.dropWhile (·.yieldsTo op) = pending := by
    have := List.takeWhile_append_dropWhile (p := (·.yieldsTo op)) (l := pending)
    rwa [hpending] at this
  rw [step, List.takeWhile_append_of_pos hyield, List.dropWhile_append_of_pos hyield, hpending,
    hdrop, List.append_nil, map_token_pended, Pending.ofOperator, if_neg hsymbol]

/-- A closing parenthesis puts what pends above the open one into the plan. -/
theorem step_closing {inner : List Pending} (h : ∀ p ∈ inner, p.isOpened = false)
    (outer : List Pending) :
    step (inner ++ .opened :: outer) .closing = .ok (inner.map Pending.token, outer) := by
  have hinner : ∀ p ∈ inner, (!p.isOpened) = true := by
    intro p hp
    simp [h p hp]
  rw [step, List.dropWhile_append_of_pos hinner, List.takeWhile_append_of_pos hinner]
  simp [Pending.isOpened]

theorem step_closing_pended (stacked : List Operator) (pending : List Pending) :
    step (pended stacked ++ .opened :: pending) .closing = .ok (symbolTokens stacked, pending) := by
  have hinner : ∀ p ∈ pended stacked, p.isOpened = false := by
    intro p hp
    obtain ⟨o, -, rfl⟩ := List.mem_map.mp hp
    rfl
  rw [step_closing hinner, map_token_pended]

/-- What does not yield to an operator does not yield to one that binds no weaker. -/
theorem takeWhile_yieldsTo_eq_nil {op other : Operator} (h : op.precedence ≤ other.precedence)
    {pending : List Pending} (hpending : pending.takeWhile (·.yieldsTo op) = []) :
    pending.takeWhile (·.yieldsTo other) = [] := by
  cases pending with
  | nil => rfl
  | cons top rest =>
    rw [List.takeWhile_cons] at hpending ⊢
    cases top with
    | opened => rfl
    | operator o =>
      have hop : ¬ op.precedence ≤ o.precedence := by
        intro hle
        simp [Pending.yieldsTo, hle] at hpending
      have hother : ¬ other.precedence ≤ o.precedence := fun hle => hop (Int.le_trans h hle)
      simp [Pending.yieldsTo, hother]

/-! ## Trees -/

section
variable (hops : ops.SingleCharacter ['(', ')'])
include hops

/-- **Reading a subtree**, with anything pending that does not yield to its root: its tokens are
those put into the plan followed by those of the operators left pending, and these bind no weaker
than its root. -/
theorem read_of_writes {tree : Tree ops} {enclosed : Bool} {s : String}
    (h : tree.Writes enclosed s) (pending : List Pending)
    (hpending : ∀ o ∈ tree.root?, enclosed = false → pending.takeWhile (·.yieldsTo o) = []) :
    ∃ emitted stacked, read pending (lexemes ops s) = .ok (emitted, pended stacked ++ pending) ∧
      emitted ++ symbolTokens stacked = tree.postorder ∧
      ∀ o ∈ stacked, enclosed = false ∧ ∃ root ∈ tree.root?, root.precedence ≤ o.precedence := by
  -- what pends before the right operand is not what pends before the left one
  induction h generalizing pending with
  | operand ds =>
    refine ⟨[.operand ds.text], [], ?_, by simp [symbolTokens, Tree.postorder], by simp⟩
    rw [lexemes_digits hops]
    rfl
  | enclosed _ ih =>
    obtain ⟨emitted, stacked, hread, htokens, -⟩ := ih (.opened :: pending)
      fun _ _ _ => rfl
    refine ⟨[] ++ (emitted ++ symbolTokens stacked), [], ?_,
      by simpa [symbolTokens] using htokens, by simp⟩
    rw [lexemes_enclosed hops]
    have hclosing : read (pended stacked ++ .opened :: pending) [.closing]
        = .ok (symbolTokens stacked, pending) := by
      simpa using read_cons_ok (step_closing_pended stacked pending) (rfl : read pending [] = _)
    exact read_cons_ok rfl (read_append_ok hread hclosing)
  | @operation op listed left right b c s t _ _ hleft hright ihl ihr =>
    have hroot : pending.takeWhile (·.yieldsTo op) = [] := hpending op rfl rfl
    have hleft' : ∀ o ∈ left.root?, b = false → op.precedence ≤ o.precedence := by
      rintro o ho rfl
      exact Int.not_lt.mp fun hlt => Bool.false_ne_true (hleft o ho hlt)
    have hright' : ∀ o ∈ right.root?, c = false → op.precedence < o.precedence := by
      rintro o ho rfl
      exact Int.not_le.mp fun hle => Bool.false_ne_true (hright o ho hle)
    -- the left operand: its root binds no weaker than `op`, so nothing that pends yields to it
    obtain ⟨emitted₁, stacked₁, hread₁, htokens₁, hstacked₁⟩ := ihl pending fun o ho hb =>
      takeWhile_yieldsTo_eq_nil (hleft' o ho hb) hroot
    -- the operator: what the left operand left goes before it
    have hbinds : ∀ o ∈ stacked₁, op.precedence ≤ o.precedence := by
      intro o ho
      obtain ⟨hb, root, hr, hle⟩ := hstacked₁ o ho
      exact Int.le_trans (hleft' root hr hb) hle
    have hsymbol : op.symbol ≠ "(" := hops.symbol_ne (c := '(') listed (by simp)
    have hstep := step_operator_pended hsymbol hbinds hroot
    -- the right operand: its root binds stronger than `op`, so `op` does not yield to it
    obtain ⟨emitted₂, stacked₂, hread₂, htokens₂, hstacked₂⟩ :=
      ihr (.operator op :: pending) fun o ho hc => by
        simp [Pending.yieldsTo, hright' o ho hc]
    refine ⟨emitted₁ ++ (symbolTokens stacked₁ ++ emitted₂), stacked₂ ++ [op], ?_, ?_, ?_⟩
    · rw [lexemes_append_symbol hops listed]
      have := read_append_ok hread₁ (read_cons_ok hstep hread₂)
      simpa [pended] using this
    · rw [Tree.postorder, ← htokens₁, ← htokens₂]
      simp [symbolTokens]
    · intro o ho
      refine ⟨rfl, op, rfl, ?_⟩
      rcases List.mem_append.mp ho with ho₂ | ho₂
      · obtain ⟨hc, root, hr, hle⟩ := hstacked₂ o ho₂
        exact Int.le_trans (Int.le_of_lt (hright' root hr hc)) hle
      · exact List.mem_singleton.mp ho₂ ▸ Int.le_refl _

theorem tokens_of_isWritten {tree : Tree ops} {s : String} (h : tree.IsWritten s) :
    tokens ops s = .ok tree.postorder := by
  obtain ⟨enclosed, hwrites⟩ := h
  obtain ⟨emitted, stacked, hread, htokens, -⟩ :=
    read_of_writes hops hwrites [] fun _ _ _ => rfl
  rw [tokens, hread, ← htokens, ← map_token_pended, List.append_nil]
  rfl

end

end Infix

/-- **The plan of a written tree** is its tokens in order, operators behind their operands. The tree
may be written with any parentheses beside those that it needs, so precedence and the grouping to
the left are all that the text has to respect (specification §8). -/
theorem Plan.ofInfix_of_isWritten {ops : Operators} (hops : ops.SingleCharacter ['(', ')'])
    (tree : Tree ops) (s : String) (h : tree.IsWritten s) :
    Plan.ofInfix ops s = .ok ⟨tree.postorder⟩ := by
  rw [Plan.ofInfix, Infix.tokens_of_isWritten hops h]
  rfl

/-- A left operand that groups by itself, a right one in parentheses, and some that change
nothing. -/
theorem Plan.ofInfix_of_isWritten_grouped :
    Plan.ofInfix .basic "((8-5-2*3/(4/007)))" = .ok ⟨[.operand "8", .operand "5", .operator "-",
      .operand "2", .operand "3", .operator "*", .operand "4", .operand "007", .operator "/",
      .operator "/", .operator "-"]⟩ := by
  let difference : Tree .basic := .operation _ Operators.sub_mem_basic
    (.operand (.ofChars ['8'] (by decide))) (.operand (.ofChars ['5'] (by decide)))
  let product : Tree .basic := .operation _ Operators.mul_mem_basic
    (.operand (.ofChars ['2'] (by decide))) (.operand (.ofChars ['3'] (by decide)))
  let quotient : Tree .basic := .operation _ Operators.div_mem_basic
    (.operand (.ofChars ['4'] (by decide))) (.operand (.ofChars ['0', '0', '7'] (by decide)))
  let whole : Tree .basic := .operation _ Operators.sub_mem_basic difference
    (.operation _ Operators.div_mem_basic product quotient)
  exact ofInfix_of_isWritten (Operators.basic_singleCharacter.mono (by simp)) whole _
    ⟨true, whole.writes_infixText.enclosed.enclosed⟩

end Abacus
