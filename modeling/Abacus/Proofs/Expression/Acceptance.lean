import Abacus.Proofs.Expression.Calculation
import Abacus.Proofs.Expression.Grammar
import Abacus.Proofs.Expression.InfixReading

/-!
# Which infix expressions have a value

The infix reader does not ask for any order of operands and operators. What keeps most texts that
are no expressions from having a value is that the stack machine counts: in the end, there must be
one operand more than operators, and no parenthesis may be left open. Where no two operands are
neighbours, there are never more operands than that, and as many only if everything is in its place
(`Infix.completes_of_read`). Where two are, an operator elsewhere can make up for the one that is
missing between them, and the text has a value without being an expression. So it is by its
neighbours that an expression can be told from other texts that have a value
(`Operators.derives_iff_separated`); the plan of such a text is always that of an expression.

The counts of a text are those of its plan, which is a permutation of its operands and operators
(`Infix.perm_of_tokens`), and the plan tells them by what is left on the stack
(`Stack.length_of_read`). The specification (§7) has operators without two operands, and operands
that are left over, end in an error of the reduction; the reduction only ever sees the plan.
-/

namespace Abacus

/-! ## Counting operands

Reading keeps count of operands and operators. If no two operands are neighbours, a run of lexemes
has at most one operand more than it has operators; that it has one more is what the machine asks
for. -/

namespace Infix

variable {ops : Operators} (hops : ops.SingleCharacter ['(', ')'])

/-- The number of lexemes whose token has a property. -/
def tokenCount (p : Token → Bool) (xs : List Lexeme) : Nat :=
  (xs.filterMap Lexeme.token?).countP p

theorem tokenCount_cons (p : Token → Bool) (x : Lexeme) (xs : List Lexeme) :
    tokenCount p (x :: xs) = tokenCount p xs + (x.token?.any p).toNat := by
  cases hx : x.token? with
  | none => simp [tokenCount, hx]
  | some token => cases hp : p token <;> simp [tokenCount, hx, hp]

include hops in
/-- **Operands that are no neighbours** are at most one more than the operators, the one that ended
just before included; and if they are one more, the lexemes complete an expression. -/
theorem completes_of_read {pending final : List Pending} {xs : List Lexeme} {emitted : List Token}
    (hproper : ∀ x ∈ xs, x.IsProper ops) (h : read pending xs = .ok (emitted, final))
    (hfinal : final.countP Pending.isOpened = 0) (hseparated : Separated xs) (ended : Bool)
    (hfirst : ∀ x ∈ xs.head?, ¬ (ended = true ∧ x.startsOperand = true)) :
    tokenCount Token.isOperand xs + ended.toNat ≤ tokenCount Token.isOperator xs + 1 ∧
    (tokenCount Token.isOperand xs + ended.toNat = tokenCount Token.isOperator xs + 1 →
      Completes ops (pending.countP Pending.isOpened) ended xs) := by
  -- equality is reached only if no lexeme on the way falls below it, so that each case either
  -- passes both parts on or leaves the second one nothing to show
  induction xs generalizing pending emitted ended with
  | nil =>
    cases h
    rw [hfinal]
    cases ended with
    | true => exact ⟨Nat.le_refl _, fun _ => .done⟩
    | false => exact ⟨Nat.zero_le _, fun h => nomatch h⟩
  | cons x rest ih =>
    obtain ⟨⟨first, middle⟩, hstep, h⟩ := Outcome.bind_eq_ok h
    obtain ⟨⟨later, last⟩, hread, h⟩ := Outcome.bind_eq_ok h
    cases h
    obtain ⟨hx, hrest⟩ := List.forall_mem_cons.mp hproper
    obtain ⟨hnext, hseparated⟩ := List.isChain_cons.mp hseparated
    obtain ⟨hle, hcompletes⟩ := ih hrest hread hseparated _ hnext
    have hneighbours := hfirst x rfl
    rw [tokenCount_cons, tokenCount_cons]
    cases x with
    | operand text =>
      -- it is no neighbour of an operand that ended
      obtain rfl : ended = false := by simpa [Lexeme.startsOperand] using hneighbours
      obtain ⟨ds, rfl⟩ := hx
      cases hstep
      exact ⟨hle, fun heq => .operand ds (hcompletes heq)⟩
    | operator op =>
      have hsymbol : op.symbol ≠ "(" := hops.symbol_ne (c := '(') hx (by simp)
      rw [← openings_of_operator hsymbol hstep]
      cases ended with
      | true =>
        exact ⟨Nat.succ_le_succ hle, fun heq => .operator hx (hcompletes (Nat.succ.inj heq))⟩
      | false =>
        -- where an operand was due, one is missing from now on
        simp only [Lexeme.endsOperand, Lexeme.token?, Option.any_some, Token.isOperand,
          Token.isOperator, Bool.toNat_true, Bool.toNat_false] at hle ⊢
        exact ⟨by omega, fun heq => by omega⟩
    | opening =>
      -- nor is a parenthesis
      obtain rfl : ended = false := by simpa [Lexeme.startsOperand] using hneighbours
      cases hstep
      rw [List.countP_cons_of_pos rfl] at hcompletes
      exact ⟨hle, fun heq => .opening (hcompletes heq)⟩
    | closing =>
      rw [openings_of_closing hstep]
      cases ended with
      | true => exact ⟨hle, fun heq => .closing (hcompletes heq)⟩
      | false =>
        -- what ends with the parenthesis is no operand, so that one is missing here, too
        simp only [Lexeme.endsOperand, Lexeme.token?, Option.any_none, Bool.toNat_true,
          Bool.toNat_false] at hle ⊢
        exact ⟨by omega, fun heq => by omega⟩
    | foreign => exact hx.elim

/-- An expression that completes what nothing was read before is one of the grammar. -/
theorem derives_of_completes_lexemes {expression : String}
    (hforeign : .foreign ∉ lexemes .basic expression)
    (h : Completes .basic 0 false (lexemes .basic expression)) :
    Derives .expression expression := by
  have hderives : Derives .expression (nested [] "" ++ written (lexemes .basic expression)) :=
    derives_of_completes h rfl (by simp) awaits_empty
  rwa [nested, String.empty_append, written_lexemes hforeign] at hderives

/-- A plan that is read to the end has one operand more than operators, and so has its expression;
no two of its operands being neighbours, it is one of the grammar. -/
theorem derives_of_separated {expression text : String} {plan : List Token}
    (h : tokens .basic expression = .ok plan) (hread : Stack.read .basic [] plan = .ok [text])
    (hseparated : Separated (lexemes .basic expression)) : Derives .expression expression := by
  have hops : Operators.basic.SingleCharacter ['(', ')'] :=
    Operators.basic_singleCharacter.mono (by simp)
  have hgroup := Stack.group_notMem_of_read hread
  have hperm := perm_of_tokens hops h hgroup
  obtain ⟨emitted, final, hlexemes, rfl⟩ := tokens_eq_ok h
  have hfinal := countP_isOpened_eq_zero <|
    isOpened_eq_false fun symbol hmem => hgroup symbol (List.mem_append_right _ hmem)
  obtain ⟨-, hcompletes⟩ := completes_of_read hops (isProper_of_read hlexemes) hlexemes hfinal
    hseparated false (by simp)
  refine derives_of_completes_lexemes (foreign_notMem_of_read hlexemes) (hcompletes ?_)
  -- the plan has the counts of the lexemes, as it is a permutation of their tokens
  have hlength := Stack.length_of_read hread
  rw [hperm.countP_eq, hperm.countP_eq] at hlength
  simp only [List.length_singleton, List.length_nil] at hlength
  simp only [tokenCount, Bool.toNat_false]
  omega

end Infix

/-! ## Trees on the stack

The converse of evaluating a tree: a plan that can be evaluated is the postorder of one. The run of
the machine is followed with trees in the place of the texts on its stack. -/

namespace Stack

variable {ops : Operators}

/-- The tokens of trees on a stack, the deepest first. The machine is followed with trees in the
place of texts, so that the tree of a plan is found on the way. -/
def postorders (trees : List (Tree ops)) : List Token :=
  trees.reverse.flatMap Tree.postorder

theorem postorders_cons (tree : Tree ops) (trees : List (Tree ops)) :
    postorders (tree :: trees) = postorders trees ++ tree.postorder := by
  simp [postorders]

/-- Where trees were read, a further token makes them the trees of all tokens up to it. -/
theorem exists_trees_of_step {stack next : List String} {token : Token}
    (htoken : ∀ text, token = .operand text → ∃ ds : Digits, text = ds.text)
    (h : step ops stack token = .ok next) (trees : List (Tree ops))
    (htrees : trees.length = stack.length) :
    ∃ trees' : List (Tree ops), trees'.length = next.length ∧
      postorders trees' = postorders trees ++ [token] := by
  rcases step_cases h with ⟨text, rfl, rfl⟩ |
    ⟨symbol, op, left, right, below, value, rfl, hop, rfl, -, rfl⟩
  · obtain ⟨ds, rfl⟩ := htoken text rfl
    exact ⟨.operand ds :: trees, by simp [htrees], postorders_cons _ _⟩
  · -- there are two operands on the stack, and so there are two trees
    obtain ⟨hlisted, rfl⟩ := Operators.find?_eq_some_iff.mp hop
    match trees, htrees with
    | rightTree :: leftTree :: trees, htrees =>
      refine ⟨.operation op hlisted leftTree rightTree :: trees, by simpa using htrees, ?_⟩
      simp [postorders_cons, Tree.postorder]

/-- Where trees were read, further tokens make them the trees of all tokens up to the last. -/
theorem exists_trees_of_read {stack next : List String} {plan : List Token}
    (hplan : ∀ text, Token.operand text ∈ plan → ∃ ds : Digits, text = ds.text)
    (h : read ops stack plan = .ok next) (trees : List (Tree ops))
    (htrees : trees.length = stack.length) :
    ∃ trees' : List (Tree ops), trees'.length = next.length ∧
      postorders trees' = postorders trees ++ plan := by
  induction plan generalizing stack trees with
  | nil =>
    obtain rfl := Except.ok.inj h
    exact ⟨trees, htrees, (List.append_nil _).symm⟩
  | cons token rest ih =>
    obtain ⟨middle, hstep, hread⟩ := Outcome.bind_eq_ok h
    obtain ⟨between, hlength, hbetween⟩ := exists_trees_of_step
      (fun text htext => hplan text (htext ▸ List.mem_cons_self)) hstep trees htrees
    obtain ⟨trees', hlength', htrees'⟩ :=
      ih (fun text hmem => hplan text (List.mem_cons_of_mem _ hmem)) hread between hlength
    refine ⟨trees', hlength', ?_⟩
    rw [htrees', hbetween, List.append_assoc, List.singleton_append]

/-- **A plan that has a value** is that of a tree. -/
theorem exists_tree_of_read {plan : List Token} {text : String}
    (hplan : ∀ text, Token.operand text ∈ plan → ∃ ds : Digits, text = ds.text)
    (h : read ops [] plan = .ok [text]) : ∃ tree : Tree ops, plan = tree.postorder := by
  obtain ⟨trees, hlength, htrees⟩ := exists_trees_of_read hplan h [] rfl
  match trees, hlength with
  | [tree], _ => exact ⟨tree, by simpa [postorders] using htrees.symm⟩

end Stack

/-! ## Calculation -/

namespace Operators

/-- **What has a value as an infix expression** is one of the grammar if and only if no two of its
operands are neighbours. In any case its plan is that of an expression of the grammar, which may
have its operators in other places: reading (specification §4.1) does not look at what stands next
to what. -/
theorem derives_iff_separated {expression value : String}
    (h : basic.calculate .algebraic expression = .ok value) :
    (Infix.Derives .expression expression ↔ Infix.Separated (Infix.lexemes .basic expression)) ∧
    ∃ other, Infix.Derives .expression other ∧
      Plan.ofInfix .basic other = Plan.ofInfix .basic expression := by
  obtain ⟨plan, hplan, hread⟩ := calculate_algebraic_eq_ok_iff.mp h
  refine ⟨⟨Infix.separated_of_derives, Infix.derives_of_separated hplan hread⟩, ?_⟩
  obtain ⟨tree, rfl⟩ := Stack.exists_tree_of_read
    (fun text hmem => Infix.exists_digits_of_mem_tokens hplan hmem) hread
  have hwritten : tree.IsWritten tree.infixText := ⟨false, tree.writes_infixText⟩
  refine ⟨tree.infixText, (Infix.derives_of_writes tree.writes_infixText).expression, ?_⟩
  rw [Plan.ofInfix, Plan.ofInfix, hplan,
    Infix.tokens_of_isWritten (basic_singleCharacter.mono (by simp)) hwritten]

/-- A text that is an expression, and one that only has the plan of an expression. -/
theorem derives_iff_separated_sums :
    basic.calculate .algebraic "(1+2)*3" = .ok "9" ∧ Infix.Derives .expression "(1+2)*3" ∧
    basic.calculate .algebraic "+4(2)" = .ok "6" ∧
    ∃ other, Infix.Derives .expression other ∧
      Plan.ofInfix .basic other = Plan.ofInfix .basic "+4(2)" := by
  have hproduct : basic.calculate .algebraic "(1+2)*3" = .ok "9" :=
    calculate_algebraic_eq_ok_iff.mpr ⟨_, rfl, rfl⟩
  have hsum : basic.calculate .algebraic "+4(2)" = .ok "6" :=
    calculate_algebraic_eq_ok_iff.mpr ⟨_, rfl, rfl⟩
  have hlexemes : Infix.lexemes .basic "(1+2)*3" = [.opening, .operand "1",
      .operator ⟨"+", 0, Number.add⟩, .operand "2", .closing, .operator ⟨"*", 1, Number.mul⟩,
      .operand "3"] := rfl
  have hseparated : Infix.Separated (Infix.lexemes .basic "(1+2)*3") := by
    rw [hlexemes]
    simp [Infix.Separated, Infix.Lexeme.endsOperand, Infix.Lexeme.startsOperand]
  exact ⟨hproduct, (derives_iff_separated hproduct).1.mpr hseparated, hsum,
    (derives_iff_separated hsum).2⟩

/-- Two operands are neighbours, and an operator behind them adds them up: a value, but no
expression. -/
theorem not_derives_neighbours :
    basic.calculate .algebraic "(1)(2)+" = .ok "3" ∧ ¬ Infix.Derives .expression "(1)(2)+" := by
  refine ⟨calculate_algebraic_eq_ok_iff.mpr ⟨_, rfl, rfl⟩, fun h => ?_⟩
  have hlexemes : Infix.lexemes .basic "(1)(2)+" = [.opening, .operand "1", .closing, .opening,
      .operand "2", .closing, .operator ⟨"+", 0, Number.add⟩] := rfl
  have hseparated := Infix.separated_of_derives h
  rw [hlexemes] at hseparated
  simp [Infix.Separated, Infix.Lexeme.endsOperand, Infix.Lexeme.startsOperand] at hseparated

end Operators
end Abacus
