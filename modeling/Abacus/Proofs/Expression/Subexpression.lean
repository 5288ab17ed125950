import Abacus.Proofs.Expression.BothNotations
import Abacus.Proofs.Expression.DigitLimit

/-!
# Subexpressions

An expression in parentheses counts for its value and nothing else
(`Operators.calculate_enclosed_value`), whatever surrounds it.

- `Infix.read_over_opening`: nothing that is read behind an opening parenthesis looks further down
  than that parenthesis.
- `Infix.tokens_around`: so what surrounds a subexpression puts its own tokens before and behind
  those of the subexpression, or is complained about, whichever subexpression it is.
- `Stack.evaluate_around`: the stack machine on its part does not look below what the subexpression
  put on the stack.

Two expressions with the same surroundings are complained about alike, but for the expression that
the complaint tells; `Failure.fault` leaves that out.
-/

namespace Abacus

variable {ops : Operators}

/-! ## Reading behind an opening parenthesis

What pends below an opening parenthesis is not taken before that parenthesis is closed. So a
subexpression in parentheses is read as if nothing pended, and leaves nothing pending but what did
before. -/

namespace Infix

theorem takeWhile_over {p : Pending → Bool} (h : p .opened = false) (inner outer : List Pending) :
    (inner ++ .opened :: outer).takeWhile p = inner.takeWhile p := by
  induction inner with
  | nil => simp [h]
  | cons first inner ih => simp [List.takeWhile_cons, ih]

theorem dropWhile_over {p : Pending → Bool} (h : p .opened = false) (inner outer : List Pending) :
    (inner ++ .opened :: outer).dropWhile p = inner.dropWhile p ++ .opened :: outer := by
  induction inner with
  | nil => simp [h]
  | cons first inner ih =>
    rw [List.cons_append, List.dropWhile_cons, List.dropWhile_cons, ih]
    split <;> rfl

/-- A lexeme that can be read has the same effect above an opening parenthesis. -/
theorem step_over_opening {pending next : List Pending} {lexeme : Lexeme} {emitted : List Token}
    (h : step pending lexeme = .ok (emitted, next)) (outer : List Pending) :
    step (pending ++ .opened :: outer) lexeme = .ok (emitted, next ++ .opened :: outer) := by
  cases lexeme with
  | operand text =>
    cases h
    rfl
  | operator op =>
    cases h
    rw [step, takeWhile_over rfl, dropWhile_over rfl]
    rfl
  | opening =>
    cases h
    rfl
  | closing =>
    rw [step, takeWhile_over rfl, dropWhile_over rfl]
    rw [step] at h
    cases hdrop : pending.dropWhile (!·.isOpened) with
    | nil =>
      rw [hdrop] at h
      cases h
    | cons top rest =>
      rw [hdrop] at h
      cases h
      rfl
  | foreign => cases h

/-- **What was read before an opening parenthesis** is of no account until that one is closed. -/
theorem read_over_opening {pending next : List Pending} {xs : List Lexeme} {emitted : List Token}
    (h : read pending xs = .ok (emitted, next)) (outer : List Pending) :
    read (pending ++ .opened :: outer) xs = .ok (emitted, next ++ .opened :: outer) := by
  induction xs generalizing pending emitted with
  | nil =>
    cases h
    rfl
  | cons x rest ih =>
    obtain ⟨⟨first, middle⟩, hstep, h⟩ := Outcome.bind_eq_ok h
    obtain ⟨⟨later, last⟩, hread, h⟩ := Outcome.bind_eq_ok h
    cases h
    exact read_cons_ok (step_over_opening hstep outer) (ih hread)

/-- An expression in parentheses has the tokens that it has alone. -/
theorem read_enclosed {expression : String} {plan : List Token}
    (h : tokens ops expression = .ok plan) (hgroup : ∀ symbol, .group symbol ∉ plan)
    (pending : List Pending) :
    read pending (.opening :: (lexemes ops expression ++ [.closing])) = .ok (plan, pending) := by
  obtain ⟨emitted, final, hread, rfl⟩ := tokens_eq_ok h
  have hfinal := isOpened_eq_false fun symbol hmem => hgroup symbol (List.mem_append_right _ hmem)
  have hclosing : read (final ++ .opened :: pending) [.closing]
      = .ok (final.map Pending.token, pending) := by
    simpa using read_cons_ok (step_closing hfinal pending) (rfl : read pending [] = _)
  have hopening : step pending .opening = .ok ([], .opened :: pending) := rfl
  simpa using read_cons_ok hopening (read_append_ok (read_over_opening hread pending) hclosing)

section
variable (hops : ops.SingleCharacter ['(', ')'])
include hops

theorem lexemes_around (u s v : String) :
    lexemes ops (u ++ "(" ++ s ++ ")" ++ v)
      = lexemes ops u ++ (.opening :: (lexemes ops s ++ [.closing])) ++ lexemes ops v := by
  rw [lexemes_append_closing hops, lexemes_append_opening hops]
  simp

/-- **Around a subexpression**, an expression is complained about, or has its own tokens before and
behind those of the subexpression, in the same way for all subexpressions that have a plan and
close their parentheses. -/
theorem tokens_around (u v : String) :
    (∃ c, ∀ s plan, tokens ops s = .ok plan → (∀ symbol, .group symbol ∉ plan) →
      tokens ops (u ++ "(" ++ s ++ ")" ++ v) = .error c) ∨
    ∃ before after, ∀ s plan, tokens ops s = .ok plan → (∀ symbol, .group symbol ∉ plan) →
      tokens ops (u ++ "(" ++ s ++ ")" ++ v) = .ok (before ++ (plan ++ after)) := by
  -- the subexpression leaves the pending stack of `u` as it is, so that `v` is read in the same way
  -- whatever stood in the parentheses
  cases hu : read [] (lexemes ops u) with
  | error c =>
    refine .inl ⟨c, fun s plan _ _ => ?_⟩
    rw [tokens, lexemes_around hops, List.append_assoc, read_append, hu]
    rfl
  | ok result =>
    obtain ⟨before, pending⟩ := result
    have hread {s : String} {plan : List Token} (h : tokens ops s = .ok plan)
        (hgroup : ∀ symbol, .group symbol ∉ plan) :=
      read_append_ok hu (read_enclosed h hgroup pending)
    cases hv : read pending (lexemes ops v) with
    | error c =>
      refine .inl ⟨c, fun s plan h hgroup => ?_⟩
      rw [tokens, lexemes_around hops, read_append, hread h hgroup]
      simp only [bind, Except.bind, hv]
    | ok result =>
      obtain ⟨emitted, final⟩ := result
      refine .inr ⟨before, emitted ++ final.map Pending.token, fun s plan h hgroup => ?_⟩
      rw [tokens, lexemes_around hops, read_append_ok (hread h hgroup) hv]
      simp [bind, Except.bind, pure, Except.pure]

end

end Infix

/-! ## Calculation -/

/-- What a failure says apart from which expression it is about. Two expressions that differ in a
part cannot be complained about in the same words, as a complaint tells the expression. -/
def Failure.fault : Failure → Fault
  | .expression e => .complaint e.complaint
  | .numeral e => .numeral e

theorem Failure.fault_within (expression : String) (fault : Fault) :
    (fault.within expression).fault = fault := by
  cases fault <;> rfl

namespace Operators

/-- An expression that is complained about as it is read. -/
theorem calculate_of_tokens_error {expression : String} {c : Complaint}
    (h : Infix.tokens ops expression = .error c) :
    (ops.calculate .algebraic expression).mapError Failure.fault = .error (.complaint c) := by
  have hplan : Plan.ofExpression ops .algebraic expression = .error c := by
    rw [Plan.ofExpression, Plan.ofInfix, h]
    rfl
  rw [calculate_of_complaint hplan]
  rfl

/-- An expression with a plan is calculated as its plan is evaluated. -/
theorem calculate_of_tokens {expression : String} {plan : List Token}
    (h : Infix.tokens ops expression = .ok plan) :
    (ops.calculate .algebraic expression).mapError Failure.fault = Stack.evaluate ops plan := by
  have hplan : Plan.ofExpression ops .algebraic expression = .ok ⟨plan⟩ := by
    rw [Plan.ofExpression, Plan.ofInfix, h]
    rfl
  rw [calculate_of_plan hplan]
  cases Stack.evaluate ops plan with
  | ok text => rfl
  | error fault => exact congrArg Except.error (Failure.fault_within expression fault)

/-- **A subexpression counts for its value**: in parentheses, a subexpression whose value is a run
of digits may be replaced by that value, whatever stands before and behind it. What the whole comes
to is the same, and so is what it fails with, apart from the expression that the complaint is about.
-/
theorem calculate_enclosed_value {s value : String} (hs : basic.calculate .algebraic s = .ok value)
    (hvalue : ∀ c ∈ value.toList, c.isDigit = true) (u v : String) :
    (basic.calculate .algebraic (u ++ "(" ++ s ++ ")" ++ v)).mapError Failure.fault
      = (basic.calculate .algebraic (u ++ "(" ++ value ++ ")" ++ v)).mapError Failure.fault := by
  obtain ⟨ds, rfl⟩ : ∃ ds : Digits, value = ds.text := by
    refine ⟨⟨value.toList, ?_, hvalue⟩, String.ofList_toList.symm⟩
    intro hnil
    exact (isLegible_of_calculate hs).ne_empty (String.toList_injective hnil)
  obtain ⟨plan, hplan, hread⟩ := calculate_algebraic_eq_ok_iff.mp hs
  have hops : basic.SingleCharacter ['(', ')'] := basic_singleCharacter.mono (by simp)
  have hdigits : Infix.tokens .basic ds.text = .ok [.operand ds.text] :=
    Infix.tokens_of_isWritten hops ⟨_, .operand ds⟩
  have hgroup := Stack.group_notMem_of_read hread
  have hnogroup : ∀ symbol, .group symbol ∉ [Token.operand ds.text] := by simp
  -- both are complained about as `u` and `v` are, or evaluated among the same tokens
  rcases Infix.tokens_around hops u v with ⟨c, haround⟩ | ⟨before, after, haround⟩
  · rw [calculate_of_tokens_error (haround s plan hplan hgroup),
      calculate_of_tokens_error (haround _ _ hdigits hnogroup)]
  · rw [calculate_of_tokens (haround s plan hplan hgroup),
      calculate_of_tokens (haround _ _ hdigits hnogroup), Stack.evaluate_around hread]
    rfl

/-- A sum and a product stand for their value also where the whole has none. -/
theorem calculate_enclosed_value_dividend :
    basic.calculate .algebraic "2+3*4" = .ok "14" ∧
    (basic.calculate .algebraic "(100-(2+3*4))/0").mapError Failure.fault
      = (basic.calculate .algebraic "(100-(14))/0").mapError Failure.fault := by
  have hs : basic.calculate .algebraic "2+3*4" = .ok "14" :=
    calculate_algebraic_eq_ok_iff.mpr ⟨_, rfl, rfl⟩
  exact ⟨hs, calculate_enclosed_value hs (by simp) "(100-" ")/0"⟩

end Operators
end Abacus
