import Abacus.Proofs.Expression.Acceptance
import Abacus.Proofs.Expression.Pieces
import Abacus.Proofs.Expression.WellFormed

/-!
# Expressions without juxtaposition

Between some lexemes there is something missing: an operator between an operand or a closing
parenthesis and an opening one behind it, or between a closing parenthesis and an operand behind it,
and whatever two parentheses should have inside. Two operands are never neighbours without a
parenthesis, as digits that are neighbours are one operand. So a text in which nothing is juxtaposed
has no operands that are neighbours (`Infix.separated_of_unjuxtaposed`). What has a value among such
texts are thus the expressions of the grammar only; and those are never complained about for how
they are put together (`Operators.calculate_unjuxtaposed`).

The checks meant are those for characters and parentheses that the reader makes (specification §4.1)
and those for operands that the reduction makes (§4.3). What remains to be complained about in an
expression of the grammar is what an operator computes.
-/

namespace Abacus

/-! ## Juxtaposition -/

namespace Infix

variable {ops : Operators}

/-- Whether something is missing between a lexeme and the one behind it: an operator, or what two
parentheses should have inside. Two runs of digits are never neighbours, since a run goes on as far
as it can. -/
def Lexeme.isJuxtaposed : Lexeme → Lexeme → Bool
  | .operand _, .opening => true
  | .closing, .operand _ => true
  | .closing, .opening => true
  | .opening, .closing => true
  | _, _ => false

/-- Whether nothing is missing between any lexeme and the next one. -/
def Unjuxtaposed (xs : List Lexeme) : Prop :=
  xs.IsChain fun a b => a.isJuxtaposed b = false

/-- Where an operand ends and the next one starts, a parenthesis is one of the two lexemes. -/
theorem Lexeme.not_ends_and_starts {a b : Lexeme} (h : a.isJuxtaposed b = false)
    (hparenthesis : a = .closing ∨ ∀ text, b ≠ .operand text) :
    ¬ (a.endsOperand = true ∧ b.startsOperand = true) := by
  rintro ⟨hends, hstarts⟩
  cases a <;> cases hends <;> cases b <;> cases hstarts <;> simp_all [isJuxtaposed]

section
variable (hops : ops.SingleCharacter ['(', ')'])
include hops

theorem ofPiece_delimiter_ne_operand {d : Char} (hd : d ∈ delimiters ops) (text : String) :
    Lexeme.ofPiece ops [d] ≠ .operand text := by
  rcases ofPiece_delimiter hops hd with ⟨op, -, -, -, h⟩ | ⟨-, h⟩ | ⟨-, h⟩ <;> rw [h] <;> nofun

/-- **A text without juxtaposition has no two operands that are neighbours.** A run ends where a
delimiter follows, so of two operands that are neighbours one ends or starts with a parenthesis, and
that is what juxtaposition is. -/
theorem separated_of_unjuxtaposed {cs : List Char} (h : Unjuxtaposed (lexed ops cs)) :
    Separated (lexed ops cs) := by
  induction cs using pieces_induction ops with
  | nil => exact List.isChain_nil
  | delimiter d cs hd ih =>
    rw [lexed_delimiter hd] at h ⊢
    obtain ⟨hnext, hrest⟩ := List.isChain_cons.mp h
    refine List.isChain_cons.mpr ⟨fun y hy => ?_, ih hrest⟩
    -- no operand ends with a delimiter but with a closing parenthesis
    rcases ofPiece_delimiter hops hd with ⟨op, -, -, -, hx⟩ | ⟨-, hx⟩ | ⟨-, hx⟩
    · rw [hx]
      rintro ⟨⟨⟩, -⟩
    · rw [hx]
      rintro ⟨⟨⟩, -⟩
    · exact Lexeme.not_ends_and_starts (hnext y hy) (.inl hx)
  | run run cs hne hrun hcs ih =>
    rw [lexed_run hne hrun hcs] at h ⊢
    obtain ⟨hnext, hrest⟩ := List.isChain_cons.mp h
    refine List.isChain_cons.mpr ⟨fun y hy => ?_, ih hrest⟩
    refine Lexeme.not_ends_and_starts (hnext y hy) (.inr ?_)
    -- a delimiter follows the run
    cases cs with
    | nil => cases hy
    | cons d cs =>
      have hd : d ∈ delimiters ops := hcs d rfl
      rw [lexed_delimiter hd] at hy
      obtain rfl := Option.some.inj hy
      exact ofPiece_delimiter_ne_operand hops hd

end

end Infix

/-! ## Calculation -/

namespace Operators

/-- An expression of the grammar is complained about only for what an operator cannot compute. -/
theorem complaint_of_derives {expression : String} (h : Infix.Derives .expression expression)
    {e : ExpressionError} (he : basic.calculate .algebraic expression = .error (.expression e)) :
    ∃ cause, e.complaint = .ofArithmetic cause := by
  obtain ⟨tree, hwritten⟩ := Infix.derives_iff_exists_isWritten.mp h
  have hplan : Plan.ofExpression basic .algebraic expression = .ok ⟨tree.postorder⟩ :=
    congrArg (Except.map Plan.mk)
      (Infix.tokens_of_isWritten (basic_singleCharacter.mono (by simp)) hwritten)
  rw [calculate_of_plan hplan, ← Plan.reduce_eq_evaluate] at he
  obtain ⟨fault, hfault, hwithin⟩ := Outcome.mapError_eq_error he
  cases fault with
  | numeral e => cases hwithin
  | complaint c =>
    cases hwithin
    exact tree.isWellFormed_postorder.complaint_of_reduce hfault

/-- **Without juxtaposition, the checks are exact**: a text that is no expression of the grammar has
no value, and one that is an expression is not complained about for its structure. -/
theorem calculate_unjuxtaposed {expression : String}
    (h : Infix.Unjuxtaposed (Infix.lexemes basic expression)) :
    (¬ Infix.Derives .expression expression →
      ∀ value, basic.calculate .algebraic expression ≠ .ok value) ∧
    (Infix.Derives .expression expression →
      ∀ e, basic.calculate .algebraic expression = .error (.expression e) →
        e.complaint.detail ∉ ["Unallowed character in expression",
          "Unbalanced parenthesis in expression", "Empty expression",
          "Error while reducing expression"]) := by
  refine ⟨fun hnot value hvalue => hnot ?_, fun hderives e he => ?_⟩
  · obtain ⟨plan, hplan, hread⟩ := calculate_algebraic_eq_ok_iff.mp hvalue
    have hops : basic.SingleCharacter ['(', ')'] := basic_singleCharacter.mono (by simp)
    exact Infix.derives_of_separated hplan hread (Infix.separated_of_unjuxtaposed hops h)
  · obtain ⟨cause, hcause⟩ := complaint_of_derives hderives he
    rw [hcause]
    cases cause <;> decide

/-- An operand is missing, which is found by reducing: so the text is no expression. A quotient that
is one is complained about, but not for its structure. -/
theorem calculate_unjuxtaposed_products :
    (¬ Infix.Derives .expression "8*(3-)" ∧
      ∀ value, basic.calculate .algebraic "8*(3-)" ≠ .ok value) ∧
    Infix.Derives .expression "8/(3-3)" ∧
    ∃ e, basic.calculate .algebraic "8/(3-3)" = .error (.expression e) ∧
      e.complaint.detail ∉ ["Unallowed character in expression",
        "Unbalanced parenthesis in expression", "Empty expression",
        "Error while reducing expression"] := by
  have hproduct : Infix.lexemes basic "8*(3-)" = [.operand "8", .operator ⟨"*", 1, Number.mul⟩,
      .opening, .operand "3", .operator ⟨"-", 0, Number.sub⟩, .closing] := rfl
  have hquotient : Infix.lexemes basic "8/(3-3)" = [.operand "8", .operator ⟨"/", 1, Number.div⟩,
      .opening, .operand "3", .operator ⟨"-", 0, Number.sub⟩, .operand "3", .closing] := rfl
  have hfirst : Infix.Unjuxtaposed (Infix.lexemes basic "8*(3-)") := by
    rw [hproduct]
    simp [Infix.Unjuxtaposed, Infix.Lexeme.isJuxtaposed]
  have hsecond : Infix.Unjuxtaposed (Infix.lexemes basic "8/(3-3)") := by
    rw [hquotient]
    simp [Infix.Unjuxtaposed, Infix.Lexeme.isJuxtaposed]
  have hincomplete : Plan.ofExpression basic .algebraic "8*(3-)"
      = .ok ⟨[.operand "8", .operand "3", .operator "-", .operator "*"]⟩ := rfl
  have hcomplete : Plan.ofExpression basic .algebraic "8/(3-3)"
      = .ok ⟨[.operand "8", .operand "3", .operand "3", .operator "-", .operator "/"]⟩ := rfl
  have hnot : ¬ Infix.Derives .expression "8*(3-)" := fun h =>
    (calculate_unjuxtaposed hfirst).2 h ⟨.irreducible, _⟩ (calculate_of_plan hincomplete)
      (by decide)
  have hthree : Infix.Derives .factor "3" := .digits (.ofChars ['3'] (by decide))
  have hdifference : Infix.Derives .expression ("3" ++ "-" ++ "3") :=
    .sum hthree.expression (by simp [Infix.additive]) hthree.factor
  have hderives : Infix.Derives .expression "8/(3-3)" :=
    Infix.Derives.term (.product (.factor (.digits (.ofChars ['8'] (by decide))))
      (by simp [Infix.multiplicative] : "/" ∈ Infix.multiplicative) (.enclosed hdifference))
  have hdivision : basic.calculate .algebraic "8/(3-3)"
      = .error (.expression ⟨.divisionByZero, "8/(3-3)"⟩) := calculate_of_plan hcomplete
  exact ⟨⟨hnot, (calculate_unjuxtaposed hfirst).1 hnot⟩, hderives, _, hdivision,
    (calculate_unjuxtaposed hsecond).2 hderives _ hdivision⟩

end Operators
end Abacus
