import Abacus.Proofs.Expression.InfixReading
import Abacus.Proofs.Expression.RoundTrip

/-!
# Expressions in both notations

The same text can be given in either notation, and the notation has to be told (specification §6).
Telling the wrong one is found out unless it makes no difference: an expression that has a value in
both notations is a single operand and is worth itself
(`Operators.exists_digits_of_calculate_both`). An infix expression has no spaces
(`Infix.space_notMem_of_tokens`), and without spaces a postfix expression has no room for a second
operand.
-/

namespace Abacus

variable {ops : Operators}

namespace Infix

/-! ## Characters of infix expressions -/

/-- A proper lexeme is written with digits or with a delimiter. -/
theorem mem_text_of_isProper {lexeme : Lexeme} (h : lexeme.IsProper ops) {c : Char}
    (hc : c ∈ lexeme.text.toList) : c.isDigit = true ∨ c ∈ delimiters ops := by
  cases lexeme with
  | operand text =>
    obtain ⟨ds, rfl⟩ := h
    rw [Lexeme.text, Digits.text, String.toList_ofList] at hc
    exact .inl (ds.isDigit c hc)
  | operator op =>
    refine .inr (List.mem_append_left _ (List.mem_flatMap.mpr ⟨op.symbol, ?_, hc⟩))
    exact List.mem_map_of_mem h
  | opening =>
    obtain rfl : c = '(' := by simpa [Lexeme.text] using hc
    exact .inr (List.mem_append_right _ (by simp))
  | closing =>
    obtain rfl : c = ')' := by simpa [Lexeme.text] using hc
    exact .inr (List.mem_append_right _ (by simp))
  | foreign => exact h.elim

/-- An infix expression that has a plan consists of digits and delimiters. -/
theorem isDigit_or_mem_delimiters {expression : String} {plan : List Token}
    (h : tokens ops expression = .ok plan) :
    ∀ c ∈ expression.toList, c.isDigit = true ∨ c ∈ delimiters ops := by
  obtain ⟨emitted, final, hread, -⟩ := tokens_eq_ok h
  intro c hc
  rw [← written_lexemes (foreign_notMem_of_read hread), written, String.toList_ofList] at hc
  obtain ⟨lexeme, hlexeme, hc⟩ := List.mem_flatMap.mp hc
  exact mem_text_of_isProper (isProper_of_read hread lexeme hlexeme) hc

/-- No operator is written as a space. -/
theorem space_notMem_delimiters (hops : ops.SingleCharacter [' ']) : ' ' ∉ delimiters ops := by
  intro hmem
  rcases List.mem_append.mp hmem with hmem | hmem
  · obtain ⟨symbol, hsymbol, hspace⟩ := List.mem_flatMap.mp hmem
    obtain ⟨op, hop, rfl⟩ := List.mem_map.mp hsymbol
    obtain ⟨c, hc, -, hreserved⟩ := hops op hop
    rw [hc, String.toList_singleton, List.mem_singleton] at hspace
    exact hreserved (hspace ▸ List.mem_singleton_self _)
  · simp at hmem

/-- An infix expression that has a plan has no spaces. -/
theorem space_notMem_of_tokens (hops : ops.SingleCharacter [' ']) {expression : String}
    {plan : List Token} (h : tokens ops expression = .ok plan) : ' ' ∉ expression.toList := by
  intro hspace
  rcases isDigit_or_mem_delimiters h ' ' hspace with hdigit | hmem
  · cases hdigit
  · exact space_notMem_delimiters hops hmem

end Infix

namespace Operators

/-! ## Values -/

/-- A run of digits is worth itself, in both notations. -/
theorem calculate_digits (hops : ops.SingleCharacter ['(', ')', ' ']) (form : Notation)
    (ds : Digits) : ops.calculate form ds.text = .ok ds.text := by
  cases form with
  | algebraic =>
    exact calculate_algebraic_eq_ok_iff.mpr
      ⟨_, Infix.tokens_of_isWritten (hops.mono (by simp)) ⟨_, .operand ds⟩, rfl⟩
  | reversePolish =>
    have htokens : Postfix.tokens ops (Plan.mk [.operand ds.text]).text.toList
        = .ok [.operand ds.text] :=
      Postfix.tokens_text (hops.mono (by simp)) (by simp [Token.isOperand])
        (by simpa using ⟨ds, rfl⟩)
    exact calculate_reversePolish_eq_ok_iff.mpr ⟨_, htokens, rfl⟩

/-- **No expression has different values** in the two notations: one that has a value in both is a
run of digits, and is worth itself in both. A space is foreign to infix expressions, and without one
a postfix expression has a single operand (`Postfix.exists_digits_of_read`). -/
theorem exists_digits_of_calculate_both {expression a b : String}
    (ha : basic.calculate .algebraic expression = .ok a)
    (hb : basic.calculate .reversePolish expression = .ok b) :
    ∃ ds : Digits, expression = ds.text ∧ a = expression ∧ b = expression := by
  obtain ⟨_, halgebraic, -⟩ := calculate_algebraic_eq_ok_iff.mp ha
  obtain ⟨_, hpolish, hread⟩ := calculate_reversePolish_eq_ok_iff.mp hb
  have hspace := Infix.space_notMem_of_tokens (basic_singleCharacter.mono (by simp)) halgebraic
  obtain ⟨ds, hds⟩ := Postfix.exists_digits_of_read (basic_singleCharacter.mono (by simp)) hspace
    hpolish hread
  obtain rfl : expression = ds.text := String.toList_injective (by simp [hds, Digits.text])
  rw [calculate_digits basic_singleCharacter] at ha hb
  exact ⟨ds, rfl, (Except.ok.inj ha).symm, (Except.ok.inj hb).symm⟩

/-- Leading zeros are kept: an operand is worth the text that it is. -/
theorem exists_digits_of_calculate_both_zeros :
    basic.calculate .algebraic "0042" = .ok "0042" ∧
    basic.calculate .reversePolish "0042" = .ok "0042" ∧
    ∃ ds : Digits, "0042" = ds.text := by
  have halgebraic := calculate_digits basic_singleCharacter .algebraic
    (.ofChars ['0', '0', '4', '2'] (by decide))
  have hpolish := calculate_digits basic_singleCharacter .reversePolish
    (.ofChars ['0', '0', '4', '2'] (by decide))
  obtain ⟨ds, hds, -, -⟩ := exists_digits_of_calculate_both halgebraic hpolish
  exact ⟨halgebraic, hpolish, ds, hds⟩

end Operators
end Abacus
