import Abacus.Proofs.Expression.Calculation
import Abacus.Proofs.Expression.PostfixLexing
import Mathlib.Data.List.TakeWhile

/-!
# The form of postfix expressions

What the characters of a postfix expression must be like for it to have a value. The reader itself
asks for less (specification §4.2); here the plan must also be one that can be reduced.

- `Postfix.operatorAt?_of_read`: the first character is not a symbol, because the plan would not
  start with an operand.
- `Postfix.exists_digits_of_read`: an operand after the first one needs a space before it, so that
  without any space there is a single operand and nothing else.
-/

namespace Abacus
namespace Postfix

variable {ops : Operators}

/-- No expression with a value starts with a symbol. -/
theorem operatorAt?_of_read (hops : ops.SingleCharacter [' ']) {c : Char} {cs : List Char}
    {plan : List Token} {text : String} (h : tokens ops (c :: cs) = .ok plan)
    (hread : Stack.read ops [] plan = .ok [text]) : (operatorAt? ops c).isSome = false := by
  obtain ⟨-, -, rfl⟩ := (tokens_eq_ok_iff hops).mp h
  cases hc : operatorAt? ops c with
  | none => rfl
  | some op =>
    have hdigit : c.isDigit = false := isDigit_eq_false hops (.inr (by rw [hc]; rfl))
    rw [Operators.terms_cons_symbol hdigit hc] at hread
    cases Stack.isOperand_of_read hread

/-- An operator that follows a single operand cannot be applied. -/
theorem read_operand_operator_ne_ok (text symbol : String) (rest : List Token)
    (next : List String) :
    Stack.read ops [] (.operand text :: .operator symbol :: rest) ≠ .ok next := by
  intro h
  obtain ⟨stack, hstep, -⟩ := Outcome.bind_eq_ok h
  rw [Stack.step_of_length_lt (by simp) rfl] at hstep
  cases hstep

/-- **Without a space** there is one operand and nothing else. -/
theorem exists_digits_of_read (hops : ops.SingleCharacter [' ']) {cs : List Char}
    (hspace : ' ' ∉ cs) {plan : List Token} {text : String} (h : tokens ops cs = .ok plan)
    (hread : Stack.read ops [] plan = .ok [text]) : ∃ ds : Digits, cs = ds.chars := by
  have hcs := (List.takeWhile_append_dropWhile (p := Char.isDigit) (l := cs)).symm
  have hdigits : ∀ c ∈ cs.takeWhile Char.isDigit, c.isDigit = true := fun c hc =>
    List.mem_takeWhile_imp hc
  cases hrest : cs.dropWhile Char.isDigit with
  | nil =>
    rw [hrest, List.append_nil] at hcs
    refine ⟨⟨cs, ?_, fun c hc => hdigits c (hcs ▸ hc)⟩, rfl⟩
    rintro rfl
    cases h
    cases hread
  | cons c rest =>
    -- the first character that is no digit is a symbol, as it is no space
    have hmem : c ∈ cs := by
      rw [hcs, hrest]
      simp
    have hnot : c.isDigit = false := by
      have := List.head?_dropWhile_not Char.isDigit cs
      rw [hrest] at this
      simpa using this
    obtain ⟨op, hop⟩ : ∃ op, operatorAt? ops c = some op := by
      rcases ((tokens_eq_ok_iff hops).mp h).1.admitted c hmem with hdigit | rfl | hsymbol
      · rw [hnot] at hdigit
        cases hdigit
      · exact absurd hmem hspace
      · exact Option.isSome_iff_exists.mp hsymbol
    rw [hrest] at hcs
    cases hwhile : cs.takeWhile Char.isDigit with
    | nil =>
      -- it is the first character of all
      rw [hwhile, List.nil_append] at hcs
      rw [hcs] at h
      have hfirst := operatorAt?_of_read hops h hread
      rw [hop] at hfirst
      cases hfirst
    | cons d ds =>
      -- an operand stands before it, and there is no other one for it
      let operand : Digits := ⟨cs.takeWhile Char.isDigit, by simp [hwhile], hdigits⟩
      have hterms : ops.terms (operand.chars ++ c :: rest)
          = .operand operand.text :: ops.terms (c :: rest) :=
        Operators.terms_append_digits operand (by simpa using hnot)
      rw [Operators.terms_cons_symbol hnot hop, ← hcs] at hterms
      rw [((tokens_eq_ok_iff hops).mp h).2.2, hterms] at hread
      exact absurd hread (read_operand_operator_ne_ok _ _ _ _)

end Postfix
end Abacus
