import Abacus.Proofs.Expression.DigitLimit
import Abacus.Proofs.Expression.ExactValue
import Abacus.Proofs.Expression.Inventory

/-!
# Expressions without division

A sum, a difference or a product of two integers has no more digits than the two have together. So
as an expression without division is evaluated, the digits of the texts on the stack and of the
operands that have not been read never get more: they are those of the expression in the beginning,
whichever notation it is read in. An expression that has no more digits than can be read and written
thus is evaluated to an integer, or it is complained about for what it is, and never for what its
operators compute (`Operators.calculate_divisionFree`).

- `exists_exactly`: the bound on the digits of one result.
- `Stack.Fits`: the invariant of the machine. It bounds the digits on the stack together with those
  that are not read yet, since neither count alone is bounded as the run goes on.
- `Stack.Fits.step`, `Stack.Fits.read`: a step keeps it, and so does a run.
- `Plan.digits_of_ofExpression`: it holds in the beginning.
-/

namespace Abacus

/-! ## Counting digits

The digits of an expression bound the digits of all that is computed from it. They are counted in
texts, where a sign is none and leading zeros are some. -/

/-- The number of digits of a text. -/
def digitCount (text : String) : Nat :=
  text.toList.countP Char.isDigit

theorem digitCount_signed (negative : Bool) (ds : Digits) :
    digitCount (ds.signed negative) = ds.chars.length := by
  have hsign : (Binary64.signChars negative).countP Char.isDigit = 0 := by
    cases negative <;> rfl
  rw [digitCount, Digits.signed, String.toList_ofList, List.countP_append, hsign, Nat.zero_add]
  exact List.countP_eq_length.mpr ds.isDigit

/-- An integer below a power of ten has no more digits than its exponent. -/
theorem digitCount_toString_le {n : Int} {k : Nat} (hk : 0 < k) (h : n.natAbs < 10 ^ k) :
    digitCount (toString n) ≤ k := by
  rw [Digits.toString_eq_signed, digitCount_signed]
  exact (Nat.length_toDigits_le_iff (by decide) hk).mpr h

/-- The number of digits that a token brings to the stack: those of an operand, leading zeros
included. -/
def Token.digits : Token → Nat
  | .operand text => digitCount text
  | .operator _ => 0
  | .group _ => 0

/-- The number of digits of the operands among some tokens. -/
def Token.totalDigits (tokens : List Token) : Nat :=
  (tokens.map digits).sum

theorem Token.totalDigits_cons (token : Token) (rest : List Token) :
    totalDigits (token :: rest) = token.digits + totalDigits rest := rfl

/-- Only operands have digits. -/
theorem Token.totalDigits_filter_isOperand (tokens : List Token) :
    totalDigits (tokens.filter isOperand) = totalDigits tokens := by
  induction tokens with
  | nil => rfl
  | cons token rest ih =>
    cases token with
    | operand text =>
      rw [List.filter_cons_of_pos rfl]
      exact congrArg (digitCount text + ·) ih
    | operator symbol =>
      rw [List.filter_cons_of_neg (by simp [isOperand]), ih]
      exact (Nat.zero_add _).symm
    | group symbol =>
      rw [List.filter_cons_of_neg (by simp [isOperand]), ih]
      exact (Nat.zero_add _).symm

/-- All digits of a text are digits of its terms. -/
theorem Operators.totalDigits_terms (ops : Operators) (cs : List Char) :
    Token.totalDigits (ops.terms cs) = cs.countP Char.isDigit := by
  fun_induction terms ops cs with
  | case1 => rfl
  | case2 c cs hc ih =>
    have hcs : c :: cs = (c :: cs.takeWhile Char.isDigit) ++ cs.dropWhile Char.isDigit := by
      rw [List.cons_append, List.takeWhile_append_dropWhile]
    show digitCount _ + Token.totalDigits _ = _
    rw [ih, digitCount, String.toList_ofList, hcs, List.countP_append]
  | case3 c cs hc op hop ih =>
    rw [List.countP_cons_of_neg hc, ← ih]
    exact Nat.zero_add _
  | case4 c cs hc hop ih => rw [List.countP_cons_of_neg hc, ih]

/-! ## Exact operations -/

theorem add_lt_ten_pow {m n p q : Nat} (hp : 0 < p) (hq : 0 < q) (hm : m < 10 ^ p)
    (hn : n < 10 ^ q) : m + n < 10 ^ (p + q) := by
  have hten {k : Nat} (hk : 0 < k) : 2 ≤ 10 ^ k :=
    Nat.le_trans (by decide) (Nat.pow_le_pow_right (by decide) hk)
  calc m + n < 10 ^ p + 10 ^ q := Nat.add_lt_add hm hn
    _ ≤ 10 ^ p * 10 ^ q := Nat.add_le_mul (hten hp) (hten hq)
    _ = 10 ^ (p + q) := (pow_add 10 p q).symm

/-- **Sums, differences and products** have no more digits than both operands together. -/
theorem exists_exactly {op : Operator} (hop : op ∈ Operators.basic.list) (hsymbol : op.symbol ≠ "/")
    {a b : Int} {p q : Nat} (hp : 0 < p) (hq : 0 < q) (ha : a.natAbs < 10 ^ p)
    (hb : b.natAbs < 10 ^ q) :
    ∃ n, exactly op.symbol a b = .ok n ∧ n.natAbs < 10 ^ (p + q) := by
  have hsum := add_lt_ten_pow hp hq ha hb
  rcases Operators.mem_basic_iff.mp hop with rfl | rfl | rfl | rfl
  · exact ⟨a - b, rfl, by omega⟩
  · exact ⟨a + b, rfl, by omega⟩
  · exact absurd rfl hsymbol
  · refine ⟨a * b, rfl, ?_⟩
    rw [Int.natAbs_mul, pow_add]
    exact Nat.mul_lt_mul_of_lt_of_lt ha hb

/-- An operation on two texts that is one on integers, with a result that can be written. -/
structure Operator.IsExact (op : Operator) (left right : String) (a b n : Int) : Prop where
  left : Number.ofText left = .ok (.int a)
  right : Number.ofText right = .ok (.int b)
  result : op.apply (.int a) (.int b) = .ok (.int n)
  writable : n.natAbs < 10 ^ Number.maxIntegerDigits

theorem Operator.IsExact.evaluate {op : Operator} {left right : String} {a b n : Int}
    (h : op.IsExact left right a b n) : op.evaluate left right = .ok (toString n) := by
  rw [evaluate_int h.left h.right h.result, Number.integerText_eq_toString h.writable]
  rfl

/-! ## The machine

An invariant of the machine, its step and its run. The bound is a sum over the stack and the unread
tokens together, so that a step only has to compare what it takes with what it leaves. -/

namespace Stack

variable {stack next : List String} {token : Token} {rest : List Token}

/-- **What the machine can cope with**: integers on the stack and digits to be read, no division,
and no more digits in all than an integer can have. The sum of the digits is what carries the bound:
no operation makes it grow. -/
structure Fits (stack : List String) (unread : List Token) : Prop where
  integer : ∀ text ∈ stack, ∃ (negative : Bool) (ds : Digits), text = ds.signed negative
  operand : ∀ text, .operand text ∈ unread → ∃ ds : Digits, text = ds.text
  divisionFree : .operator "/" ∉ unread
  digits : (stack.map digitCount).sum + Token.totalDigits unread ≤ Number.maxIntegerDigits

/-- An operator that comes next is exact on the two texts on top, and what it writes has no more
digits than they have. -/
theorem Fits.exists_isExact {op : Operator} {left right : String} {below : List String}
    (h : Fits (right :: left :: below) (.operator op.symbol :: rest))
    (hop : op ∈ Operators.basic.list) :
    ∃ a b n, op.IsExact left right a b n ∧
      digitCount (toString n) ≤ digitCount left + digitCount right := by
  obtain ⟨negative, ls, rfl⟩ := h.integer left (by simp)
  obtain ⟨negative', rs, rfl⟩ := h.integer right (by simp)
  have hdigits := h.digits
  simp only [List.map_cons, List.sum_cons, digitCount_signed] at hdigits
  have hleft : ¬ ls.IsOverlong := by
    rw [Digits.IsOverlong]
    omega
  have hright : ¬ rs.IsOverlong := by
    rw [Digits.IsOverlong]
    omega
  have hsymbol : op.symbol ≠ "/" := by
    intro hsymbol
    exact h.divisionFree (hsymbol ▸ List.mem_cons_self)
  have hpos {ds : Digits} : 0 < ds.chars.length := List.length_pos_iff.mpr ds.ne_nil
  have hvalue (negative : Bool) (ds : Digits) :
      -- leading zeros make the bound no worse
      (Binary64.signed negative ds.value).natAbs < 10 ^ ds.chars.length := by
    rw [Number.natAbs_signed]
    exact ds.value_lt
  obtain ⟨n, hn, hbound⟩ :=
    exists_exactly hop hsymbol hpos hpos (hvalue negative ls) (hvalue negative' rs)
  refine ⟨_, _, n, ⟨Number.ofText_signed hleft negative, Number.ofText_signed hright negative',
    Operator.apply_of_exactly hop hn, Nat.lt_of_lt_of_le hbound ?_⟩, ?_⟩
  · exact Nat.pow_le_pow_right (by decide) (by omega)
  · rw [digitCount_signed, digitCount_signed]
    exact digitCount_toString_le (Nat.add_pos_left hpos _) hbound

/-- **A step** leaves a stack that the machine can cope with. An operand moves its digits to the
stack; an operation leaves one text with no more digits than the two that it takes. -/
theorem Fits.step (h : Fits stack (token :: rest)) (hstep : step .basic stack token = .ok next) :
    Fits next rest := by
  have hdigits := h.digits
  have hoperand : ∀ text, .operand text ∈ rest → ∃ ds : Digits, text = ds.text :=
    fun text htext => h.operand text (List.mem_cons_of_mem _ htext)
  have hdivision : .operator "/" ∉ rest :=
    fun hmem => h.divisionFree (List.mem_cons_of_mem _ hmem)
  rcases step_cases hstep with ⟨text, rfl, rfl⟩ |
    ⟨symbol, op, left, right, below, value, rfl, hop, rfl, hvalue, rfl⟩
  · obtain ⟨ds, rfl⟩ := h.operand text List.mem_cons_self
    refine ⟨List.forall_mem_cons.mpr ⟨⟨false, ds, rfl⟩, h.integer⟩, hoperand, hdivision, ?_⟩
    -- its digits are no longer to be read, but on the stack
    rw [Token.totalDigits_cons, Token.digits] at hdigits
    rw [List.map_cons, List.sum_cons]
    omega
  · obtain ⟨hlisted, rfl⟩ := Operators.find?_eq_some_iff.mp hop
    obtain ⟨a, b, n, hexact, hcount⟩ := h.exists_isExact hlisted
    obtain rfl : toString n = value := Except.ok.inj (hexact.evaluate.symm.trans hvalue)
    have hbelow : ∀ text ∈ below, ∃ (negative : Bool) (ds : Digits), text = ds.signed negative :=
      fun text htext => h.integer text (List.mem_cons_of_mem _ (List.mem_cons_of_mem _ htext))
    refine ⟨List.forall_mem_cons.mpr ⟨⟨_, _, Digits.toString_eq_signed n⟩, hbelow⟩, hoperand,
      hdivision, ?_⟩
    rw [Token.totalDigits_cons, Token.digits] at hdigits
    simp only [List.map_cons, List.sum_cons] at hdigits ⊢
    omega

/-- **A run** leaves one, too: by induction on the tokens, with any stack. -/
theorem Fits.read {tokens : List Token} (h : Fits stack (tokens ++ rest))
    (hread : read .basic stack tokens = .ok next) : Fits next rest := by
  induction tokens generalizing stack with
  | nil =>
    obtain rfl := Except.ok.inj hread
    exact h
  | cons token tokens ih =>
    obtain ⟨middle, hstep, hread⟩ := Outcome.bind_eq_ok hread
    exact ih (h.step hstep) hread

/-- Each operator that is applied is exact. -/
theorem Fits.exists_of_applies {tokens : List Token} (h : Fits [] tokens) {op : Operator}
    {left right : String} (happlies : Applies .basic tokens op left right) :
    ∃ a b n, op.IsExact left right a b n := by
  obtain ⟨front, back, below, rfl, hop, hfront⟩ := happlies
  obtain ⟨a, b, n, hexact, -⟩ := (h.read hfront).exists_isExact hop
  exact ⟨a, b, n, hexact⟩

/-- An evaluation ends with an integer or with a complaint about the tokens, because all integers on
the way can be written and read again. -/
theorem Fits.evaluate {tokens : List Token} (h : Fits [] tokens) :
    (∃ (negative : Bool) (ds : Digits), Stack.evaluate .basic tokens = .ok (ds.signed negative)) ∨
    Stack.evaluate .basic tokens = .error (.complaint .emptyExpression) ∨
    Stack.evaluate .basic tokens = .error (.complaint .irreducible) := by
  -- an empty plan, a run to the end, or a run that stops
  by_cases hnil : tokens = []
  · rw [hnil]
    exact .inr (.inl rfl)
  rw [evaluate_of_ne_nil hnil]
  cases hread : Stack.read .basic [] tokens with
  | ok stack =>
    rw [← List.append_nil tokens] at h
    have hfits := h.read hread
    match stack with
    | [text] =>
      obtain ⟨negative, ds, rfl⟩ := hfits.integer text List.mem_cons_self
      exact .inl ⟨negative, ds, rfl⟩
    | [] => exact .inr (.inr rfl)
    | _ :: _ :: _ => exact .inr (.inr rfl)
  | error fault =>
    rcases read_eq_error hread with ⟨op, left, right, happlies, hfault⟩ | ⟨rfl, -⟩
    -- an operator that was applied has not failed
    · obtain ⟨a, b, n, hexact⟩ := h.exists_of_applies happlies
      cases hexact.evaluate.symm.trans hfault
    · exact .inr (.inr rfl)

end Stack

/-! ## The plan -/

namespace Plan

variable {ops : Operators} {form : Notation} {expression : String} {plan : Plan}

/-- The operands of a plan are those of the expression in their order. -/
theorem operands_of_ofExpression (hops : ops.SingleCharacter ['(', ')', ' '])
    (h : ofExpression ops form expression = .ok plan) :
    plan.tokens.filter Token.isOperand
      = (ops.terms expression.toList).filter Token.isOperand := by
  cases form with
  | algebraic =>
    obtain ⟨tokens, htokens, rfl⟩ := Outcome.map_eq_ok h
    obtain ⟨emitted, final, hread, rfl⟩ := Infix.tokens_eq_ok htokens
    exact Infix.operands_of_plan (hops.mono (by simp)) hread
  | reversePolish =>
    obtain ⟨tokens, htokens, rfl⟩ := Outcome.map_eq_ok h
    obtain ⟨-, -, rfl⟩ := (Postfix.tokens_eq_ok_iff (hops.mono (by simp))).mp htokens
    rfl

/-- The operators of a plan are characters of the expression, so without a sign of division among
these the plan has no division. -/
theorem exists_of_operator_mem (hops : ops.SingleCharacter ['(', ')', ' '])
    (h : ofExpression ops form expression = .ok plan) {symbol : String}
    (hmem : .operator symbol ∈ plan.tokens) :
    ∃ c ∈ expression.toList, symbol = String.singleton c := by
  have hsymbol : .operator symbol ∈ (expression.toList.filter
      fun c => ops.contains (String.singleton c)).map
        fun c => Token.operator (String.singleton c) := by
    have hoperator := List.mem_filter.mpr ⟨hmem, (rfl : (Token.operator symbol).isOperator = true)⟩
    cases form with
    | algebraic =>
      obtain ⟨tokens, htokens, rfl⟩ := Outcome.map_eq_ok h
      obtain ⟨emitted, final, hread, rfl⟩ := Infix.tokens_eq_ok htokens
      exact (Infix.operators_of_plan (hops.mono (by simp)) hread).subset hoperator
    | reversePolish =>
      obtain ⟨tokens, htokens, rfl⟩ := Outcome.map_eq_ok h
      obtain ⟨-, -, rfl⟩ := (Postfix.tokens_eq_ok_iff (hops.mono (by simp))).mp htokens
      rwa [Operators.filter_isOperator_terms hops] at hoperator
  obtain ⟨c, hc, heq⟩ := List.mem_map.mp hsymbol
  exact ⟨c, (List.mem_filter.mp hc).1, (Token.operator.inj heq).symm⟩

/-- What is wrong with an expression that has no plan is in its characters: no reader complains
about numbers or about what the machine does. -/
theorem complaint_of_ofExpression (hops : ops.SingleCharacter ['(', ')', ' ']) {c : Complaint}
    (h : ofExpression ops form expression = .error c) :
    c ∈ [.unallowedCharacter, .unbalancedParenthesis, .operandJoinedToOperator, .emptyTerm] := by
  cases form with
  | algebraic =>
    have htokens : Infix.tokens ops expression = .error c := Outcome.map_eq_error h
    rcases Outcome.bind_eq_error htokens with hread | ⟨result, -, hresult⟩
    · obtain ⟨_, _, _, _, _, -, -, hstep⟩ := Infix.exists_of_read_eq_error hread
      rcases Infix.step_eq_error hstep with ⟨-, rfl⟩ | ⟨-, rfl, -⟩ <;> simp
    · cases hresult
  | reversePolish =>
    have htokens : Postfix.tokens ops expression.toList = .error c := Outcome.map_eq_error h
    have hspace : ops.SingleCharacter [' '] := hops.mono (by simp)
    rcases Postfix.tokens_cases hspace expression.toList with
      ⟨complaint, hflaw, herror⟩ | ⟨-, ⟨-, hok⟩ | ⟨-, herror⟩⟩
    · obtain rfl := Except.error.inj (herror.symm.trans htokens)
      obtain ⟨_, _, _, -, -, hflaw⟩ := Postfix.exists_of_firstFlaw? hflaw
      rcases Postfix.flaw?_cases hspace hflaw with ⟨-, rfl⟩ | ⟨-, rfl⟩ <;> simp
    · cases hok.symm.trans htokens
    · obtain rfl := Except.error.inj (herror.symm.trans htokens)
      simp

/-- **The digits of an expression** are those of the operands of its plan. -/
theorem digits_of_ofExpression (hops : ops.SingleCharacter ['(', ')', ' '])
    (h : ofExpression ops form expression = .ok plan) :
    Token.totalDigits plan.tokens = expression.toList.countP Char.isDigit := by
  rw [← Token.totalDigits_filter_isOperand, operands_of_ofExpression hops h,
    Token.totalDigits_filter_isOperand, Operators.totalDigits_terms]

/-- In the beginning there is nothing that the machine cannot cope with. -/
theorem fits_of_ofExpression (hdivision : '/' ∉ expression.toList)
    (hdigits : expression.toList.countP Char.isDigit ≤ Number.maxIntegerDigits)
    (h : ofExpression .basic form expression = .ok plan) : Stack.Fits [] plan.tokens where
  integer := by simp
  operand text htext := exists_digits_of_mem h htext
  divisionFree hmem := by
    obtain ⟨c, hc, hsymbol⟩ := exists_of_operator_mem Operators.basic_singleCharacter h hmem
    have hchars : ['/'] = [c] := by simpa using congrArg String.toList hsymbol
    obtain rfl := (List.cons.inj hchars).1
    exact hdivision hc
  digits := by
    rw [digits_of_ofExpression Operators.basic_singleCharacter h]
    simpa using hdigits

end Plan

/-- **Without division, nothing exceeds the limits**: an expression of at most as many characters as
an integer can have digits is evaluated to an integer, or there is a complaint about it, which is
not about an overflow or a division by zero. For each operator that is applied on the way, two
integers are read and their exact result can be written. -/
theorem Operators.calculate_divisionFree {expression : String}
    (hlength : expression.length ≤ Number.maxIntegerDigits) (hdivision : '/' ∉ expression.toList)
    (form : Notation) :
    ((∃ (negative : Bool) (ds : Digits),
        basic.calculate form expression = .ok (ds.signed negative)) ∨
      ∃ c, basic.calculate form expression = .error (.expression ⟨c, expression⟩) ∧
        c.detail ≠ "Numeric overflow in expression" ∧
        c.detail ≠ "Division by zero in expression") ∧
    ∀ plan, Plan.ofExpression .basic form expression = .ok plan →
      ∀ op left right, Stack.Applies .basic plan.tokens op left right →
        ∃ a b n, op.IsExact left right a b n := by
  have hdigits : expression.toList.countP Char.isDigit ≤ Number.maxIntegerDigits :=
    Nat.le_trans List.countP_le_length (by rwa [String.length_toList])
  refine ⟨?_, fun plan hplan op left right happlies =>
    (Plan.fits_of_ofExpression hdivision hdigits hplan).exists_of_applies happlies⟩
  cases hplan : Plan.ofExpression .basic form expression with
  | error c =>
    refine .inr ⟨c, calculate_of_complaint hplan, ?_⟩
    have hc := Plan.complaint_of_ofExpression basic_singleCharacter hplan
    simp only [List.mem_cons, List.not_mem_nil, or_false] at hc
    rcases hc with rfl | rfl | rfl | rfl <;> decide
  | ok plan =>
    rw [calculate_of_plan hplan]
    rcases (Plan.fits_of_ofExpression hdivision hdigits hplan).evaluate with
      ⟨negative, ds, h⟩ | h | h
    · exact .inl ⟨negative, ds, by rw [h]; rfl⟩
    · exact .inr ⟨.emptyExpression, by rw [h]; rfl, by decide⟩
    · exact .inr ⟨.irreducible, by rw [h]; rfl, by decide⟩

/-- A product with a negative difference, which is complained about in the other notation. -/
theorem Operators.calculate_divisionFree_product :
    basic.calculate .algebraic "2*(3-9)" = .ok "-12" ∧
    (∃ a b n, Operator.IsExact ⟨"*", 1, Number.mul⟩ "2" "-6" a b n) ∧
    ∃ c, basic.calculate .reversePolish "2*(3-9)" = .error (.expression ⟨c, "2*(3-9)"⟩) ∧
      c.detail ≠ "Numeric overflow in expression" ∧
      c.detail ≠ "Division by zero in expression" := by
  have hplan : Plan.ofExpression .basic .algebraic "2*(3-9)" = .ok ⟨[.operand "2", .operand "3",
      .operand "9", .operator "-", .operator "*"]⟩ := rfl
  have happlies : Stack.Applies .basic [.operand "2", .operand "3", .operand "9", .operator "-",
      .operator "*"] ⟨"*", 1, Number.mul⟩ "2" "-6" :=
    ⟨[.operand "2", .operand "3", .operand "9", .operator "-"], [], [], rfl, mul_mem_basic, rfl⟩
  have hlength : "2*(3-9)".length ≤ Number.maxIntegerDigits := by decide
  have hdivision : '/' ∉ "2*(3-9)".toList := by decide
  refine ⟨?_, (calculate_divisionFree hlength hdivision .algebraic).2 _ hplan _ _ _ happlies, ?_⟩
  · rw [calculate_of_plan hplan]
    rfl
  · refine (calculate_divisionFree hlength hdivision .reversePolish).1.resolve_left ?_
    rintro ⟨negative, ds, h⟩
    have herror : basic.calculate .reversePolish "2*(3-9)"
        = .error (.expression ⟨.unallowedCharacter, "2*(3-9)"⟩) := rfl
    cases herror.symm.trans h

end Abacus
