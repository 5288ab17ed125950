import Abacus.Proofs.Expression.Calculation
import Abacus.Proofs.Expression.InfixReading
import Abacus.Proofs.Expression.Operation
import Abacus.Proofs.Expression.PostfixReading
import Abacus.Proofs.Outcome

/-!
# Exact evaluation

The value of a tree over the integers, as long as it has one: `Tree.exactValue` computes it from the
leaves up, from left to right, and stops at the first operation that divides by zero, that leaves a
remainder, or whose result is too long to be written. Calculation does the same with texts: it
writes the result of each operation and reads it again for the next (specification §4.3). No
rounding and no text comes into `Tree.exactValue`, so it is the arithmetic that is expected of a
calculation.

- `Operator.evaluate_of_exactly`: an exact operation on texts writes its result.
- `Stack.read_postorder`: the texts on the stack denote the integers all along, by induction on the
  tree.
- `Operators.calculate_of_exactValue`: the values of expressions, in both notations, and the
  complaint about a division by zero. What is said of a remainder is the matter of `Quotient`.
-/

namespace Abacus

/-! ## Integers -/

/-- Why an operation has no exact result. -/
inductive Obstacle where
  | divisionByZero
  | remainder
  /-- The result has more digits than can be written. -/
  | overlong
deriving DecidableEq

/-- What the basic operator of a symbol makes of two integers. This is ordinary arithmetic on
integers; that the operators of the table agree with it is shown below. -/
def exactly (symbol : String) (a b : Int) : Except Obstacle Int :=
  if symbol = "+" then .ok (a + b)
  else if symbol = "-" then .ok (a - b)
  else if symbol = "*" then .ok (a * b)
  else if b = 0 then .error .divisionByZero
  else if b ∣ a then .ok (a / b)
  else .error .remainder

/-- A result, unless it is too long to be written. -/
def writable (n : Int) : Except Obstacle Int :=
  if n.natAbs < 10 ^ Number.maxIntegerDigits then .ok n else .error .overlong

/-- A result that can be written is the result. -/
theorem writable_eq_ok {m n : Int} (h : writable m = .ok n) :
    m = n ∧ n.natAbs < 10 ^ Number.maxIntegerDigits := by
  unfold writable at h
  by_cases hbound : m.natAbs < 10 ^ Number.maxIntegerDigits
  · rw [if_pos hbound] at h
    obtain rfl := Except.ok.inj h
    exact ⟨rfl, hbound⟩
  · rw [if_neg hbound] at h
    cases h

theorem writable_ne_divisionByZero (n : Int) : writable n ≠ .error .divisionByZero := by
  unfold writable
  by_cases hbound : n.natAbs < 10 ^ Number.maxIntegerDigits
  · rw [if_pos hbound]
    exact fun h => nomatch h
  · rw [if_neg hbound]
    exact fun h => nomatch h

namespace Tree

variable {ops : Operators}

/-- The operands of a tree from left to right. -/
def leaves : Tree ops → List Digits
  | operand ds => [ds]
  | operation _ _ left right => left.leaves ++ right.leaves

/-- The exact value of a tree, or what stands in the way of it first, in the order in which the
machine comes to the operations: left operand, right operand, operation. -/
def exactValue : Tree .basic → Except Obstacle Int
  | operand ds => .ok ds.value
  | operation op _ left right => do
    let a ← left.exactValue
    let b ← right.exactValue
    writable (← exactly op.symbol a b)

/-- The postfix text of a tree. -/
def postfixText (tree : Tree ops) : String :=
  (Plan.mk tree.postorder).text

end Tree

/-! ## One operation -/

namespace Operator

theorem exactly_quotient (a b : Int) :
    exactly "/" a b = if b = 0 then .error .divisionByZero
      else if b ∣ a then .ok (a / b) else .error .remainder := rfl

/-- An exact operation is what its operator computes. Sums, differences and products are integers on
both sides; a quotient has to be one that divides. -/
theorem apply_of_exactly {op : Operator} (hop : op ∈ Operators.basic.list) {a b n : Int}
    (h : exactly op.symbol a b = .ok n) : op.apply (.int a) (.int b) = .ok (.int n) := by
  rcases Operators.mem_basic_iff.mp hop with rfl | rfl | rfl | rfl
  · cases h
    rfl
  · cases h
    rfl
  · rw [exactly_quotient] at h
    show Number.divideInts a b = .ok (.int n)
    rw [Number.divideInts]
    by_cases hzero : b = 0
    · rw [if_pos hzero] at h
      cases h
    · by_cases hdvd : b ∣ a
      · rw [if_neg hzero, if_pos hdvd] at h
        cases h
        rw [if_neg hzero, if_pos hdvd]
      · rw [if_neg hzero, if_neg hdvd] at h
        cases h
  · cases h
    rfl

/-- What is no exact operation because of a zero divisor is no operation for that reason. -/
theorem apply_of_exactly_divisionByZero {op : Operator} (hop : op ∈ Operators.basic.list)
    {a b : Int} (h : exactly op.symbol a b = .error .divisionByZero) :
    op.apply (.int a) (.int b) = .error .divisionByZero := by
  rcases Operators.mem_basic_iff.mp hop with rfl | rfl | rfl | rfl
  · cases h
  · cases h
  · rw [exactly_quotient] at h
    show Number.divideInts a b = .error .divisionByZero
    rw [Number.divideInts]
    by_cases hzero : b = 0
    · rw [if_pos hzero]
    · rw [if_neg hzero] at h
      split at h <;> cases h
  · cases h

section
variable {op : Operator} (hop : op ∈ Operators.basic.list) {left right : String} {a b : Int}
  (hleft : Number.ofText left = .ok (.int a)) (hright : Number.ofText right = .ok (.int b))
include hop hleft hright

/-- An exact operation on texts writes its result, whatever the texts are that the integers were
read from. -/
theorem evaluate_of_exactly {n : Int} (h : (exactly op.symbol a b).bind writable = .ok n) :
    op.evaluate left right = .ok (toString n) ∧ n.natAbs < 10 ^ Number.maxIntegerDigits := by
  obtain ⟨m, hm, hwritable⟩ := Outcome.bind_eq_ok h
  obtain ⟨rfl, hbound⟩ := writable_eq_ok hwritable
  refine ⟨?_, hbound⟩
  rw [evaluate_int hleft hright (apply_of_exactly hop hm), Number.integerText_eq_toString hbound]
  rfl

/-- A division by zero is complained about. -/
theorem evaluate_of_exactly_divisionByZero
    (h : (exactly op.symbol a b).bind writable = .error .divisionByZero) :
    op.evaluate left right = .error (.complaint .divisionByZero) := by
  have hexactly : exactly op.symbol a b = .error .divisionByZero := by
    rcases Outcome.bind_eq_error h with h | ⟨m, -, hwritable⟩
    · exact h
    · exact absurd hwritable (writable_ne_divisionByZero m)
  exact evaluate_fault hleft hright (apply_of_exactly_divisionByZero hop hexactly)

end

end Operator

/-! ## Trees -/

/-- The exact value of an operation: left, right, then the operation and its length. -/
theorem Tree.exactValue_operation {op : Operator} (listed : op ∈ Operators.basic.list)
    (left right : Tree .basic) :
    (operation op listed left right).exactValue
      = left.exactValue.bind fun a => right.exactValue.bind fun b =>
        (exactly op.symbol a b).bind writable := rfl

namespace Stack

/-- A tree is read operand by operand, then its operator. Each operand is read on top of what is on
the stack already. -/
theorem read_operation {ops : Operators} {op : Operator} (listed : op ∈ ops.list)
    (left right : Tree ops) (stack : List String) :
    read ops stack (Tree.operation op listed left right).postorder
      = (read ops stack left.postorder).bind fun next =>
        (read ops next right.postorder).bind fun last => step ops last (.operator op.symbol) := by
  rw [Tree.postorder, List.append_assoc, read_append]
  congr 1
  funext next
  rw [read_append]
  congr 1
  funext last
  rw [read_cons]
  cases step ops last (.operator op.symbol) <;> rfl

/-- **The texts denote the integers**: reading a tree leaves a text of its exact value on the stack,
the canonical one unless the tree is a single operand. If a division by zero is what first stands in
the way of the exact value, it is what stops the reading. -/
theorem read_postorder (tree : Tree .basic) (hleaves : ∀ ds ∈ tree.leaves, ¬ ds.IsOverlong)
    (stack : List String) :
    (∀ n, tree.exactValue = .ok n → ∃ text, read .basic stack tree.postorder = .ok (text :: stack) ∧
      Number.ofText text = .ok (.int n) ∧ (tree.root?.isSome → text = toString n)) ∧
    (tree.exactValue = .error .divisionByZero →
      read .basic stack tree.postorder = .error (.complaint .divisionByZero)) := by
  induction tree generalizing stack with
  | operand ds =>
    constructor
    · intro n hn
      obtain rfl := Except.ok.inj hn
      refine ⟨ds.text, rfl, ?_, fun h => by cases h⟩
      rw [← Digits.signed_false, Number.ofText_signed (hleaves ds List.mem_cons_self)]
      rfl
    · intro h
      cases h
  | operation op listed left right ihl ihr =>
    have hleft := ihl (fun ds hds => hleaves ds (List.mem_append_left _ hds)) stack
    have hright (next : List String) :=
      ihr (fun ds hds => hleaves ds (List.mem_append_right _ hds)) next
    rw [Tree.exactValue_operation, read_operation]
    cases ha : left.exactValue with
    | error obstacle =>
      -- the left operand has no exact value, and nothing is read behind it
      constructor
      · intro n hn
        cases hn
      · intro h
        rw [hleft.2 (ha.trans h)]
        rfl
    | ok a =>
      obtain ⟨leftText, hreadLeft, hleftText, -⟩ := hleft.1 a ha
      rw [hreadLeft]
      cases hb : right.exactValue with
      | error obstacle =>
        -- the right operand has none; it is read on top of the left one
        constructor
        · intro n hn
          cases hn
        · intro h
          show (read .basic (leftText :: stack) right.postorder).bind _ = _
          rw [(hright _).2 (hb.trans h)]
          rfl
      | ok b =>
        obtain ⟨rightText, hreadRight, hrightText, -⟩ := (hright (leftText :: stack)).1 b hb
        -- both texts are on the stack, and the operator is applied to them
        have hread : (Except.ok (leftText :: stack)).bind (fun next =>
            (read .basic next right.postorder).bind fun last =>
              step .basic last (.operator op.symbol))
            = (op.evaluate leftText rightText).map (· :: stack) := by
          show (read .basic (leftText :: stack) right.postorder).bind _ = _
          rw [hreadRight]
          exact step_operator (Operators.find?_symbol listed) leftText rightText stack
        rw [hread]
        constructor
        · intro n hn
          obtain ⟨hevaluate, hbound⟩ :=
            Operator.evaluate_of_exactly listed hleftText hrightText hn
          refine ⟨toString n, ?_, Number.ofText_toString hbound, fun _ => rfl⟩
          rw [hevaluate]
          rfl
        · intro h
          rw [Operator.evaluate_of_exactly_divisionByZero listed hleftText hrightText h]
          rfl

end Stack

/-! ## Calculation -/

namespace Tree

variable {ops : Operators}

/-- The tokens of a tree can be written in a postfix expression. -/
theorem isPrintable_of_mem_postorder {tree : Tree ops} {token : Token}
    (h : token ∈ tree.postorder) : Postfix.IsPrintable ops token := by
  induction tree with
  | operand ds =>
    obtain rfl := List.mem_singleton.mp h
    exact ⟨ds, rfl⟩
  | operation op listed left right ihl ihr =>
    rcases List.mem_append.mp h with hoperands | hop
    · exact (List.mem_append.mp hoperands).elim ihl ihr
    · obtain rfl := List.mem_singleton.mp hop
      exact ⟨op, listed, rfl⟩

/-- The tokens of a tree start with an operand. -/
theorem exists_postorder_eq_cons (tree : Tree ops) :
    ∃ text rest, tree.postorder = .operand text :: rest := by
  induction tree with
  | operand ds => exact ⟨ds.text, [], rfl⟩
  | operation op listed left right ihl _ =>
    obtain ⟨text, rest, h⟩ := ihl
    refine ⟨text, rest ++ right.postorder ++ [.operator op.symbol], ?_⟩
    rw [postorder, h]
    simp

/-- The postfix text of a tree is read as the tree. -/
theorem ofExpression_postfixText (hops : ops.SingleCharacter [' ']) (tree : Tree ops) :
    Plan.ofExpression ops .reversePolish tree.postfixText = .ok ⟨tree.postorder⟩ := by
  have hfirst : ∀ token ∈ tree.postorder.head?, token.isOperand = true := by
    obtain ⟨text, rest, hpostorder⟩ := tree.exists_postorder_eq_cons
    intro token h
    rw [hpostorder] at h
    obtain rfl := Option.some.inj h
    rfl
  have htokens : Postfix.tokens ops tree.postfixText.toList = .ok tree.postorder :=
    Postfix.tokens_text hops hfirst fun token h => isPrintable_of_mem_postorder h
  rw [Plan.ofExpression, Plan.ofPostfix, htokens]
  rfl

theorem ofExpression_of_isWritten (hops : ops.SingleCharacter ['(', ')']) {tree : Tree ops}
    {s : String} (h : tree.IsWritten s) :
    Plan.ofExpression ops .algebraic s = .ok ⟨tree.postorder⟩ := by
  rw [Plan.ofExpression, Plan.ofInfix, Infix.tokens_of_isWritten hops h]
  rfl

/-- What a plan of a tree evaluates to, in whichever notation it was written. The tree has an
operation at its root, since a single operand is worth its own text, leading zeros included. -/
theorem calculate_of_postorder {tree : Tree .basic} (hroot : tree.root?.isSome)
    (hleaves : ∀ ds ∈ tree.leaves, ¬ ds.IsOverlong) {form : Notation} {s : String}
    (hplan : Plan.ofExpression .basic form s = .ok ⟨tree.postorder⟩) :
    (∀ n, tree.exactValue = .ok n → Operators.basic.calculate form s = .ok (toString n)) ∧
    (tree.exactValue = .error .divisionByZero →
      Operators.basic.calculate form s = .error (.expression ⟨.divisionByZero, s⟩)) := by
  obtain ⟨hvalue, hzero⟩ := Stack.read_postorder tree hleaves []
  have hevaluate : Stack.evaluate .basic tree.postorder
      = (Stack.read .basic [] tree.postorder).bind Stack.result := by
    obtain ⟨text, rest, h⟩ := tree.exists_postorder_eq_cons
    rw [h]
    rfl
  rw [Operators.calculate_of_plan hplan, hevaluate]
  constructor
  · intro n hn
    obtain ⟨text, hread, -, htext⟩ := hvalue n hn
    rw [hread, htext hroot]
    rfl
  · intro h
    rw [hzero h]
    rfl

end Tree

/-- **Calculation is exact on the integers**, in both notations: if every operation of a tree has an
exact result that can be written, the value is the decimal numeral of the exact value; if the first
one that has none divides by zero, that is the complaint, about the expression as it was given
(specification §4.3, step 3, and decision O2). -/
theorem Operators.calculate_of_exactValue (tree : Tree .basic) (hroot : tree.root?.isSome)
    (hleaves : ∀ ds ∈ tree.leaves, ds.chars.length ≤ Number.maxIntegerDigits) (s : String)
    (hs : tree.IsWritten s) :
    (∀ n, tree.exactValue = .ok n →
      Operators.basic.calculate .algebraic s = .ok (toString n) ∧
      Operators.basic.calculate .reversePolish tree.postfixText = .ok (toString n)) ∧
    (tree.exactValue = .error .divisionByZero →
      Operators.basic.calculate .algebraic s = .error (.expression ⟨.divisionByZero, s⟩) ∧
      Operators.basic.calculate .reversePolish tree.postfixText
        = .error (.expression ⟨.divisionByZero, tree.postfixText⟩)) := by
  have hshort : ∀ ds ∈ tree.leaves, ¬ ds.IsOverlong := fun ds hds =>
    Nat.not_lt.mpr (hleaves ds hds)
  have hwritten := Tree.calculate_of_postorder hroot hshort
    (Tree.ofExpression_of_isWritten (Operators.basic_singleCharacter.mono (by simp)) hs)
  have hprinted := Tree.calculate_of_postorder hroot hshort
    (tree.ofExpression_postfixText (Operators.basic_singleCharacter.mono (by simp)))
  exact ⟨fun n hn => ⟨hwritten.1 n hn, hprinted.1 n hn⟩, fun h => ⟨hwritten.2 h, hprinted.2 h⟩⟩

/-- A quotient of a negative difference, and a division by a difference that is zero. -/
theorem Operators.calculate_of_exactValue_quotients :
    (basic.calculate .algebraic "(7-10)*04/6" = .ok "-2" ∧
      basic.calculate .reversePolish "7 10 - 04 * 6 /" = .ok "-2") ∧
    (basic.calculate .algebraic "8/(3-3)" = .error (.expression ⟨.divisionByZero, "8/(3-3)"⟩) ∧
      basic.calculate .reversePolish "8 3 3 - /"
        = .error (.expression ⟨.divisionByZero, "8 3 3 - /"⟩)) := by
  let digits (cs : List Char) (h : (cs ≠ [] && cs.all Char.isDigit) = true) : Tree .basic :=
    .operand (.ofChars cs h)
  let quotient : Tree .basic := .operation _ div_mem_basic
    (.operation _ mul_mem_basic
      (.operation _ sub_mem_basic (digits ['7'] (by decide)) (digits ['1', '0'] (by decide)))
      (digits ['0', '4'] (by decide)))
    (digits ['6'] (by decide))
  let undefined : Tree .basic := .operation _ div_mem_basic (digits ['8'] (by decide))
    (.operation _ sub_mem_basic (digits ['3'] (by decide)) (digits ['3'] (by decide)))
  have hvalue := (calculate_of_exactValue quotient rfl (by decide) _
    ⟨_, quotient.writes_infixText⟩).1 (-2) (by decide +kernel)
  have hcomplaint := (calculate_of_exactValue undefined rfl (by decide) _
    ⟨_, undefined.writes_infixText⟩).2 (by decide +kernel)
  exact ⟨hvalue, hcomplaint⟩

end Abacus
