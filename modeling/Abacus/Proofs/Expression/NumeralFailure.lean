import Abacus.Proofs.Expression.BothNotations
import Abacus.Proofs.Expression.DigitLimit

/-!
# Failures that are no complaints

The stack machine fails without a complaint exactly if it applies an operator to two texts that are
not read, or the result of which is not written (`Stack.evaluate_eq_numeral_iff_applies`). All texts
on the way are numbers, so what is wrong with them is never more than their length: an operator
meets an integer of too many digits, leading zeros included (`Operator.MeetsOverlong`). An operand
that no operator is applied to is not read at all, and may have any length
(`Operators.calculate_leaks_iff`).

That there is a limit is nothing that the specification knows of; integers are of any size there
(§4.3). The limit is on conversion between integers and texts, and it is met by texts and results
alone, never by what an operator computes.
-/

namespace Abacus

/-! ## Integers of too many digits -/

/-- Whether a text is an integer of more digits than are read. Leading zeros count. -/
def IsOverlongInteger (text : String) : Prop :=
  ∃ (negative : Bool) (ds : Digits), text = ds.signed negative ∧ ds.IsOverlong

/-- A number that is an integer of too many digits has no minus, as no such result is written. -/
theorem IsLegible.exists_of_isOverlongInteger {text : String} (h : IsLegible text)
    (hlong : IsOverlongInteger text) : ∃ ds : Digits, text = ds.text ∧ ds.IsOverlong := by
  rcases h with ⟨x, hx⟩ | h
  · obtain ⟨negative, ds, rfl, hds⟩ := hlong
    cases (Number.ofText_overlong hds negative).symm.trans hx
  · exact h

/-- A number is never taken for a double precision number that it is not. -/
theorem IsLegible.ofText_ne_notFloat {text : String} (h : IsLegible text) (other : String) :
    Number.ofText text ≠ .error (.notFloat other) := by
  rcases h with ⟨x, hx⟩ | ⟨ds, rfl, hds⟩
  · rw [hx]
    nofun
  · rw [← Digits.signed_false, Number.ofText_overlong hds]
    nofun

namespace Operator

variable {op : Operator} {left right : String}

/-- An operator meets an integer of too many digits: it has to read one, or it results in one.
Unlike `Operator.ExceedsLimit`, this does not say which of them comes first. -/
def MeetsOverlong (op : Operator) (left right : String) : Prop :=
  IsOverlongInteger left ∨ IsOverlongInteger right ∨
    ∃ x y n, Number.ofText left = .ok x ∧ Number.ofText right = .ok y ∧
      op.apply x y = .ok (.int n) ∧ (Digits.ofNat n.natAbs).IsOverlong

theorem meetsOverlong_of_exceedsLimit {e : NumeralError} (h : op.ExceedsLimit left right e) :
    op.MeetsOverlong left right := by
  cases h with
  | left hleft h => exact .inl ⟨false, _, hleft, h⟩
  | right _ hright h => exact .inr (.inl ⟨false, _, hright, h⟩)
  | result hleft hright hresult h =>
    exact .inr (.inr ⟨_, _, _, hleft, hright, hresult, Digits.isOverlong_ofNat_iff.mpr h⟩)

/-- On two numbers there is no other way. -/
theorem exists_exceedsLimit (hleft : IsLegible left) (hright : IsLegible right)
    (h : op.MeetsOverlong left right) : ∃ e, op.ExceedsLimit left right e := by
  rcases h with h | h | ⟨x, y, n, hx, hy, hn, h⟩
  · obtain ⟨ds, hds, hlong⟩ := hleft.exists_of_isOverlongInteger h
    exact ⟨_, .left hds hlong⟩
  · obtain ⟨ds, hds, hlong⟩ := hright.exists_of_isOverlongInteger h
    -- the left text is read first
    rcases hleft with ⟨x, hx⟩ | ⟨ds', hds', hlong'⟩
    · exact ⟨_, .right hx hds hlong⟩
    · exact ⟨_, .left hds' hlong'⟩
  · exact ⟨_, .result hx hy hn (Digits.isOverlong_ofNat_iff.mp h)⟩

/-- **An operator fails on two numbers without a complaint** exactly if it meets an integer of too
many digits. -/
theorem evaluate_eq_numeral_iff (hleft : IsLegible left) (hright : IsLegible right) :
    (∃ e, op.evaluate left right = .error (.numeral e)) ↔ op.MeetsOverlong left right := by
  constructor
  · rintro ⟨e, h⟩
    exact meetsOverlong_of_exceedsLimit (exceedsLimit_of_evaluate hleft hright h)
  · intro h
    obtain ⟨e, hlimit⟩ := exists_exceedsLimit hleft hright h
    exact ⟨e, evaluate_of_exceedsLimit hlimit⟩

/-- What the message of the failure begins with. -/
theorem ExceedsLimit.exists_message {e : NumeralError} (h : op.ExceedsLimit left right e) :
    ∃ rest, e.message
      = "Exceeds the limit (4300 digits) for integer string conversion" ++ rest := by
  have hread (n : Nat) : ∃ rest, (NumeralError.tooLongToRead n).message
      = "Exceeds the limit (4300 digits) for integer string conversion" ++ rest := by
    refine ⟨": value has " ++ (toString n
      ++ " digits; use sys.set_int_max_str_digits() to increase the limit"), ?_⟩
    rw [← String.append_assoc, ← String.append_assoc]
    rfl
  cases h with
  | left => exact hread _
  | right => exact hread _
  | result => exact ⟨"; use sys.set_int_max_str_digits() to increase the limit", rfl⟩

end Operator

/-! ## Calculation -/

namespace Operators

variable {ops : Operators} {form : Notation} {expression : String}

/-- What is on the stack while a plan is read are numbers. -/
theorem isLegible_of_read_front {plan : Plan}
    (hplan : Plan.ofExpression ops form expression = .ok plan) {front back : List Token}
    (htokens : plan.tokens = front ++ back) {stack : List String}
    (hread : Stack.read ops [] front = .ok stack) : ∀ text ∈ stack, IsLegible text := by
  refine Stack.isLegible_of_read (by simp) (fun operand hmem => ?_) hread
  exact plan.isLegible_of_mem hplan operand (htokens ▸ List.mem_append_left _ hmem)

theorem isLegible_of_applies {plan : Plan}
    (hplan : Plan.ofExpression ops form expression = .ok plan) {op : Operator}
    {left right : String} (h : Stack.Applies ops plan.tokens op left right) :
    IsLegible left ∧ IsLegible right := by
  obtain ⟨front, back, below, htokens, -, hread⟩ := h
  have hstack := isLegible_of_read_front hplan htokens hread
  exact ⟨hstack left (by simp), hstack right (by simp)⟩

/-- Some failure is no complaint exactly if an operator meets an integer of too many digits. -/
theorem exists_calculate_eq_numeral_iff :
    (∃ e, ops.calculate form expression = .error (.numeral e)) ↔
      ∃ plan, ops.parse form expression = .ok plan ∧
        ∃ op left right, Stack.Applies ops plan.tokens op left right ∧
          op.MeetsOverlong left right := by
  simp only [calculate_eq_numeral_iff_evaluate, Stack.evaluate_eq_numeral_iff_applies,
    parse_eq_ok_iff]
  constructor
  · rintro ⟨e, plan, hplan, op, left, right, happlies, hfault⟩
    obtain ⟨hleft, hright⟩ := isLegible_of_applies hplan happlies
    exact ⟨plan, hplan, op, left, right, happlies,
      (Operator.evaluate_eq_numeral_iff hleft hright).mp ⟨e, hfault⟩⟩
  · rintro ⟨plan, hplan, op, left, right, happlies, hoverlong⟩
    obtain ⟨hleft, hright⟩ := isLegible_of_applies hplan happlies
    obtain ⟨e, hfault⟩ := (Operator.evaluate_eq_numeral_iff hleft hright).mpr hoverlong
    exact ⟨e, plan, hplan, op, left, right, happlies, hfault⟩

/-- A failure that is no complaint tells the limit. -/
theorem exists_message_of_calculate {e : NumeralError}
    (h : ops.calculate form expression = .error (.numeral e)) :
    ∃ rest, e.message
      = "Exceeds the limit (4300 digits) for integer string conversion" ++ rest := by
  obtain ⟨plan, hplan, hevaluate⟩ := calculate_eq_numeral_iff_evaluate.mp h
  obtain ⟨op, left, right, happlies, hfault⟩ :=
    Stack.evaluate_eq_numeral_iff_applies.mp hevaluate
  obtain ⟨hleft, hright⟩ := isLegible_of_applies hplan happlies
  exact (Operator.exceedsLimit_of_evaluate hleft hright hfault).exists_message

/-- **What is not a complaint is the limit on digits.** A calculation fails otherwise than with a
complaint if and only if, on its way through the plan, the machine applies an operator that reads an
integer of too many digits or results in one; the failure says that this is the limit. No operand
and nothing on the stack is ever taken for a double precision number that it is not, and an operand
by itself is not read, so that it may have any number of digits. -/
theorem calculate_leaks_iff (form : Notation) (expression : String) :
    ((∃ failure, basic.calculate form expression = .error failure ∧
        ∀ e, failure ≠ .expression e) ↔
      ∃ plan, basic.parse form expression = .ok plan ∧
        ∃ op left right, Stack.Applies basic plan.tokens op left right ∧
          op.MeetsOverlong left right) ∧
    (∀ failure, basic.calculate form expression = .error failure →
      (∀ e, failure ≠ .expression e) → ∃ e rest, failure = .numeral e ∧
        e.message = "Exceeds the limit (4300 digits) for integer string conversion" ++ rest) ∧
    (∀ plan, basic.parse form expression = .ok plan → ∀ other,
      (∀ text, .operand text ∈ plan.tokens → Number.ofText text ≠ .error (.notFloat other)) ∧
      ∀ front back stack, plan.tokens = front ++ back → Stack.read basic [] front = .ok stack →
        ∀ text ∈ stack, Number.ofText text ≠ .error (.notFloat other)) ∧
    ∀ ds : Digits, basic.calculate form ds.text = .ok ds.text := by
  have hnumeral (failure : Failure) (h : ∀ e, failure ≠ .expression e) :
      ∃ e, failure = .numeral e := by
    cases failure with
    | expression e => exact absurd rfl (h e)
    | numeral e => exact ⟨e, rfl⟩
  refine ⟨?_, fun failure h hne => ?_, fun plan h other => ?_,
    calculate_digits basic_singleCharacter form⟩
  · rw [← exists_calculate_eq_numeral_iff]
    constructor
    · rintro ⟨failure, h, hne⟩
      obtain ⟨e, rfl⟩ := hnumeral failure hne
      exact ⟨e, h⟩
    · rintro ⟨e, h⟩
      exact ⟨.numeral e, h, nofun⟩
  · obtain ⟨e, rfl⟩ := hnumeral failure hne
    obtain ⟨rest, hrest⟩ := exists_message_of_calculate h
    exact ⟨e, rest, rfl, hrest⟩
  · have hplan := parse_eq_ok_iff.mp h
    refine ⟨fun text hmem => (plan.isLegible_of_mem hplan text hmem).ofText_ne_notFloat other, ?_⟩
    intro front back stack htokens hread text hmem
    exact (isLegible_of_read_front hplan htokens hread text hmem).ofText_ne_notFloat other

/-- Leading zeros count: an integer of 4301 digits that is one is too long to be added to one. -/
theorem calculate_leaks_iff_zeros :
    ∃ failure, basic.calculate .algebraic
        ("1" ++ "+" ++ String.ofList (List.replicate 4300 '0' ++ ['1'])) = .error failure ∧
      ∀ e, failure ≠ .expression e := by
  obtain ⟨ds, hchars⟩ : ∃ ds : Digits, ds.chars = List.replicate 4300 '0' ++ ['1'] := by
    refine ⟨⟨_, List.append_ne_nil_of_right_ne_nil _ (List.cons_ne_nil '1' []), ?_⟩, rfl⟩
    intro c hc
    rcases List.mem_append.mp hc with hc | hc
    · rw [List.eq_of_mem_replicate hc]
      rfl
    · rw [List.mem_singleton.mp hc]
      rfl
  have hlong : ds.IsOverlong := by
    rw [Digits.IsOverlong, hchars, List.length_append, List.length_replicate]
    decide
  have htext : String.ofList (List.replicate 4300 '0' ++ ['1']) = ds.text :=
    congrArg String.ofList hchars.symm
  rw [htext]
  let one : Digits := .ofChars ['1'] (by decide)
  have hplan := parse_eq_ok_iff.mpr (ofExpression_operation add_mem_basic one ds)
  have happlies : Stack.Applies basic
      [.operand one.text, .operand ds.text, .operator "+"] ⟨"+", 0, Number.add⟩ one.text ds.text :=
    ⟨[.operand one.text, .operand ds.text], [], [], rfl, add_mem_basic, rfl⟩
  exact (calculate_leaks_iff .algebraic _).1.mpr
    ⟨_, hplan, _, _, _, happlies, .inr (.inl ⟨false, ds, rfl, hlong⟩)⟩

end Operators
end Abacus
