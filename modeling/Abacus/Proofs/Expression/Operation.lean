import Abacus.Expression.Reduction
import Abacus.Proofs.Number.IntegerText
import Abacus.Proofs.Outcome

/-!
# One operation on texts

What an operator makes of two operand texts, stage by stage (specification §4.3, steps 3 and 4): the
left text is read, then the right one, the operator is applied, its result has to be finite, and the
result is written. Each lemma says how the operation ends if the stages before went well; together
they are the equations by which operations on concrete numbers are followed.
-/

namespace Abacus
namespace Operator

variable {op : Operator} {left right : String} {x y : Number}

theorem evaluate_left_error {e : NumeralError} (h : Number.ofText left = .error e) :
    op.evaluate left right = .error (.numeral e) := by
  rw [evaluate, h]
  rfl

theorem evaluate_right_error {e : NumeralError} (hleft : Number.ofText left = .ok x)
    (h : Number.ofText right = .error e) : op.evaluate left right = .error (.numeral e) := by
  rw [evaluate, hleft, h]
  rfl

/-- All that happened if an operator made a text of two others. This is the inversion of
`Operator.evaluate`, which the modules on results start from. -/
theorem evaluate_eq_ok {text : String} (h : op.evaluate left right = .ok text) :
    ∃ x y v, Number.ofText left = .ok x ∧ Number.ofText right = .ok y ∧ op.apply x y = .ok v ∧
      v.isFinite = true ∧ v.text = .ok text := by
  obtain ⟨x, hx, h⟩ := Outcome.bind_eq_ok h
  obtain ⟨y, hy, h⟩ := Outcome.bind_eq_ok h
  obtain ⟨v, hv, h⟩ := Outcome.bind_eq_ok h
  refine ⟨x, y, v, Outcome.mapError_eq_ok hx, Outcome.mapError_eq_ok hy,
    Outcome.mapError_eq_ok hv, ?_⟩
  split at h
  · next hfinite => exact ⟨hfinite, Outcome.mapError_eq_ok h⟩
  · cases h

/-- What can go wrong with an operator and two texts: a number cannot be read or written, or the
operator has no finite result. -/
theorem evaluate_eq_error {fault : Fault} (h : op.evaluate left right = .error fault) :
    (∃ e, fault = .numeral e) ∨ ∃ cause, fault = .complaint (.ofArithmetic cause) := by
  rcases Outcome.bind_eq_error h with h | ⟨x, -, h⟩
  · obtain ⟨e, -, rfl⟩ := Outcome.mapError_eq_error h
    exact .inl ⟨e, rfl⟩
  rcases Outcome.bind_eq_error h with h | ⟨y, -, h⟩
  · obtain ⟨e, -, rfl⟩ := Outcome.mapError_eq_error h
    exact .inl ⟨e, rfl⟩
  rcases Outcome.bind_eq_error h with h | ⟨v, -, h⟩
  · obtain ⟨cause, -, rfl⟩ := Outcome.mapError_eq_error h
    exact .inr ⟨cause, rfl⟩
  split at h
  · obtain ⟨e, -, rfl⟩ := Outcome.mapError_eq_error h
    exact .inl ⟨e, rfl⟩
  · cases h
    exact .inr ⟨.overflow, rfl⟩

section
variable (hleft : Number.ofText left = .ok x) (hright : Number.ofText right = .ok y)
include hleft hright

/-- Once both texts are read, all is up to the operator: to whether it has a result, and to whether
that is finite and can be written. -/
theorem evaluate_of_read :
    op.evaluate left right
      = ((op.apply x y).mapError fun fault => Fault.complaint (.ofArithmetic fault)).bind fun v =>
        if v.isFinite then v.text.mapError Fault.numeral else .error (.complaint .overflow) := by
  rw [evaluate, hleft, hright]
  rfl

theorem evaluate_fault {fault : ArithmeticFault} (h : op.apply x y = .error fault) :
    op.evaluate left right = .error (.complaint (.ofArithmetic fault)) := by
  rw [evaluate_of_read hleft hright, h]
  rfl

theorem evaluate_of_apply {v : Number} (h : op.apply x y = .ok v) :
    op.evaluate left right
      = if v.isFinite then v.text.mapError Fault.numeral else .error (.complaint .overflow) := by
  rw [evaluate_of_read hleft hright, h]
  rfl

/-- An integer is finite, so only its length can be in the way of writing it. -/
theorem evaluate_int {n : Int} (h : op.apply x y = .ok (.int n)) :
    op.evaluate left right = (Number.integerText n).mapError .numeral := by
  rw [evaluate_of_apply hleft hright h]
  rfl

end

end Operator
end Abacus
