import Abacus.Proofs.Expression.Operation
import Abacus.Proofs.Expression.Run
import Abacus.Proofs.Expression.Tree

/-!
# Well-formed plans

The reduction looks at one window after the other and never at a plan as a whole. Still there is a
condition on the whole plan that comes to the same: a plan is well formed if each part that it
starts with has more operands than operators, and all of it has one more. That is what the
specification calls a reducible sequence (§3), told without reducing it.

- `Plan.isWellFormed_of_read`: the surplus of operands is the height of the stack, so a plan that is
  reduced to a text is well formed.
- `Plan.IsWellFormed.reduce_cases`: in a well-formed plan each operator finds two operands; so
  nothing can go wrong but what an operator does to two texts.
- `Tree.isWellFormed_postorder`: the tokens of a tree are a well-formed plan.
- `Plan.reduce_isWellFormed`: what that says of the complaints about a plan.
-/

namespace Abacus

variable {ops : Operators}

/-! ## Counting -/

/-- **Well-formed plans**: operands and known operators, so that each operator has two operands to
take, and one operand is left in the end. Whether that is so can be told by counting, without a run:
up to any token there are more operands than operators, and in all there is one more. -/
structure Plan.IsWellFormed (ops : Operators) (plan : Plan) : Prop where
  isRead : ∀ token ∈ plan.tokens, Stack.IsRead ops token
  ahead : ∀ front, front <+: plan.tokens → front ≠ [] →
    front.countP Token.isOperator < front.countP Token.isOperand
  surplus : plan.tokens.countP Token.isOperand = plan.tokens.countP Token.isOperator + 1

namespace Plan.IsWellFormed

variable {plan : Plan}

/-- The number of tokens is odd: each operator comes with an operand, and there is one more. -/
theorem size_eq (h : plan.IsWellFormed ops) :
    plan.size = 2 * plan.tokens.countP Token.isOperator + 1 := by
  have hsurplus := h.surplus
  have hkinds := List.length_eq_countP_add_countP Token.isOperand (l := plan.tokens)
  have hrest : plan.tokens.countP (fun token => ¬ token.isOperand = true)
      = plan.tokens.countP Token.isOperator := by
    refine List.countP_congr fun token htoken => ?_
    have hread := h.isRead token htoken
    cases token with
    | operand text => simp [Token.isOperand, Token.isOperator]
    | operator symbol => simp [Token.isOperand, Token.isOperator]
    | group symbol => cases hread
  rw [hrest] at hkinds
  rw [size]
  omega

/-- A single operand is a well-formed plan (decision O3 of the specification, §9). -/
theorem operand (text : String) : IsWellFormed ops ⟨[.operand text]⟩ where
  isRead := by simp [Stack.IsRead]
  ahead front hfront hne := by
    obtain rfl | ⟨rest, rfl, hrest⟩ := List.prefix_cons_iff.mp hfront
    · exact absurd rfl hne
    · obtain rfl := List.prefix_nil.mp hrest
      exact Nat.zero_lt_one
  surplus := rfl

/-- Two well-formed plans with an operator behind them are one. -/
theorem operation {left right : List Token} (hleft : IsWellFormed ops ⟨left⟩)
    (hright : IsWellFormed ops ⟨right⟩) {op : Operator} (hop : op ∈ ops.list) :
    IsWellFormed ops ⟨left ++ right ++ [.operator op.symbol]⟩ where
  isRead := by
    intro token htoken
    rcases List.mem_append.mp htoken with htoken | htoken
    · exact (List.mem_append.mp htoken).elim (hleft.isRead token) (hright.isRead token)
    · obtain rfl := List.mem_singleton.mp htoken
      exact ⟨op, Operators.find?_symbol hop⟩
  ahead front hfront hne := by
    have hl := hleft.surplus
    have hr := hright.surplus
    rcases List.prefix_concat_iff.mp hfront with rfl | hfront
    · simp only [List.countP_append] at hl hr ⊢
      simp [Token.isOperand, Token.isOperator]
      omega
    · rcases List.prefix_or_prefix_of_prefix hfront (List.prefix_append left right) with
        hpart | ⟨part, rfl⟩
      · exact hleft.ahead front hpart hne
      · -- all of the left plan is in it, and at most a part of the right one that is ahead itself
        have hpart : part <+: right := (List.prefix_append_right_inj left).mp hfront
        by_cases hnil : part = []
        · rw [hnil, List.append_nil]
          exact Nat.lt_of_lt_of_eq (Nat.lt_succ_self _) hl.symm
        · have hahead := hright.ahead part hpart hnil
          simp only [List.countP_append] at hl ⊢
          omega
  surplus := by
    have hl := hleft.surplus
    have hr := hright.surplus
    simp only [List.countP_append] at hl hr ⊢
    simp [Token.isOperand, Token.isOperator]
    omega

end Plan.IsWellFormed

/-- The tokens of a tree are a well-formed plan. -/
theorem Tree.isWellFormed_postorder (tree : Tree ops) : Plan.IsWellFormed ops ⟨tree.postorder⟩ := by
  induction tree with
  | operand ds => exact .operand ds.text
  | operation op listed left right ihl ihr => exact ihl.operation ihr listed

/-! ## Reduction -/

namespace Plan

/-- A plan of which the machine leaves one operand is well formed. -/
theorem isWellFormed_of_read {plan : Plan} {text : String}
    (h : Stack.read ops [] plan.tokens = .ok [text]) : plan.IsWellFormed ops where
  isRead := Stack.isRead_of_read h
  ahead := by
    rintro front ⟨back, hback⟩ hne
    rw [← hback, Stack.read_append] at h
    obtain ⟨stack, hfront, -⟩ := Outcome.bind_eq_ok h
    have hlength := Stack.length_of_read hfront
    have hpos := List.length_pos_of_ne_nil (Stack.ne_nil_of_read hfront (.inr hne))
    rw [List.length_nil] at hlength
    omega
  surplus := by
    have hlength := Stack.length_of_read h
    rw [List.length_singleton, List.length_nil] at hlength
    omega

/-- **What can become of a well-formed plan**: it is reduced to a text, or an operator fails on the
two texts that it comes to be applied to. -/
theorem IsWellFormed.reduce_cases {plan : Plan} (h : plan.IsWellFormed ops) :
    (∃ text, plan.reduce ops = .ok text) ∨
    ∃ op left right fault, Stack.Applies ops plan.tokens op left right ∧
      op.evaluate left right = .error fault ∧ plan.reduce ops = .error fault := by
  rw [reduce_eq_evaluate]
  cases hread : Stack.read ops [] plan.tokens with
  | ok stack =>
    -- the surplus of all tokens is what is left
    have hlength := Stack.length_of_read hread
    have hsurplus := h.surplus
    match stack with
    | [text] => exact .inl ⟨text, Stack.evaluate_eq_ok_iff.mpr hread⟩
    | [] =>
      rw [List.length_nil] at hlength
      omega
    | _ :: _ :: _ =>
      rw [List.length_cons, List.length_cons, List.length_nil] at hlength
      omega
  | error fault =>
    rcases Stack.read_eq_error hread with ⟨op, left, right, happlies, hfault⟩ |
      ⟨-, front, token, back, middle, htokens, hfront, hoperand, hlow⟩
    · exact .inr ⟨op, left, right, fault, happlies, hfault,
        Stack.evaluate_of_applies happlies hfault⟩
    · -- the token is an operator; it would leave no surplus if the stack were too low for it
      have hmem : token ∈ plan.tokens := htokens ▸ by simp
      have hknown := h.isRead token hmem
      have hlow := hlow hknown
      have hlength := Stack.length_of_read hfront
      have hahead := h.ahead (front ++ [token]) ⟨back, by simp [htokens]⟩ (by simp)
      cases token with
      | operand text => cases hoperand
      | group symbol => cases hknown
      | operator symbol =>
        simp only [List.countP_append, List.countP_singleton, Token.isOperator, Token.isOperand,
          Bool.false_eq_true, if_true, if_false, List.length_nil] at hahead hlength
        omega

/-- A well-formed plan is complained about only for what an operator cannot compute. -/
theorem IsWellFormed.complaint_of_reduce {plan : Plan} (h : plan.IsWellFormed ops) {c : Complaint}
    (hc : plan.reduce ops = .error (.complaint c)) : ∃ cause, c = .ofArithmetic cause := by
  rcases h.reduce_cases with ⟨text, htext⟩ | ⟨op, left, right, fault, -, hfault, hreduce⟩
  · cases hc.symm.trans htext
  · obtain rfl : fault = .complaint c := Except.error.inj (hreduce.symm.trans hc)
    rcases Operator.evaluate_eq_error hfault with ⟨e, he⟩ | ⟨cause, hcause⟩
    · cases he
    · exact ⟨cause, Fault.complaint.inj hcause⟩

/-- **Reduction accepts well-formed plans only**, whatever the operators compute, and it finds
nothing wrong with the order of their tokens: the complaint is never that there are none or that
they cannot be reduced. If a well-formed plan is not reduced to a text, it is because a number could
not be read, because an operator had no finite result, or because a result could not be written. -/
theorem reduce_isWellFormed (plan : Plan) (ops : Operators) :
    (∀ text, plan.reduce ops = .ok text → plan.IsWellFormed ops) ∧
    (plan.IsWellFormed ops →
      (∀ c, plan.reduce ops = .error (.complaint c) →
        c.detail ≠ "Empty expression" ∧ c.detail ≠ "Error while reducing expression") ∧
      ((∃ text, plan.reduce ops = .ok text) ∨
        ∃ op left right fault, Stack.Applies ops plan.tokens op left right ∧
          op.evaluate left right = .error fault ∧ plan.reduce ops = .error fault)) := by
  refine ⟨fun text h => ?_, fun h => ⟨fun c hc => ?_, h.reduce_cases⟩⟩
  · rw [reduce_eq_evaluate] at h
    exact isWellFormed_of_read (Stack.evaluate_eq_ok_iff.mp h)
  · obtain ⟨cause, rfl⟩ := h.complaint_of_reduce hc
    cases cause <;> decide

/-- A plan that is reduced to a text, and one whose last operator fails. -/
theorem reduce_isWellFormed_quotients :
    (mk [.operand "8", .operand "2", .operator "/"]).IsWellFormed .basic ∧
    ∃ op left right fault,
      Stack.Applies .basic [.operand "7", .operand "0", .operator "/"] op left right ∧
      op.evaluate left right = .error fault ∧
      (mk [.operand "7", .operand "0", .operator "/"]).reduce .basic = .error fault := by
  have hvalue : (mk [.operand "8", .operand "2", .operator "/"]).reduce .basic = .ok "4" := by
    rw [reduce_eq_evaluate]
    exact Stack.evaluate_eq_ok_iff.mpr rfl
  have hwellFormed : (mk [.operand "7", .operand "0", .operator "/"]).IsWellFormed .basic :=
    (IsWellFormed.operand "7").operation (.operand "0") Operators.div_mem_basic
  refine ⟨(reduce_isWellFormed _ _).1 "4" hvalue, ?_⟩
  rcases ((reduce_isWellFormed _ _).2 hwellFormed).2 with ⟨text, h⟩ | h
  · rw [reduce_eq_evaluate] at h
    cases Stack.evaluate_eq_ok_iff.mp h
  · exact h

end Plan
end Abacus
