import Abacus.Proofs.Expression.Conservation
import Abacus.Proofs.Expression.InfixReading
import Mathlib.Data.List.Chain
import Mathlib.Data.List.Dedup
import Mathlib.Data.List.Perm.Subperm

/-!
# What pends while an expression is read

Open parentheses divide what pends into frames. An operator starts to pend on what does not yield to
it, that is on an open parenthesis or on an operator that binds weaker (specification §4.1: an
operator of the same precedence leaves first); so within a frame every operator binds stronger than
the one below.

- `Infix.IsLayered`: the invariant, as a condition on neighbours only.
- `Infix.IsLayered.of_step`: each lexeme keeps it, wherever the lexeme stands.
- `Infix.IsLayered.of_read`: so does all that can be read.
- `Infix.IsLayered.length_le_levels`: a frame has each precedence of the table once at most.
- `Infix.IsLayered.length_lt`: what pends is bounded by the number of open parentheses, however long
  the expression is.
- `Infix.pending_of_read_pieces`: what that says at any point of an expression.
-/

namespace Abacus

/-- How many precedences there are in a table. A frame can hold as many operators. -/
def Operators.levels (ops : Operators) : Nat :=
  (ops.list.map Operator.precedence).dedup.length

theorem Operators.levels_basic : basic.levels = 2 := by
  decide

namespace Infix

variable {ops : Operators}

/-! ## Frames

What pends between two parentheses, or below the lowest one, is a frame. In a frame each operator
has its own precedence, so the table bounds its length. -/

/-- **Induction over what pends**, frame by frame. -/
@[elab_as_elim]
theorem frames_induction {motive : List Pending → Prop} (pending : List Pending)
    (outermost : ∀ stacked, motive (pended stacked))
    (opened : ∀ stacked outer, motive outer → motive (pended stacked ++ .opened :: outer)) :
    motive pending := by
  -- the operators above are those of the last frame that have been passed
  suffices h : ∀ stacked, motive (pended stacked ++ pending) from h []
  induction pending with
  | nil =>
    intro stacked
    rw [List.append_nil]
    exact outermost stacked
  | cons p pending ih =>
    intro stacked
    cases p with
    | opened => exact opened stacked pending (ih [])
    | operator op =>
      have hnext := ih (stacked ++ [op])
      rwa [pended, List.map_append, List.append_assoc] at hnext

theorem countP_isOpened_pended (stacked : List Operator) :
    (pended stacked).countP Pending.isOpened = 0 := by
  refine countP_isOpened_eq_zero fun p hp => ?_
  obtain ⟨op, -, rfl⟩ := List.mem_map.mp hp
  rfl

/-! ## The invariant -/

/-- Whether what pends is in layers: operators of the table, none of which lies on one that yields
to it. This is the invariant of reading: in each frame, which starts with a parenthesis or at the
bottom, precedences grow from below upwards. -/
structure IsLayered (ops : Operators) (pending : List Pending) : Prop where
  listed : ∀ op, .operator op ∈ pending → op ∈ ops.list
  settled : pending.IsChain fun upper lower =>
    ∀ op, upper = .operator op → lower.yieldsTo op = false

namespace IsLayered

theorem nil : IsLayered ops [] :=
  ⟨fun _ h => absurd h List.not_mem_nil, .nil⟩

theorem of_suffix {lower pending : List Pending} (h : IsLayered ops pending)
    (hlower : lower <:+ pending) : IsLayered ops lower :=
  ⟨fun op hop => h.listed op (hlower.subset hop), h.settled.suffix hlower⟩

theorem cons_opened {pending : List Pending} (h : IsLayered ops pending) :
    IsLayered ops (.opened :: pending) where
  listed op hop := by
    rcases List.mem_cons.mp hop with heq | hmem
    · cases heq
    · exact h.listed op hmem
  settled := h.settled.cons fun _ _ _ heq => by cases heq

/-- An operator may go on what does not yield to it. -/
theorem cons_operator {op : Operator} {pending : List Pending} (h : IsLayered ops pending)
    (hop : op ∈ ops.list) (hhead : ∀ p ∈ pending.head?, p.yieldsTo op = false) :
    IsLayered ops (.operator op :: pending) where
  listed other hother := by
    rcases List.mem_cons.mp hother with heq | hmem
    · cases heq
      exact hop
    · exact h.listed other hmem
  settled := h.settled.cons fun p hp other heq => by
    cases heq
    exact hhead p hp

/-- **Each lexeme keeps the layers**: nothing is taken out below what is left, and an operator goes
on what does not yield to it. This is the step of the invariant. -/
theorem of_step {pending next : List Pending} {lexeme : Lexeme} {emitted : List Token}
    (h : IsLayered ops pending) (hproper : lexeme.IsProper ops)
    (hstep : step pending lexeme = .ok (emitted, next)) : IsLayered ops next := by
  rcases step_cases hstep with ⟨text, rfl, -, rfl⟩ |
    ⟨op, inner, outer, rfl, rfl, -, houter, -, rfl⟩ | ⟨rfl, -, rfl⟩ |
    ⟨inner, outer, rfl, rfl, -, -, rfl⟩
  · exact h
  · have hbelow : IsLayered ops outer := h.of_suffix (List.suffix_append inner outer)
    unfold Pending.ofOperator
    split
    · exact hbelow.cons_opened
    · exact hbelow.cons_operator hproper houter
  · exact h.cons_opened
  · have hframe : IsLayered ops (.opened :: next) := h.of_suffix (List.suffix_append inner _)
    exact hframe.of_suffix (List.suffix_cons _ _)

/-- **Reading keeps the layers**, whatever is read: the run of the invariant, by induction on the
lexemes. -/
theorem of_read {pending final : List Pending} {xs : List Lexeme} {emitted : List Token}
    (h : IsLayered ops pending) (hproper : ∀ x ∈ xs, x.IsProper ops)
    (hread : read pending xs = .ok (emitted, final)) : IsLayered ops final := by
  induction xs generalizing pending emitted with
  | nil =>
    cases hread
    exact h
  | cons x rest ih =>
    obtain ⟨⟨first, middle⟩, hstep, hread⟩ := Outcome.bind_eq_ok hread
    obtain ⟨⟨later, last⟩, hrest, hread⟩ := Outcome.bind_eq_ok hread
    cases hread
    obtain ⟨hx, hxs⟩ := List.forall_mem_cons.mp hproper
    exact ih (h.of_step hx hstep) hxs hrest

/-! ## What the invariant says -/

/-- Operators that pend one above the other bind stronger from below upwards. -/
theorem pairwise {pending : List Pending} (h : IsLayered ops pending) {stacked : List Operator}
    (hstacked : pended stacked <:+: pending) :
    stacked.Pairwise fun upper lower => lower.precedence < upper.precedence := by
  have hsettled := List.IsChain.infix h.settled hstacked
  rw [pended, List.isChain_map] at hsettled
  have hprecedences : (stacked.map Operator.precedence).IsChain (· > ·) := by
    rw [List.isChain_map]
    refine hsettled.imp fun upper lower hlower => ?_
    exact Int.not_le.mp (of_decide_eq_false (hlower upper rfl))
  exact List.pairwise_map.mp hprecedences.pairwise

/-- Operators that pend one above the other have each precedence once at most. -/
theorem length_le_levels {pending : List Pending} (h : IsLayered ops pending)
    {stacked : List Operator} (hstacked : pended stacked <:+: pending) :
    stacked.length ≤ ops.levels := by
  have hsubset : stacked.map Operator.precedence ⊆ (ops.list.map Operator.precedence).dedup := by
    intro precedence hprecedence
    obtain ⟨op, hop, rfl⟩ := List.mem_map.mp hprecedence
    have hpending : .operator op ∈ pending := hstacked.subset (List.mem_map_of_mem hop)
    exact List.mem_dedup.mpr (List.mem_map_of_mem (h.listed op hpending))
  have hnodup : (stacked.map Operator.precedence).Nodup :=
    List.pairwise_map.mpr ((h.pairwise hstacked).imp fun hlt => Int.ne_of_gt hlt)
  calc stacked.length
      = (stacked.map Operator.precedence).length := (List.length_map _).symm
    _ ≤ ops.levels := (List.subperm_of_subset hnodup hsubset).length_le

/-- **What pends is bounded** by the open parentheses: around each there is room for the operators
of one more frame. -/
theorem length_lt {pending : List Pending} (h : IsLayered ops pending) :
    pending.length < (ops.levels + 1) * (pending.countP Pending.isOpened + 1) := by
  induction pending using frames_induction with
  | outermost stacked =>
    have hframe := h.length_le_levels (List.infix_refl _)
    rw [countP_isOpened_pended, Nat.zero_add, Nat.mul_one, pended, List.length_map]
    exact Nat.lt_succ_of_le hframe
  | opened stacked outer ih =>
    have hframe := h.length_le_levels (List.prefix_append _ _).isInfix
    have hbelow : outer <:+ pended stacked ++ .opened :: outer :=
      (List.suffix_cons _ _).trans (List.suffix_append _ _)
    have houter := ih (h.of_suffix hbelow)
    rw [List.countP_append, countP_isOpened_pended, List.countP_cons_of_pos rfl, Nat.zero_add,
      Nat.mul_succ, List.length_append, List.length_cons, pended, List.length_map]
    omega

end IsLayered

/-! ## Beginnings of expressions -/

section
variable (hops : ops.SingleCharacter ['(', ')'])
include hops

/-- A piece is a parenthesis if it is written as one. -/
theorem parentheses_ofPiece (piece : List Char) :
    (Lexeme.ofPiece ops piece).isOpening = (piece == ['(']) ∧
    (Lexeme.ofPiece ops piece).isClosing = (piece == [')']) := by
  by_cases hopening : piece = ['(']
  · rw [hopening, ofPiece_opening hops]
    exact ⟨rfl, rfl⟩
  · by_cases hclosing : piece = [')']
    · rw [hclosing, ofPiece_closing hops]
      exact ⟨rfl, rfl⟩
    · rw [beq_false_of_ne hopening, beq_false_of_ne hclosing]
      simp only [Lexeme.ofPiece, hopening, hclosing, if_false]
      split
      · exact ⟨rfl, rfl⟩
      · split <;> exact ⟨rfl, rfl⟩

/-- Reading leaves those pieces open that open a parenthesis and are not closed. -/
theorem openings_of_read_pieces {part : List (List Char)} {emitted : List Token}
    {final : List Pending} (hproper : ∀ x ∈ part.map (Lexeme.ofPiece ops), x.IsProper ops)
    (h : read [] (part.map (Lexeme.ofPiece ops)) = .ok (emitted, final)) :
    final.countP Pending.isOpened + part.count [')'] = part.count ['('] := by
  have hopening : Lexeme.isOpening ∘ Lexeme.ofPiece ops = (· == ['(']) :=
    funext fun piece => (parentheses_ofPiece hops piece).1
  have hclosing : Lexeme.isClosing ∘ Lexeme.ofPiece ops = (· == [')']) :=
    funext fun piece => (parentheses_ofPiece hops piece).2
  have hcount := openings_of_read hops hproper h
  rw [List.countP_map, List.countP_map, hopening, hclosing, List.countP_nil, Nat.zero_add] at hcount
  exact hcount

end

/-- **What pends at any point of an expression**, also of one that makes no sense or is refused
later. Operators that pend one above the other, with no parenthesis between them, bind stronger from
below upwards. As many parentheses pend as have been opened and not closed. So with the basic
operators no more than two for each open parenthesis and two more can pend beside the parentheses;
that goes for every lower part as well, which is what is left while operators are put into the
plan. -/
theorem pending_of_read_pieces (hops : ops.SingleCharacter ['(', ')']) {s : String}
    {part : List (List Char)} (hpart : part <+: pieces ops s.toList) {emitted : List Token}
    {pending : List Pending}
    (h : read [] (part.map (Lexeme.ofPiece ops)) = .ok (emitted, pending)) :
    (∀ stacked, pended stacked <:+: pending →
      stacked.Pairwise fun upper lower => lower.precedence < upper.precedence) ∧
    pending.countP Pending.isOpened + part.count [')'] = part.count ['('] ∧
    (ops = .basic → ∀ lower, lower <:+ pending →
      lower.length ≤ 3 * lower.countP Pending.isOpened + 2) := by
  have hproper := isProper_of_read_subset (List.map_subset _ hpart.subset) h
  have hlayered : IsLayered ops pending := IsLayered.nil.of_read hproper h
  refine ⟨fun stacked => hlayered.pairwise, openings_of_read_pieces hops hproper h, ?_⟩
  rintro rfl lower hlower
  have hlength := (hlayered.of_suffix hlower).length_lt
  rw [Operators.levels_basic] at hlength
  omega

/-- Operators one behind the other, one parenthesis that is closed and one that is open: as much
pends as can. What follows is refused. -/
theorem pending_of_read_pieces_misplaced :
    Operators.basic.SingleCharacter ['(', ')'] ∧
    pieces .basic "(8)/2-*(+*".toList <+: pieces .basic "(8)/2-*(+*))".toList ∧
    read [] ((pieces .basic "(8)/2-*(+*".toList).map (Lexeme.ofPiece .basic))
      = .ok ([.operand "8", .operand "2", .operator "/"],
          pended [⟨"*", 1, Number.mul⟩, ⟨"+", 0, Number.add⟩] ++ .opened ::
            pended [⟨"*", 1, Number.mul⟩, ⟨"-", 0, Number.sub⟩]) ∧
    [⟨"*", 1, Number.mul⟩, ⟨"+", 0, Number.add⟩].Pairwise
      (fun upper lower : Operator => lower.precedence < upper.precedence) ∧
    1 + (pieces .basic "(8)/2-*(+*".toList).count [')']
      = (pieces .basic "(8)/2-*(+*".toList).count ['('] ∧
    (pended [⟨"*", 1, Number.mul⟩, ⟨"+", 0, Number.add⟩] ++ .opened ::
      pended [⟨"*", 1, Number.mul⟩, ⟨"-", 0, Number.sub⟩]).length ≤ 3 * 1 + 2 := by
  have hops : Operators.basic.SingleCharacter ['(', ')'] :=
    Operators.basic_singleCharacter.mono (by simp)
  have hpart : pieces .basic "(8)/2-*(+*".toList <+: pieces .basic "(8)/2-*(+*))".toList :=
    ⟨[[')'], [')']], rfl⟩
  have hread : read [] ((pieces .basic "(8)/2-*(+*".toList).map (Lexeme.ofPiece .basic))
      = .ok ([.operand "8", .operand "2", .operator "/"],
          pended [⟨"*", 1, Number.mul⟩, ⟨"+", 0, Number.add⟩] ++ .opened ::
            pended [⟨"*", 1, Number.mul⟩, ⟨"-", 0, Number.sub⟩]) := rfl
  obtain ⟨hbinds, hcount, hlength⟩ := pending_of_read_pieces hops hpart hread
  exact ⟨hops, hpart, hread, hbinds _ (List.prefix_append _ _).isInfix, hcount,
    hlength rfl _ (List.suffix_refl _)⟩

end Infix
end Abacus
