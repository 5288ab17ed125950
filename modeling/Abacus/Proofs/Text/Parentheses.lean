import Mathlib.Data.List.Infix

/-!
# Parentheses in a text

Which parentheses of a text belong together, told by counting alone. A closing parenthesis is in
excess if more have been closed than opened up to it; an opening one is closed if what follows it
has a closing parenthesis behind a part whose parentheses pair off. Where no parenthesis is in
excess, all that are opened are closed if and only if there are as many of both kinds
(`forall_isClosed_iff`).
-/

namespace Abacus.Text

/-- Whether more parentheses are closed than opened. -/
def Exceeds (cs : List Char) : Prop :=
  cs.count '(' < cs.count ')'

/-- Whether the closing parenthesis behind `before` is the first one of a text up to which more
parentheses are closed than opened. -/
structure IsExcess (cs before : List Char) : Prop where
  closes : before ++ [')'] <+: cs
  exceeds : Exceeds (before ++ [')'])
  first : ∀ earlier, earlier ++ [')'] <+: before → ¬ Exceeds (earlier ++ [')'])

/-- Whether the parentheses of a text pair off: as many are closed as opened, and nowhere before are
more closed than opened. -/
def Balanced (cs : List Char) : Prop :=
  cs.count '(' = cs.count ')' ∧ ∀ part, part <+: cs → ¬ Exceeds part

/-- Whether an opening parenthesis that `rest` follows is closed. -/
def IsClosed (rest : List Char) : Prop :=
  ∃ inner outer, rest = inner ++ ')' :: outer ∧ Balanced inner

theorem not_exceeds_nil : ¬ Exceeds [] := by
  simp [Exceeds]

/-- Only a closing parenthesis can make the closed ones exceed the opened ones. -/
theorem eq_closing_of_exceeds {cs : List Char} {c : Char} (h : Exceeds (cs ++ [c]))
    (hcs : ¬ Exceeds cs) : c = ')' := by
  by_contra hc
  have hcount : (cs ++ [c]).count ')' = cs.count ')' := by
    simp [List.count_append, hc]
  have hle : cs.count '(' ≤ (cs ++ [c]).count '(' := (List.sublist_append_left cs [c]).count_le _
  unfold Exceeds at h hcs
  omega

/-- If the closed parentheses of some beginning exceed the opened ones, there is a first one. -/
theorem exists_isExcess {cs part : List Char} (hpart : part <+: cs) (h : Exceeds part) :
    ∃ before, IsExcess cs before := by
  induction hlength : part.length using Nat.strong_induction_on generalizing part with
  | _ n ih =>
    subst hlength
    by_cases hshorter : ∃ shorter, shorter <+: part ∧ shorter.length < part.length ∧ Exceeds shorter
    · obtain ⟨shorter, hbegins, hlt, hexceeds⟩ := hshorter
      exact ih _ hlt (hbegins.trans hpart) hexceeds rfl
    · -- the last character of the shortest one is the parenthesis
      rcases List.eq_nil_or_concat' part with rfl | ⟨before, c, rfl⟩
      · exact absurd h not_exceeds_nil
      · have hnot {shorter : List Char} (hbegins : shorter <+: before) : ¬ Exceeds shorter :=
          fun hexceeds => hshorter ⟨shorter, hbegins.trans (List.prefix_append _ _), by
            simpa using Nat.lt_succ_of_le hbegins.length_le, hexceeds⟩
        obtain rfl := eq_closing_of_exceeds h (hnot List.prefix_rfl)
        exact ⟨before, hpart, h, fun _ hearlier => hnot hearlier⟩

/-- The parentheses before the first one in excess pair off. -/
theorem IsExcess.balanced {cs before : List Char} (h : IsExcess cs before) : Balanced before := by
  have hnot {part : List Char} (hpart : part <+: before) : ¬ Exceeds part := by
    intro hexceeds
    obtain ⟨earlier, hearlier⟩ := exists_isExcess hpart hexceeds
    exact h.first earlier hearlier.closes hearlier.exceeds
  refine ⟨?_, fun part => hnot⟩
  have hopening : (before ++ [')']).count '(' = before.count '(' := by simp
  have hclosing : (before ++ [')']).count ')' = before.count ')' + 1 := by simp
  have hbefore := hnot List.prefix_rfl
  have hexceeds := h.exceeds
  unfold Exceeds at hbefore hexceeds
  omega

/-- A parenthesis in excess is in excess in what contains it. -/
theorem IsExcess.of_length_lt {cs part before : List Char} (h : IsExcess cs before)
    (hpart : part <+: cs) (hlt : before.length < part.length) : IsExcess part before :=
  ⟨List.prefix_of_prefix_length_le h.closes hpart (by simpa using Nat.succ_le_of_lt hlt),
    h.exceeds, h.first⟩

/-- Where all parentheses that are opened are closed, no more are opened than closed. -/
theorem count_opening_le {cs : List Char}
    (h : ∀ before rest, cs = before ++ '(' :: rest → IsClosed rest) :
    cs.count '(' ≤ cs.count ')' := by
  induction hlength : cs.length using Nat.strong_induction_on generalizing cs with
  | _ n ih =>
    subst hlength
    cases cs with
    | nil => exact Nat.le_refl _
    | cons c rest =>
      by_cases hc : c = '('
      · subst hc
        -- what is enclosed pairs off, and what follows is a shorter text of the same kind
        obtain ⟨inner, outer, rfl, hcount, -⟩ := h [] rest rfl
        have houter := ih outer.length (by simp; omega)
          (fun before rest hrest => h ('(' :: (inner ++ ')' :: before)) rest (by simp [hrest])) rfl
        have hne : ')' ≠ '(' := by decide
        simp only [List.count_cons_self, List.count_append, List.count_cons_of_ne hne,
          List.count_cons_of_ne hne.symm]
        omega
      · have hrest := ih rest.length (by simp)
          (fun before after hafter => h (c :: before) after (by simp [hafter])) rfl
        have hle := (List.sublist_cons_self c rest).count_le ')'
        rw [List.count_cons_of_ne hc]
        omega

/-- **Where no parenthesis is in excess**, all that are opened are closed if and only if as many are
closed as opened. -/
theorem forall_isClosed_iff {cs : List Char} (h : ∀ before, ¬ IsExcess cs before) :
    (∀ before rest, cs = before ++ '(' :: rest → IsClosed rest) ↔ cs.count '(' = cs.count ')' := by
  have hnot {part : List Char} (hpart : part <+: cs) : ¬ Exceeds part := by
    intro hexceeds
    obtain ⟨before, hbefore⟩ := exists_isExcess hpart hexceeds
    exact h before hbefore
  constructor
  · intro hclosed
    exact Nat.le_antisymm (count_opening_le hclosed) (Nat.not_lt.mp (hnot List.prefix_rfl))
  · rintro hcount before rest rfl
    -- the parenthesis that closes it is the first one in excess behind it
    have hbefore := hnot (List.prefix_append before _)
    have hexceeds : Exceeds rest := by
      unfold Exceeds at hbefore ⊢
      rw [List.count_append, List.count_append, List.count_cons_self,
        List.count_cons_of_ne (by decide)] at hcount
      omega
    obtain ⟨inner, hinner⟩ := exists_isExcess List.prefix_rfl hexceeds
    obtain ⟨outer, houter⟩ := hinner.closes
    exact ⟨inner, outer, by simpa using houter.symm, hinner.balanced⟩

end Abacus.Text
