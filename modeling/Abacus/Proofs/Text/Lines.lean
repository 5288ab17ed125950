import Abacus.Text.Lines

/-!
# Texts made of lines

A text can be put together from its lines, each with a line feed behind it (`Text.unlines`): plain
texts are made so (specification §13), and so is what a run prints (§14). Where a text is divided
into lines again, the ends that are no line feeds are replaced first (`Text.unifyLineEnds_append`),
and then one line after the other is taken off at its line feed (`Text.splitLines_line`).
-/

namespace Abacus.Text

/-- A text that can be a line: no character in it ends one. -/
def IsLine (s : String) : Prop :=
  ∀ c ∈ s.toList, c ≠ '\n' ∧ c ≠ '\r'

instance (s : String) : Decidable (IsLine s) :=
  List.decidableBAll (fun c => c ≠ '\n' ∧ c ≠ '\r') s.toList

/-- The text with the given lines. -/
def unlines (texts : List String) : String :=
  String.join (texts.map (· ++ "\n"))

theorem unlines_map {α : Type} (line : α → String) (xs : List α) :
    unlines (xs.map line) = String.join (xs.map fun x => line x ++ "\n") := by
  rw [unlines, List.map_map]
  rfl

theorem unlines_cons (text : String) (texts : List String) :
    unlines (text :: texts) = text ++ "\n" ++ unlines texts := by
  rw [unlines, List.map_cons, String.join_cons]
  rfl

theorem toList_unlines_cons (text : String) (texts : List String) :
    (unlines (text :: texts)).toList = text.toList ++ '\n' :: (unlines texts).toList := by
  rw [unlines_cons, String.toList_append, String.toList_append, List.append_assoc]
  rfl

/-- What is made of lines ends with a line feed. -/
theorem getLast?_unlines {texts : List String} (h : texts ≠ []) :
    (unlines texts).toList.getLast? = some '\n' := by
  induction texts with
  | nil => exact absurd rfl h
  | cons text texts ih =>
    rw [toList_unlines_cons, List.getLast?_append, List.getLast?_cons]
    cases texts with
    | nil => rfl
    | cons next texts =>
      rw [ih (List.cons_ne_nil next texts)]
      rfl

/-! ## Dividing into lines -/

/-- Characters that are no carriage returns are left as they are. -/
theorem unifyLineEnds_append {cs : List Char} (h : ∀ c ∈ cs, c ≠ '\r') (rest : List Char) :
    unifyLineEnds (cs ++ rest) = cs ++ unifyLineEnds rest := by
  induction cs with
  | nil => rfl
  | cons c cs ih =>
    obtain ⟨hc, hcs⟩ := List.forall_mem_cons.mp h
    rw [List.cons_append, unifyLineEnds, ih hcs, List.cons_append]
    · intro _ heq
      exact absurd heq hc
    · exact hc

/-- A line ends at the first line feed. -/
theorem splitLines_line {cs : List Char} (h : ∀ c ∈ cs, c ≠ '\n') (line rest : List Char) :
    splitLines line (cs ++ '\n' :: rest) = (line.reverse ++ cs) :: splitLines [] rest := by
  induction cs generalizing line with
  | nil =>
    rw [List.nil_append, splitLines, if_pos rfl, List.append_nil]
  | cons c cs ih =>
    obtain ⟨hc, hcs⟩ := List.forall_mem_cons.mp h
    rw [List.cons_append, splitLines, if_neg hc, ih hcs, List.reverse_cons, List.append_assoc]
    rfl

end Abacus.Text
