import Abacus.Proofs.Text.Lines

/-!
# Inputs

An input holds lines, each with one of three ends (`Text.Holds`). Blank lines can stand anywhere
among them, and the last line may lack its end. A line that ends with a carriage return may be
followed by an empty one that ends with a line feed; the two ends are then taken for a single one,
but no line is lost other than the empty one. So the lines that are found in an input, apart from
blank ones, are those that it holds (`Text.Holds.filledLines_eq`).
-/

namespace Abacus.Text

/-- How a line can end. -/
inductive LineEnd where
  | feed
  | carriage
  /-- A carriage return with a line feed behind it. -/
  | both
deriving DecidableEq, Repr

/-- The characters of a line end. -/
def LineEnd.text : LineEnd → String
  | .feed => "\n"
  | .carriage => "\r"
  | .both => "\r\n"

/-- An input holds lines in their order, and blank lines anywhere among them. Each line may have an
end of its own kind, and the last one need not have any. -/
inductive Holds : List String → String → Prop
  | line {line : String} {lines : List String} {rest : String} (ending : LineEnd) :
      IsLine line → Holds lines rest → Holds (line :: lines) (line ++ ending.text ++ rest)
  | blank {line : String} {lines : List String} {rest : String} (ending : LineEnd) :
      IsLine line → allBlank line = true → Holds lines rest →
      Holds lines (line ++ ending.text ++ rest)
  /-- The last line lacks its end. -/
  | last {line : String} : IsLine line → Holds [line] line
  /-- Nothing is left, or a blank line without end. -/
  | rest {line : String} : IsLine line → allBlank line = true → Holds [] line

/-! ## Lines among characters -/

/-- The lines that characters make, without the blank ones. -/
def filledOf (cs : List Char) : List String :=
  ((splitLines [] (unifyLineEnds cs)).map String.ofList).filter fun line => !allBlank line

theorem filledOf_toList (s : String) : filledOf s.toList = filledLines s := rfl

/-- What comes of a line that is followed by others. -/
theorem filledOf_of_unify {line : String} (h : IsLine line) {cs rest : List Char}
    (hunify : unifyLineEnds cs = '\n' :: unifyLineEnds rest) :
    filledOf (line.toList ++ cs) = [line].filter (fun line => !allBlank line) ++ filledOf rest := by
  rw [filledOf, unifyLineEnds_append fun c hc => (h c hc).2, hunify,
    splitLines_line fun c hc => (h c hc).1, List.map_cons]
  show List.filter _ ([String.ofList line.toList] ++ _) = _
  rw [String.ofList_toList, List.filter_append]
  rfl

/-- An empty line is left out. -/
theorem filledOf_feed (cs : List Char) : filledOf ('\n' :: cs) = filledOf cs := by
  have hempty : IsLine "" := by decide
  exact filledOf_of_unify hempty rfl

/-- A line end counts once, also where the line feed behind a carriage return is the end of an
empty line. -/
theorem exists_unify (ending : LineEnd) (cs : List Char) : ∃ rest,
    unifyLineEnds (ending.text.toList ++ cs) = '\n' :: unifyLineEnds rest ∧
      filledOf rest = filledOf cs := by
  cases ending with
  | feed => exact ⟨cs, rfl, rfl⟩
  | both => exact ⟨cs, rfl, rfl⟩
  | carriage =>
    by_cases hfeed : ∃ rest, cs = '\n' :: rest
    · obtain ⟨rest, rfl⟩ := hfeed
      exact ⟨rest, rfl, (filledOf_feed rest).symm⟩
    · refine ⟨cs, ?_, rfl⟩
      show unifyLineEnds ('\r' :: cs) = _
      rw [unifyLineEnds]
      intro rest hrest
      exact hfeed ⟨rest, hrest⟩

/-- A line with its end in front of other lines. -/
theorem filledLines_line {line : String} (h : IsLine line) (ending : LineEnd) (rest : String) :
    filledLines (line ++ ending.text ++ rest)
      = [line].filter (fun line => !allBlank line) ++ filledLines rest := by
  obtain ⟨cs, hunify, hfilled⟩ := exists_unify ending rest.toList
  rw [← filledOf_toList, String.toList_append, String.toList_append, List.append_assoc,
    filledOf_of_unify h hunify, hfilled]
  rfl

theorem splitLines_of_forall {cs : List Char} (h : ∀ c ∈ cs, c ≠ '\n') (line : List Char) :
    splitLines line cs = if line.isEmpty && cs.isEmpty then [] else [line.reverse ++ cs] := by
  induction cs generalizing line with
  | nil => simp [splitLines]
  | cons c cs ih =>
    obtain ⟨hc, hcs⟩ := List.forall_mem_cons.mp h
    simp [splitLines, hc, ih hcs]

/-- A line without an end. -/
theorem filledLines_of_isLine {line : String} (h : IsLine line) :
    filledLines line = [line].filter fun line => !allBlank line := by
  have hunify : unifyLineEnds line.toList = line.toList := by
    have happend := unifyLineEnds_append (fun c hc => (h c hc).2) []
    rwa [unifyLineEnds, List.append_nil] at happend
  rw [filledLines, lines, hunify, splitLines_of_forall fun c hc => (h c hc).1]
  by_cases hempty : line = ""
  · subst hempty
    rfl
  · have hne : line.toList.isEmpty = false := by
      simpa [List.isEmpty_eq_false_iff] using hempty
    simp [hne]

/-! ## Lines of an input -/

/-- **The lines of an input** are found, except for the blank ones. -/
theorem Holds.filledLines_eq {lines : List String} {input : String} (h : Holds lines input)
    (hfilled : ∀ line ∈ lines, allBlank line = false) : filledLines input = lines := by
  induction h with
  | line ending hline _ ih =>
    obtain ⟨hfirst, hlines⟩ := List.forall_mem_cons.mp hfilled
    rw [filledLines_line hline, ih hlines, List.filter_cons, hfirst]
    rfl
  | blank ending hline hblank _ ih =>
    rw [filledLines_line hline, ih hfilled, List.filter_cons, hblank]
    rfl
  | last hline =>
    rw [filledLines_of_isLine hline, List.filter_cons, hfilled _ List.mem_cons_self]
    rfl
  | rest hline hblank =>
    rw [filledLines_of_isLine hline, List.filter_cons, hblank]
    rfl

/-- A text made of lines is an input that holds them. -/
theorem holds_unlines {texts : List String} (h : ∀ text ∈ texts, IsLine text) :
    Holds texts (unlines texts) := by
  induction texts with
  | nil => exact .rest (by decide) (by decide)
  | cons text texts ih =>
    obtain ⟨htext, htexts⟩ := List.forall_mem_cons.mp h
    rw [unlines_cons]
    exact .line .feed htext (ih htexts)

end Abacus.Text
