import Abacus.Proofs.Text.Lines

/-!
# Lines of sources

In a plain text (specification §13), the line of a source is the source itself with what is shown
for it, behind an equals sign. As nothing that is shown has an equals sign or a line feed in it, a
text made of such lines has a line feed for each source, apart from those of the sources themselves
(`count_linesOf`). And it is made of no other sources, unless one of them starts with the whole line
of another one, its line feed included (`eq_or_exists_of_linesOf`): sources are not marked off
against the text around them in any other way than by the ends of lines.

The last is proved line by line. Of two sources that a text starts with, one goes on where the other
ends; what it goes on with has to take in the equals sign and the result of the shorter one, as
there is no second equals sign before the line ends (`eq_nil_or_prefix`).
-/

namespace Abacus

/-- What is shown for a source can stand in a line of its own behind an equals sign. -/
def IsShowable (result : String) : Prop :=
  ∀ c ∈ result.toList, c ≠ '=' ∧ c ≠ '\n'

instance (result : String) : Decidable (IsShowable result) :=
  List.decidableBAll (fun c => c ≠ '=' ∧ c ≠ '\n') result.toList

variable (shown : String → String)

/-- The line of a source without its end. -/
def equationOf (source : String) : String :=
  source ++ " = " ++ shown source

/-- The line of a source. -/
def lineOf (source : String) : String :=
  equationOf shown source ++ "\n"

/-- The text with the lines of some sources. -/
def linesOf (sources : List String) : String :=
  Text.unlines (sources.map (equationOf shown))

theorem toList_equationOf (source : String) : (equationOf shown source).toList
    = source.toList ++ ' ' :: '=' :: ' ' :: (shown source).toList := by
  rw [equationOf, String.toList_append, String.toList_append, List.append_assoc]
  rfl

theorem toList_lineOf (source : String) : (lineOf shown source).toList
    = source.toList ++ ' ' :: '=' :: ' ' :: ((shown source).toList ++ ['\n']) := by
  rw [lineOf, String.toList_append, toList_equationOf, List.append_assoc]
  rfl

theorem linesOf_cons (source : String) (sources : List String) :
    linesOf shown (source :: sources) = lineOf shown source ++ linesOf shown sources := by
  rw [linesOf, List.map_cons, Text.unlines_cons]
  rfl

theorem toList_linesOf_cons (source : String) (sources : List String) :
    (linesOf shown (source :: sources)).toList
      = (lineOf shown source).toList ++ (linesOf shown sources).toList := by
  rw [linesOf_cons, String.toList_append]

variable {shown} (hshown : ∀ source, IsShowable (shown source))
include hshown

/-! ## Line feeds -/

theorem count_lineOf (source : String) :
    (lineOf shown source).toList.count '\n' = source.toList.count '\n' + 1 := by
  have hresult : (shown source).toList.count '\n' = 0 :=
    List.count_eq_zero.mpr fun hmem => (hshown source _ hmem).2 rfl
  rw [toList_lineOf, List.count_append]
  simp [hresult]

/-- **Line feeds**: one for each source, and those of the sources. -/
theorem count_linesOf (sources : List String) : (linesOf shown sources).toList.count '\n'
    = sources.length + (sources.flatMap String.toList).count '\n' := by
  induction sources with
  | nil => rfl
  | cons source sources ih =>
    rw [toList_linesOf_cons, List.count_append, count_lineOf hshown, ih, List.length_cons,
      List.flatMap_cons, List.count_append]
    omega

/-- **Lines**: those of the sources in their order, if no source has a line feed in it. -/
theorem splitLines_linesOf {sources : List String} (h : ∀ source ∈ sources, '\n' ∉ source.toList) :
    Text.splitLines [] (linesOf shown sources).toList
      = sources.map fun source => (equationOf shown source).toList := by
  induction sources with
  | nil => rfl
  | cons source sources ih =>
    obtain ⟨hsource, hsources⟩ := List.forall_mem_cons.mp h
    have hline : ∀ c ∈ (equationOf shown source).toList, c ≠ '\n' := by
      intro c hc
      rw [toList_equationOf] at hc
      simp only [List.mem_append, List.mem_cons] at hc
      rcases hc with hc | rfl | rfl | rfl | hc
      · exact fun heq => hsource (heq ▸ hc)
      · decide
      · decide
      · decide
      · exact (hshown source c hc).2
    rw [toList_linesOf_cons, lineOf, String.toList_append, List.append_assoc, List.map_cons,
      ← ih hsources]
    exact Text.splitLines_line hline [] _

/-! ## Other sources with the same lines -/

omit hshown in
/-- Behind what is shown there is no second equals sign in a line. So what is put in front of an
equals sign that comes later takes in the whole line. -/
theorem eq_nil_or_prefix {result rest behind before : List Char} (h : '=' ∉ result)
    (heq : ' ' :: '=' :: ' ' :: (result ++ '\n' :: rest) = before ++ ' ' :: '=' :: behind) :
    before = [] ∨ ∃ more, before = ' ' :: '=' :: ' ' :: (result ++ '\n' :: more) := by
  -- by how much of the blank and the equals sign belongs to what is put in front
  match before with
  | [] => exact .inl rfl
  | [c] =>
    obtain ⟨-, htail⟩ := List.cons.inj heq
    exact absurd (List.cons.inj htail).1 (by decide)
  | c :: d :: before =>
    simp only [List.cons_append, List.cons.injEq] at heq
    obtain ⟨rfl, rfl, htail⟩ := heq
    have hsplit : (' ' :: result ++ ['\n']) ++ rest = before ++ ' ' :: '=' :: behind := by
      rw [← htail]
      simp
    rcases List.append_eq_append_iff.mp hsplit with ⟨more, hmore, -⟩ | ⟨left, hleft, hright⟩
    · exact .inr ⟨more, by simp [hmore]⟩
    · -- the rest of the line would hold a blank and an equals sign, or end with a blank
      match left with
      | [] => exact .inr ⟨[], by simpa using hleft.symm⟩
      | [b] =>
        obtain ⟨-, hb⟩ := List.append_inj' hleft rfl
        cases hb
        exact absurd (List.cons.inj hright).1 (by decide)
      | b :: e :: left =>
        obtain ⟨-, htail⟩ := List.cons.inj hright
        obtain ⟨rfl, -⟩ := List.cons.inj htail
        have hmem : '=' ∈ ' ' :: result ++ ['\n'] := by
          rw [hleft]
          simp
        simp [h] at hmem

/-- A source that goes on where another one ends is the same or starts with the line of the
other. -/
theorem eq_or_exists_of_append {source other : String} {before rest behind : List Char}
    (hother : other.toList = source.toList ++ before)
    (h : ' ' :: '=' :: ' ' :: ((shown source).toList ++ '\n' :: rest)
      = before ++ ' ' :: '=' :: behind) :
    source = other ∨ ∃ more, other = lineOf shown source ++ more := by
  have hresult : '=' ∉ (shown source).toList := fun hmem => (hshown source _ hmem).1 rfl
  rcases eq_nil_or_prefix hresult h with rfl | ⟨more, rfl⟩
  · rw [List.append_nil] at hother
    exact .inl (String.toList_injective hother.symm)
  · refine .inr ⟨String.ofList more, String.toList_injective ?_⟩
    rw [String.toList_append, toList_lineOf, String.toList_ofList, hother]
    simp

/-- Texts that start with two lines are equal only if the lines are those of one source, or if one
source starts with the line of the other. -/
theorem eq_or_exists_of_lineOf {source other : String} {rest rest' : List Char}
    (h : (lineOf shown source).toList ++ rest = (lineOf shown other).toList ++ rest') :
    source = other ∨ (∃ more, other = lineOf shown source ++ more) ∨
      ∃ more, source = lineOf shown other ++ more := by
  have hline (s : String) (cs : List Char) : (lineOf shown s).toList ++ cs
      = s.toList ++ ' ' :: '=' :: ' ' :: ((shown s).toList ++ '\n' :: cs) := by
    rw [toList_lineOf]
    simp
  rw [hline, hline] at h
  rcases List.append_eq_append_iff.mp h with ⟨before, hother, hrest⟩ | ⟨before, hsource, hrest⟩
  · exact (eq_or_exists_of_append hshown hother hrest).imp_right .inl
  · exact (eq_or_exists_of_append hshown hsource hrest).imp .symm .inr

/-- **Sources with the same lines** are the same, unless one of them starts with the whole line of
another one. The texts are compared line by line, and the first two sources that differ are the ones
that do. -/
theorem eq_or_exists_of_linesOf {first second : List String}
    (h : linesOf shown first = linesOf shown second) :
    first = second ∨ ∃ source ∈ first, ∃ other ∈ second,
      (∃ more, other = lineOf shown source ++ more) ∨
        ∃ more, source = lineOf shown other ++ more := by
  have hne (source : String) (sources : List String) : linesOf shown (source :: sources) ≠ "" := by
    intro hempty
    have hchars := congrArg String.toList hempty
    rw [toList_linesOf_cons, toList_lineOf] at hchars
    simp at hchars
  -- line by line, as long as the sources are the same
  induction first generalizing second with
  | nil =>
    cases second with
    | nil => exact .inl rfl
    | cons other second => exact absurd h.symm (hne other second)
  | cons source first ih =>
    cases second with
    | nil => exact absurd h (hne source first)
    | cons other second =>
      have hchars := congrArg String.toList h
      rw [toList_linesOf_cons, toList_linesOf_cons] at hchars
      rcases eq_or_exists_of_lineOf hshown hchars with rfl | hstarts
      · have hrest := String.toList_injective (List.append_cancel_left hchars)
        rcases ih hrest with rfl | ⟨s, hs, t, ht, hstarts⟩
        · exact .inl rfl
        · exact .inr ⟨s, List.mem_cons_of_mem _ hs, t, List.mem_cons_of_mem _ ht, hstarts⟩
      · exact .inr ⟨source, List.mem_cons_self, other, List.mem_cons_self, hstarts⟩

/-- Sources without line feeds are determined by their lines. -/
theorem eq_of_linesOf {first second : List String} (h : linesOf shown first = linesOf shown second)
    (hfeeds : ∀ source ∈ first ++ second, '\n' ∉ source.toList) : first = second := by
  rcases eq_or_exists_of_linesOf hshown h with heq | ⟨source, hsource, other, hother, hstarts⟩
  · exact heq
  · exfalso
    have hmem (s more : String) : '\n' ∈ (lineOf shown s ++ more).toList := by
      rw [String.toList_append, toList_lineOf]
      simp
    rcases hstarts with ⟨more, rfl⟩ | ⟨more, rfl⟩
    · exact hfeeds _ (List.mem_append_right first hother) (hmem source more)
    · exact hfeeds _ (List.mem_append_left second hsource) (hmem other more)

end Abacus
