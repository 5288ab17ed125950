import Abacus.Proofs.Expression.Conservation
import Abacus.Proofs.Expression.Terms

/-!
# The pieces of a text

A text is made of delimiters and of maximal runs of other characters, and its lexemes are those, in
order: this is how an expression is split (specification §4.1, step 1). What holds of all lexemes is
shown by going through a text in that way (`Infix.pieces_induction`):

- `Infix.openings_of_read_lexed`: the parentheses among the lexemes are those of the text.
- `Infix.filterMap_token?_lexed`: the other lexemes are the terms of the text.
- `Infix.perm_terms_of_read`: so these are what the plan is made of.
- `Infix.exists_of_lexed`: each lexeme can be found again in the text, behind the part that the
  lexemes before it stem from. That is how a complaint about a lexeme is one about a place.

Terms are also what the postfix reader reads (`Operators.terms`). So whatever is said of the plan in
terms of the text alone is the same for both notations.
-/

namespace Abacus
namespace Infix

variable {ops : Operators}

/-! ## Division into pieces

An expression is a sequence of delimiters and of runs between them. `pieces_induction` goes along
that sequence, so that what follows has three cases: nothing, a delimiter, a run in front of a
delimiter or of the end. -/

/-- The lexemes of some characters. -/
def lexed (ops : Operators) (cs : List Char) : List Lexeme :=
  (pieces ops cs).map (Lexeme.ofPiece ops)

theorem lexemes_eq_lexed (s : String) : lexemes ops s = lexed ops s.toList := rfl

/-- What can be read has no foreign lexemes, and its operators are those of the table. -/
theorem isProper_of_read_lexed {cs : List Char} {pending final : List Pending}
    {emitted : List Token} (h : read pending (lexed ops cs) = .ok (emitted, final)) :
    ∀ x ∈ lexed ops cs, x.IsProper ops := by
  have hlexemes : lexemes ops (String.ofList cs) = lexed ops cs := by
    rw [lexemes_eq_lexed, String.toList_ofList]
  rw [← hlexemes] at h ⊢
  exact isProper_of_read h

@[simp] theorem lexed_nil : lexed ops [] = [] := rfl

/-- A maximal run of characters that are no marks, behind `before` and in front of `after`: it
starts and ends at a mark or at an end of the text. -/
structure IsRun (marks before run after : List Char) : Prop where
  ne_nil : run ≠ []
  unmarked : ∀ c ∈ run, c ∉ marks
  starts : ∀ c ∈ before.getLast?, c ∈ marks
  ends : ∀ c ∈ after.head?, c ∈ marks

theorem lexed_append {xs ys : List Char}
    (h : (∀ c ∈ xs.getLast?, c ∈ delimiters ops) ∨ ∀ c ∈ ys.head?, c ∈ delimiters ops) :
    lexed ops (xs ++ ys) = lexed ops xs ++ lexed ops ys := by
  rw [lexed, pieces_append h, List.map_append]
  rfl

theorem lexed_delimiter {d : Char} (hd : d ∈ delimiters ops) (cs : List Char) :
    lexed ops (d :: cs) = Lexeme.ofPiece ops [d] :: lexed ops cs := by
  rw [lexed, pieces_cons_delimiter hd, List.map_cons]
  rfl

theorem lexed_run {run : List Char} (hne : run ≠ []) (hrun : ∀ c ∈ run, c ∉ delimiters ops)
    {cs : List Char} (hcs : ∀ c ∈ cs.head?, c ∈ delimiters ops) :
    lexed ops (run ++ cs) = Lexeme.ofPiece ops run :: lexed ops cs := by
  rw [lexed_append (.inr hcs), lexed, pieces_of_forall_notMem hne hrun]
  rfl

/-- **Induction over a text**, delimiter by delimiter and run by run. A run is taken as a whole, up
to the delimiter behind it or to the end. -/
@[elab_as_elim]
theorem pieces_induction (ops : Operators) {motive : List Char → Prop} (cs : List Char)
    (nil : motive [])
    (delimiter : ∀ d cs, d ∈ delimiters ops → motive cs → motive (d :: cs))
    (run : ∀ run cs, run ≠ [] → (∀ c ∈ run, c ∉ delimiters ops) →
      (∀ c ∈ cs.head?, c ∈ delimiters ops) → motive cs → motive (run ++ cs)) : motive cs := by
  -- a run takes several characters at once, so the induction is on the length
  induction hlength : cs.length using Nat.strong_induction_on generalizing cs with
  | _ n ih =>
    subst hlength
    cases cs with
    | nil => exact nil
    | cons c cs =>
      by_cases hc : c ∈ delimiters ops
      · exact delimiter c cs hc (ih _ (Nat.lt_succ_self _) _ rfl)
      · -- the run goes up to the next delimiter
        have hsplit := List.takeWhile_append_dropWhile
          (p := fun d => decide (d ∉ delimiters ops)) (l := cs)
        have hlt : (cs.dropWhile fun d => decide (d ∉ delimiters ops)).length < (c :: cs).length :=
          Nat.lt_succ_of_le (List.dropWhile_sublist _).length_le
        have hmotive := run (c :: cs.takeWhile fun d => decide (d ∉ delimiters ops))
          (cs.dropWhile fun d => decide (d ∉ delimiters ops)) (List.cons_ne_nil _ _) ?_ ?_
          (ih _ hlt _ rfl)
        · rwa [List.cons_append, hsplit] at hmotive
        · refine List.forall_mem_cons.mpr ⟨hc, fun d hd => ?_⟩
          simpa using List.mem_takeWhile_imp hd
        · intro d hd
          have hnot := List.head?_dropWhile_not (fun d => decide (d ∉ delimiters ops)) cs
          rw [Option.mem_def.mp hd] at hnot
          simpa using hnot

/-! ## Pieces as lexemes -/

/-- A run of characters that are no delimiters is an operand, or has no place in an expression. -/
theorem ofPiece_run {run : List Char} (hne : run ≠ []) (hrun : ∀ c ∈ run, c ∉ delimiters ops) :
    Lexeme.ofPiece ops run
      = if run.all Char.isDigit then .operand (String.ofList run) else .foreign := by
  obtain ⟨c, hc⟩ := List.exists_mem_of_ne_nil run hne
  have hfind : ops.find? (String.ofList run) = none := by
    refine List.find?_eq_none.mpr fun op hop heq => hrun c hc ?_
    have hsymbol : op.symbol = String.ofList run := of_decide_eq_true heq
    refine List.mem_append_left _ (List.mem_flatMap.mpr ⟨op.symbol, List.mem_map_of_mem hop, ?_⟩)
    rw [hsymbol, String.toList_ofList]
    exact hc
  -- a parenthesis would be a delimiter in the run
  have hopening : run ≠ ['('] := by
    rintro rfl
    exact hrun '(' List.mem_cons_self (opening_mem_delimiters ops)
  have hclosing : run ≠ [')'] := by
    rintro rfl
    exact hrun ')' List.mem_cons_self (closing_mem_delimiters ops)
  rw [Lexeme.ofPiece, hfind]
  simp only [hopening, hclosing, if_false]

section
variable (hops : ops.SingleCharacter ['(', ')'])
include hops

/-- What a delimiter can be: an operator of the table, an opening parenthesis or a closing one. -/
theorem ofPiece_delimiter {d : Char} (hd : d ∈ delimiters ops) :
    (∃ op, ops.find? (String.singleton d) = some op ∧ d ≠ '(' ∧ d ≠ ')' ∧
      Lexeme.ofPiece ops [d] = .operator op) ∨
    (d = '(' ∧ Lexeme.ofPiece ops [d] = .opening) ∨
    (d = ')' ∧ Lexeme.ofPiece ops [d] = .closing) := by
  -- delimiters are the characters of the symbols, and the two parentheses
  rcases List.mem_append.mp hd with hsymbol | hparenthesis
  · obtain ⟨symbol, hsymbol, hmem⟩ := List.mem_flatMap.mp hsymbol
    obtain ⟨op, hop, rfl⟩ := List.mem_map.mp hsymbol
    obtain ⟨c, hc, hdigit, hreserved, hfind⟩ := hops.exists_char hop
    obtain rfl : d = c := by simpa [hc] using hmem
    obtain ⟨hopening, hclosing⟩ : d ≠ '(' ∧ d ≠ ')' := by simpa using hreserved
    exact .inl ⟨op, hfind, hopening, hclosing, ofPiece_symbol hdigit hfind⟩
  · obtain rfl | rfl : d = '(' ∨ d = ')' := by simpa using hparenthesis
    · exact .inr (.inl ⟨rfl, ofPiece_opening hops⟩)
    · exact .inr (.inr ⟨rfl, ofPiece_closing hops⟩)

theorem isDigit_of_mem_delimiters {d : Char} (hd : d ∈ delimiters ops) : d.isDigit = false := by
  rw [Bool.eq_false_iff]
  exact fun hdigit => notMem_delimiters_of_isDigit hops hdigit hd

/-! ## Counting parentheses

Parentheses are delimiters and no run has one, so those among the lexemes can be counted in the
text. -/

omit hops in
/-- A kind of lexeme that stands for one delimiter is as frequent as that delimiter. -/
theorem countP_lexed {p : Lexeme → Bool} {c : Char} (hc : c ∈ delimiters ops)
    (hoperand : ∀ text, p (.operand text) = false) (hforeign : p .foreign = false)
    (hdelimiter : ∀ d ∈ delimiters ops, p (Lexeme.ofPiece ops [d]) = (d == c)) (cs : List Char) :
    (lexed ops cs).countP p = cs.count c := by
  induction cs using pieces_induction ops with
  | nil => rfl
  | delimiter d cs hd ih =>
    rw [lexed_delimiter hd, List.countP_cons, List.count_cons, ih, hdelimiter d hd]
  | run run cs hne hrun hcs ih =>
    have hcount : run.count c = 0 := List.count_eq_zero.mpr fun hmem => hrun c hmem hc
    have hpiece : p (Lexeme.ofPiece ops run) = false := by
      rw [ofPiece_run hne hrun]
      split
      · exact hoperand _
      · exact hforeign
    rw [lexed_run hne hrun hcs, List.countP_cons_of_neg (by simp [hpiece]), ih, List.count_append,
      hcount, Nat.zero_add]

/-- As many lexemes open a parenthesis as there are opening parentheses in the text. -/
theorem countP_isOpening_lexed (cs : List Char) :
    (lexed ops cs).countP Lexeme.isOpening = cs.count '(' := by
  refine countP_lexed (opening_mem_delimiters ops) (fun _ => rfl) rfl (fun d hd => ?_) cs
  rcases ofPiece_delimiter hops hd with ⟨op, -, hopening, -, h⟩ | ⟨rfl, h⟩ | ⟨rfl, h⟩
  · simp [h, Lexeme.isOpening, hopening]
  · simp [h, Lexeme.isOpening]
  · simp [h, Lexeme.isOpening]

theorem countP_isClosing_lexed (cs : List Char) :
    (lexed ops cs).countP Lexeme.isClosing = cs.count ')' := by
  refine countP_lexed (closing_mem_delimiters ops) (fun _ => rfl) rfl (fun d hd => ?_) cs
  rcases ofPiece_delimiter hops hd with ⟨op, -, -, hclosing, h⟩ | ⟨rfl, h⟩ | ⟨rfl, h⟩
  · simp [h, Lexeme.isClosing, hclosing]
  · simp [h, Lexeme.isClosing]
  · simp [h, Lexeme.isClosing]

/-- Reading leaves those parentheses open that are not closed. -/
theorem openings_of_read_lexed {cs : List Char} {final : List Pending} {emitted : List Token}
    (h : read [] (lexed ops cs) = .ok (emitted, final)) :
    final.countP Pending.isOpened + cs.count ')' = cs.count '(' := by
  have hcount := openings_of_read hops (isProper_of_read_lexed h) h
  rw [countP_isOpening_lexed hops, countP_isClosing_lexed hops, List.countP_nil, Nat.zero_add]
    at hcount
  exact hcount

/-! ## Operands and operators -/

/-- **The operands and operators of an expression are its terms**, unless something in it has no
place there. -/
theorem filterMap_token?_lexed {cs : List Char} (h : .foreign ∉ lexed ops cs) :
    (lexed ops cs).filterMap Lexeme.token? = ops.terms cs := by
  induction cs using pieces_induction ops with
  | nil =>
    rw [Operators.terms_nil]
    rfl
  | delimiter d cs hd ih =>
    rw [lexed_delimiter hd] at h ⊢
    have hcs := ih fun hmem => h (List.mem_cons_of_mem _ hmem)
    have hdigit := isDigit_of_mem_delimiters hops hd
    rw [filterMap_token?_cons, hcs]
    rcases ofPiece_delimiter hops hd with ⟨op, hfind, -, -, hpiece⟩ | ⟨rfl, hpiece⟩ | ⟨rfl, hpiece⟩
    · rw [hpiece, Operators.terms_cons_symbol hdigit hfind]
      rfl
    · rw [hpiece, Operators.terms_cons_skipped hdigit (hops.find?_eq_none (by simp))]
      rfl
    · rw [hpiece, Operators.terms_cons_skipped hdigit (hops.find?_eq_none (by simp))]
      rfl
  | run run cs hne hrun hcs ih =>
    rw [lexed_run hne hrun hcs] at h ⊢
    have hrest := ih fun hmem => h (List.mem_cons_of_mem _ hmem)
    have hpiece := ofPiece_run hne hrun
    split at hpiece
    · next hall =>
      let ds : Digits := ⟨run, hne, List.all_eq_true.mp hall⟩
      have hends : ∀ c ∈ cs.head?, c.isDigit = false := fun c hc =>
        isDigit_of_mem_delimiters hops (hcs c hc)
      rw [hpiece, filterMap_token?_cons, hrest]
      exact (Operators.terms_append_digits ds hends).symm
    · rw [hpiece] at h
      exact absurd List.mem_cons_self h

/-- **What is put into the plan and what pends are the terms of the text**, in some order. -/
theorem perm_terms_of_read {cs : List Char} {emitted : List Token} {final : List Pending}
    (h : read [] (lexed ops cs) = .ok (emitted, final)) :
    (emitted ++ final.filterMap Pending.token?).Perm (ops.terms cs) := by
  have hperm := perm_of_read hops (isProper_of_read_lexed h) h
  rwa [filterMap_token?_lexed hops (foreign_notMem_of_read h)] at hperm

end

/-! ## Lexemes in the text

The way back, from a lexeme to the place that it stems from. What comes before it in the text are
the lexemes before it, so the order of lexemes is the order of places. -/

/-- A run in a text is a lexeme. -/
theorem lexed_append_run {before run after : List Char}
    (h : IsRun (delimiters ops) before run after) :
    lexed ops (before ++ (run ++ after))
      = lexed ops before ++ Lexeme.ofPiece ops run :: lexed ops after := by
  rw [lexed_append (.inl h.starts), lexed_run h.ne_nil h.unmarked h.ends]

/-- **A lexeme stems from a place in the text**: it is a delimiter or a run there, and what precedes
it are the lexemes before it. -/
theorem exists_of_lexed {cs : List Char} {xs ys : List Lexeme} {x : Lexeme}
    (h : lexed ops cs = xs ++ x :: ys) :
    ∃ before piece after, cs = before ++ (piece ++ after) ∧ lexed ops before = xs ∧
      Lexeme.ofPiece ops piece = x ∧
      ((∃ d ∈ delimiters ops, piece = [d]) ∨ IsRun (delimiters ops) before piece after) := by
  induction cs using pieces_induction ops generalizing xs with
  | nil => simp at h
  | delimiter d cs hd ih =>
    rw [lexed_delimiter hd] at h
    rcases List.cons_eq_append_iff.mp h with ⟨rfl, hx⟩ | ⟨xs, rfl, hcs⟩
    · obtain ⟨rfl, -⟩ := List.cons.inj hx
      exact ⟨[], [d], cs, rfl, rfl, rfl, .inl ⟨d, hd, rfl⟩⟩
    · obtain ⟨before, piece, after, rfl, rfl, hpiece, hplace⟩ := ih hcs
      refine ⟨d :: before, piece, after, rfl, lexed_delimiter hd before, hpiece,
        hplace.imp_right fun hrun => ⟨hrun.ne_nil, hrun.unmarked, ?_, hrun.ends⟩⟩
      cases before with
      | nil => simpa using hd
      | cons b before =>
        rw [List.getLast?_cons_cons]
        exact hrun.starts
  | run run cs hne hrun hcs ih =>
    rw [lexed_run hne hrun hcs] at h
    rcases List.cons_eq_append_iff.mp h with ⟨rfl, hx⟩ | ⟨xs, rfl, hrest⟩
    · obtain ⟨rfl, -⟩ := List.cons.inj hx
      exact ⟨[], run, cs, rfl, rfl, rfl, .inr ⟨hne, hrun, by simp, hcs⟩⟩
    · obtain ⟨before, piece, after, rfl, rfl, hpiece, hplace⟩ := ih hrest
      have hbefore : ∀ c ∈ before.head?, c ∈ delimiters ops := by
        cases before with
        | nil => simp
        | cons b before => exact hcs
      refine ⟨run ++ before, piece, after, (List.append_assoc ..).symm, lexed_run hne hrun hbefore,
        hpiece, hplace.imp_right fun hpieceRun =>
          ⟨hpieceRun.ne_nil, hpieceRun.unmarked, ?_, hpieceRun.ends⟩⟩
      cases before with
      | nil =>
        -- a run does not follow another one
        obtain ⟨c, piece, rfl⟩ := List.exists_cons_of_ne_nil hpieceRun.ne_nil
        exact absurd (hcs c rfl) (hpieceRun.unmarked c List.mem_cons_self)
      | cons b before =>
        rw [List.getLast?_append_of_ne_nil _ (List.cons_ne_nil _ _)]
        exact hpieceRun.starts

end Infix
end Abacus
