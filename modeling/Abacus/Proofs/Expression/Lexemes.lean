import Abacus.Expression.Infix
import Abacus.Proofs.Expression.Operators
import Abacus.Proofs.Expression.Tree
import Mathlib.Data.List.SplitBy

/-!
# Lexemes of infix expressions

An infix expression is divided at its delimiters, the characters of the operator symbols and the
parentheses (specification §4.1, step 1). A delimiter stands alone whatever surrounds it, so the
lexemes of a text can be read off its parts:

- `lexemes_append_delimiter`: a text is divided at each of its delimiters.
- `lexemes_append_symbol`, `lexemes_enclosed`: so it is at the symbol of an operator and at the
  parentheses around it.
- `lexemes_digits`: a run of digits is one operand.
- `written_lexemes`: nothing is skipped on the way, so a text without foreign characters is what its
  lexemes say.

The last two and all lemmas about symbols need a table of single characters
(`Operators.SingleCharacter`); a symbol of several characters is never found as a piece of its own.
-/

namespace Abacus
namespace Infix

variable {ops : Operators}

/-! ## Pieces -/

theorem mem_delimiters_of_symbol {op : Operator} (h : op ∈ ops.list) {c : Char}
    (hc : op.symbol = String.singleton c) : c ∈ delimiters ops := by
  refine List.mem_append_left _ (List.mem_flatMap.mpr ⟨op.symbol, ?_, ?_⟩)
  · exact List.mem_map_of_mem h
  · rw [hc]
    simp

theorem opening_mem_delimiters (ops : Operators) : '(' ∈ delimiters ops :=
  List.mem_append_right _ (by decide)

theorem closing_mem_delimiters (ops : Operators) : ')' ∈ delimiters ops :=
  List.mem_append_right _ (by decide)

/-- Parts that a delimiter keeps apart are divided each by itself. -/
theorem pieces_append {xs ys : List Char}
    (h : (∀ c ∈ xs.getLast?, c ∈ delimiters ops) ∨ ∀ c ∈ ys.head?, c ∈ delimiters ops) :
    pieces ops (xs ++ ys) = pieces ops xs ++ pieces ops ys := by
  refine List.splitBy_append fun x hx y hy => ?_
  rcases h with h | h
  · simp [h x hx]
  · simp [h y hy]

/-- A delimiter is a piece of its own. -/
theorem pieces_cons_delimiter {d : Char} (hd : d ∈ delimiters ops) (ys : List Char) :
    pieces ops (d :: ys) = [d] :: pieces ops ys := by
  have hpieces : pieces ops [d] = [[d]] :=
    List.splitBy_of_isChain (List.cons_ne_nil _ _) (List.isChain_singleton d)
  rw [← List.singleton_append, pieces_append (.inl (by simpa using hd)), hpieces]
  rfl

/-- Characters that are no delimiters stay together. -/
theorem pieces_of_forall_notMem {cs : List Char} (hne : cs ≠ [])
    (h : ∀ c ∈ cs, c ∉ delimiters ops) : pieces ops cs = [cs] := by
  refine List.splitBy_of_isChain hne (List.Pairwise.isChain ?_)
  rw [List.pairwise_iff_forall_sublist]
  intro a b hab
  have ha := h a (hab.subset (by simp))
  have hb := h b (hab.subset (by simp))
  simp [ha, hb]

/-! ## Lexemes -/

@[simp] theorem lexemes_empty : lexemes ops "" = [] := rfl

/-- A lexeme that is written as a delimiter divides an expression. -/
theorem lexemes_append_delimiter {d : Char} (hd : d ∈ delimiters ops) (s t : String) :
    lexemes ops (s ++ String.singleton d ++ t)
      = lexemes ops s ++ Lexeme.ofPiece ops [d] :: lexemes ops t := by
  have hhead : ∀ c ∈ (d :: t.toList).head?, c ∈ delimiters ops := by
    simpa using hd
  simp only [lexemes, String.toList_append, String.toList_singleton, List.append_assoc,
    List.singleton_append, pieces_append (.inr hhead), pieces_cons_delimiter hd, List.map_append,
    List.map_cons]

/-! ## The text of lexemes -/

/-- How a lexeme is written. A foreign one does not tell: it is refused before that matters. -/
def Lexeme.text : Lexeme → String
  | .operand text => text
  | .operator op => op.symbol
  | .opening => "("
  | .closing => ")"
  | .foreign => ""

/-- Lexemes written one behind the other. -/
def written (xs : List Lexeme) : String :=
  String.ofList (xs.flatMap (·.text.toList))

@[simp] theorem written_nil : written [] = "" := rfl

@[simp] theorem written_cons (x : Lexeme) (xs : List Lexeme) :
    written (x :: xs) = x.text ++ written xs := by
  refine String.toList_injective ?_
  simp [written]

/-- A piece that has a place in an expression is written as it was read. -/
theorem toList_text_ofPiece {piece : List Char} (h : Lexeme.ofPiece ops piece ≠ .foreign) :
    (Lexeme.ofPiece ops piece).text.toList = piece := by
  unfold Lexeme.ofPiece at h ⊢
  split
  · exact String.toList_ofList
  · split
    · next op hfind =>
      have hsymbol : op.symbol = String.ofList piece := (Operators.find?_eq_some_iff.mp hfind).2
      rw [Lexeme.text, hsymbol, String.toList_ofList]
    · split
      · next hopening => exact hopening.symm
      · split
        · next hclosing => exact hclosing.symm
        · simp_all

/-- **An expression is what its lexemes say**, unless one of them is foreign. -/
theorem written_lexemes {expression : String} (h : .foreign ∉ lexemes ops expression) :
    written (lexemes ops expression) = expression := by
  have hpieces : (lexemes ops expression).flatMap (·.text.toList)
      = (pieces ops expression.toList).flatten := by
    rw [lexemes, List.flatMap_map, List.flatten_eq_flatMap]
    refine List.flatMap_congr fun piece hpiece => toList_text_ofPiece fun hforeign => ?_
    exact h (List.mem_map.mpr ⟨piece, hpiece, hforeign⟩)
  rw [written, hpieces, pieces, List.flatten_splitBy, String.ofList_toList]

section
variable (hops : ops.SingleCharacter ['(', ')'])
include hops

/-- No digit delimits, as no operator is written with one. -/
theorem notMem_delimiters_of_isDigit {c : Char} (hc : c.isDigit = true) :
    c ∉ delimiters ops := by
  intro hmem
  rcases List.mem_append.mp hmem with hsym | hpar
  · obtain ⟨symbol, hsymbol, hcs⟩ := List.mem_flatMap.mp hsym
    obtain ⟨op, hop, rfl⟩ := List.mem_map.mp hsymbol
    obtain ⟨d, hd, hdigit, -⟩ := hops op hop
    have hcd : c = d := by simpa [hd] using hcs
    rw [hcd, hdigit] at hc
    cases hc
  · have hpar' : c = '(' ∨ c = ')' := by simpa using hpar
    rcases hpar' with rfl | rfl <;> cases hc

/-- A run of digits is one operand. -/
theorem lexemes_digits (ds : Digits) : lexemes ops ds.text = [.operand ds.text] := by
  have hpieces : pieces ops ds.text.toList = [ds.chars] := by
    rw [Digits.text, String.toList_ofList]
    exact pieces_of_forall_notMem ds.ne_nil fun c hc =>
      notMem_delimiters_of_isDigit hops (ds.isDigit c hc)
  have hall : ds.chars.all Char.isDigit = true := List.all_eq_true.mpr ds.isDigit
  rw [lexemes, hpieces, List.map_singleton, Lexeme.ofPiece, if_pos hall]
  rfl

omit hops in
theorem ofPiece_symbol {c : Char} (hdigit : c.isDigit = false) {op : Operator}
    (hop : ops.find? (String.singleton c) = some op) : Lexeme.ofPiece ops [c] = .operator op := by
  simp [Lexeme.ofPiece, hdigit, hop]

theorem ofPiece_opening : Lexeme.ofPiece ops ['('] = .opening := by
  have hfind : ops.find? "(" = none := hops.find?_eq_none (c := '(') (by simp)
  simp [Lexeme.ofPiece, hfind]

theorem ofPiece_closing : Lexeme.ofPiece ops [')'] = .closing := by
  have hfind : ops.find? ")" = none := hops.find?_eq_none (c := ')') (by simp)
  simp [Lexeme.ofPiece, hfind]

/-- The symbol of an operator divides an expression. -/
theorem lexemes_append_symbol {op : Operator} (h : op ∈ ops.list) (s t : String) :
    lexemes ops (s ++ op.symbol ++ t) = lexemes ops s ++ .operator op :: lexemes ops t := by
  obtain ⟨c, hc, hdigit, -, hfind⟩ := hops.exists_char h
  rw [hc, lexemes_append_delimiter (mem_delimiters_of_symbol h hc), ofPiece_symbol hdigit hfind]

theorem lexemes_append_opening (s t : String) :
    lexemes ops (s ++ "(" ++ t) = lexemes ops s ++ .opening :: lexemes ops t := by
  rw [← ofPiece_opening hops]
  exact lexemes_append_delimiter (opening_mem_delimiters ops) s t

theorem lexemes_append_closing (s t : String) :
    lexemes ops (s ++ ")" ++ t) = lexemes ops s ++ .closing :: lexemes ops t := by
  rw [← ofPiece_closing hops]
  exact lexemes_append_delimiter (closing_mem_delimiters ops) s t

/-- Parentheses around an expression are lexemes of their own. -/
theorem lexemes_enclosed (s : String) :
    lexemes ops ("(" ++ s ++ ")") = .opening :: (lexemes ops s ++ [.closing]) := by
  have hopening := lexemes_append_opening hops "" s
  have hclosing := lexemes_append_closing hops ("" ++ "(" ++ s) ""
  rw [hopening] at hclosing
  simpa using hclosing

end

end Infix
end Abacus
