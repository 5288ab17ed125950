import Abacus.Proofs.Expression.Conservation

/-!
# The infix grammar

What an infix expression over the basic operators is, apart from how expressions are read:

- an expression is one or more terms with `+` or `-` between them,
- a term is one or more factors with `*` or `/` between them,
- a factor is a run of digits, or an expression in parentheses.

`Infix.Derives` is this grammar on texts. On lexemes, what it comes to is a matter of neighbours and
of parentheses: `Infix.Completes` reads an expression from left to right and keeps no more in mind
than how many parentheses are open and whether an operand has just ended. That this is enough is
`Infix.derives_of_completes`. On trees, it is a matter of where the parentheses are: the grammar has
the texts that trees are written as (`Infix.derives_iff_exists_isWritten`).
-/

namespace Abacus
namespace Infix

/-! ## The grammar -/

/-- The parts of infix expressions. -/
inductive Part where
  | expression
  | term
  | factor

/-- The symbols between terms. -/
def additive : List String := ["+", "-"]

/-- The symbols between factors. -/
def multiplicative : List String := ["*", "/"]

/-- **The infix grammar.** The texts of each part; repetition goes to the left, as in
`expression := term | expression additive term`. -/
inductive Derives : Part → String → Prop where
  | term {s : String} : Derives .term s → Derives .expression s
  | sum {s t symbol : String} :
      Derives .expression s → symbol ∈ additive → Derives .term t →
      Derives .expression (s ++ symbol ++ t)
  | factor {s : String} : Derives .factor s → Derives .term s
  | product {s t symbol : String} :
      Derives .term s → symbol ∈ multiplicative → Derives .factor t →
      Derives .term (s ++ symbol ++ t)
  | digits (ds : Digits) : Derives .factor ds.text
  | enclosed {s : String} : Derives .expression s → Derives .factor ("(" ++ s ++ ")")

/-- Any part is an expression by itself. -/
theorem Derives.expression {part : Part} {s : String} (h : Derives part s) :
    Derives .expression s := by
  cases part with
  | expression => exact h
  | term => exact h.term
  | factor => exact h.factor.term

/-- Which symbols an operator can have, and what that says about its precedence. -/
theorem symbol_cases {op : Operator} (h : op ∈ Operators.basic.list) :
    op.symbol ∈ additive ∧ op.precedence = 0 ∨ op.symbol ∈ multiplicative ∧ op.precedence = 1 := by
  rcases Operators.mem_basic_iff.mp h with rfl | rfl | rfl | rfl <;> simp [additive, multiplicative]

theorem exists_of_mem_additive {symbol : String} (h : symbol ∈ additive) :
    ∃ op ∈ Operators.basic.list, op.symbol = symbol ∧ op.precedence = 0 := by
  simp only [additive, List.mem_cons, List.not_mem_nil, or_false] at h
  rcases h with rfl | rfl
  · exact ⟨_, Operators.add_mem_basic, rfl, rfl⟩
  · exact ⟨_, Operators.sub_mem_basic, rfl, rfl⟩

theorem exists_of_mem_multiplicative {symbol : String} (h : symbol ∈ multiplicative) :
    ∃ op ∈ Operators.basic.list, op.symbol = symbol ∧ op.precedence = 1 := by
  simp only [multiplicative, List.mem_cons, List.not_mem_nil, or_false] at h
  rcases h with rfl | rfl
  · exact ⟨_, Operators.mul_mem_basic, rfl, rfl⟩
  · exact ⟨_, Operators.div_mem_basic, rfl, rfl⟩

/-! ## Expressions that are not complete

The grammar has its repetition at the left, while an expression is read from left to right. So what
was read so far is described by what it still needs: a factor (`Awaits`), or nothing (`Ended`). -/

/-- A text behind which a further part can follow: none, or one that ends with a symbol. The grammar
has its repetition at the left, so this is what stands to the left of the part that is being read.
-/
def Leads (part : Part) (symbols : List String) (s : String) : Prop :=
  s = "" ∨ ∃ t, ∃ symbol ∈ symbols, Derives part t ∧ s = t ++ symbol

/-- A text that is an expression as soon as a factor follows. -/
def Awaits (s : String) : Prop :=
  ∃ terms factors, Leads .expression additive terms ∧ Leads .term multiplicative factors ∧
    s = terms ++ factors

/-- A text that is an expression, and its last term can go on. -/
def Ended (s : String) : Prop :=
  ∃ terms last, Leads .expression additive terms ∧ Derives .term last ∧ s = terms ++ last

theorem awaits_empty : Awaits "" :=
  ⟨"", "", .inl rfl, .inl rfl, rfl⟩

theorem Awaits.ended {s f : String} (hs : Awaits s) (hf : Derives .factor f) : Ended (s ++ f) := by
  obtain ⟨terms, factors, hterms, hfactors, rfl⟩ := hs
  rcases hfactors with rfl | ⟨t, symbol, hsymbol, ht, rfl⟩
  · exact ⟨terms, f, hterms, hf.factor, by simp⟩
  · exact ⟨terms, _, hterms, ht.product hsymbol hf, by simp [String.append_assoc]⟩

theorem Ended.derives {s : String} (hs : Ended s) : Derives .expression s := by
  obtain ⟨terms, last, hterms, hlast, rfl⟩ := hs
  rcases hterms with rfl | ⟨t, symbol, hsymbol, ht, rfl⟩
  · rw [String.empty_append]
    exact hlast.term
  · exact ht.sum hsymbol hlast

/-- Behind an operator, what has ended awaits a factor. -/
theorem Ended.awaits {s : String} (hs : Ended s) {op : Operator}
    (hop : op ∈ Operators.basic.list) : Awaits (s ++ op.symbol) := by
  rcases symbol_cases hop with ⟨hsymbol, -⟩ | ⟨hsymbol, -⟩
  · -- a term follows
    exact ⟨s ++ op.symbol, "", .inr ⟨s, op.symbol, hsymbol, hs.derives, rfl⟩, .inl rfl, by simp⟩
  · -- a factor follows, of the term that ended
    obtain ⟨terms, last, hterms, hlast, rfl⟩ := hs
    exact ⟨terms, last ++ op.symbol, hterms, .inr ⟨last, op.symbol, hsymbol, hlast, rfl⟩,
      String.append_assoc⟩

/-! ## Reading from left to right -/

/-- Lexemes that complete an expression, where `depth` parentheses are open before them and `ended`
says whether an operand has just ended. Precedence has no place in it: it only decides which
expression of the grammar is completed. -/
inductive Completes (ops : Operators) : Nat → Bool → List Lexeme → Prop where
  | done : Completes ops 0 true []
  | operand {depth : Nat} {rest : List Lexeme} (ds : Digits) :
      Completes ops depth true rest → Completes ops depth false (.operand ds.text :: rest)
  | operator {depth : Nat} {rest : List Lexeme} {op : Operator} (listed : op ∈ ops.list) :
      Completes ops depth false rest → Completes ops depth true (.operator op :: rest)
  | opening {depth : Nat} {rest : List Lexeme} :
      Completes ops (depth + 1) false rest → Completes ops depth false (.opening :: rest)
  | closing {depth : Nat} {rest : List Lexeme} :
      Completes ops depth true rest → Completes ops (depth + 1) true (.closing :: rest)

/-- What was read so far: `outer` are the texts before the open parentheses, the innermost first,
and `inner` is the text behind the last of them. -/
def nested : List String → String → String
  | [], inner => inner
  | before :: outer, inner => nested outer (before ++ "(" ++ inner)

theorem nested_append (outer : List String) (inner t : String) :
    nested outer inner ++ t = nested outer (inner ++ t) := by
  induction outer generalizing inner with
  | nil => rfl
  | cons before outer ih => rw [nested, nested, ih, String.append_assoc]

/-- What stands behind the innermost open parenthesis: an expression, or the beginning of one. -/
def Begun : Bool → String → Prop
  | true => Ended
  | false => Awaits

/-- **Neighbours and parentheses are enough**: what was read so far and what completes it are an
expression. That is why conditions on pairs of neighbours and on the count of parentheses can stand
for the grammar in what follows. -/
theorem derives_of_completes {depth : Nat} {ended : Bool} {xs : List Lexeme}
    (h : Completes .basic depth ended xs) {outer : List String} {inner : String}
    (hdepth : outer.length = depth) (houter : ∀ s ∈ outer, Awaits s) (hinner : Begun ended inner) :
    Derives .expression (nested outer inner ++ written xs) := by
  -- `outer` and `inner` grow by what each lexeme is written as, and keep awaiting or having ended
  induction h generalizing outer inner with
  | done =>
    obtain rfl := List.eq_nil_of_length_eq_zero hdepth
    rw [written_nil, String.append_empty]
    exact Ended.derives hinner
  | operand ds _ ih =>
    rw [written_cons, ← String.append_assoc, nested_append]
    exact ih hdepth houter (Awaits.ended hinner (.digits ds))
  | operator listed _ ih =>
    rw [written_cons, ← String.append_assoc, nested_append]
    exact ih hdepth houter (Ended.awaits hinner listed)
  | opening _ ih =>
    have hall := List.forall_mem_cons.mpr ⟨hinner, houter⟩
    have hopened := @ih (inner :: outer) "" (by simp [hdepth]) hall awaits_empty
    rw [written_cons, ← String.append_assoc, nested_append]
    simpa [nested, Lexeme.text] using hopened
  | closing _ ih =>
    cases outer with
    | nil => cases hdepth
    | cons before outer =>
      -- the expression behind the parenthesis is a factor of the one before it
      obtain ⟨hbefore, houter⟩ := List.forall_mem_cons.mp houter
      have hfactor : Derives .factor ("(" ++ inner ++ ")") := .enclosed (Ended.derives hinner)
      have hclosed := @ih outer _ (by simpa using hdepth) houter (hbefore.ended hfactor)
      rw [written_cons, ← String.append_assoc, nested_append, nested]
      simpa [String.append_assoc, Lexeme.text] using hclosed

/-! ## Neighbours

A condition on pairs of lexemes that all expressions of the grammar meet. With the count of
parentheses and the run of the machine it says all that the grammar does, as is shown in
`Acceptance`. -/

/-- Whether an operand ends with a lexeme. -/
def Lexeme.endsOperand : Lexeme → Bool
  | .operand _ => true
  | .operator _ => false
  | .opening => false
  | .closing => true
  | .foreign => false

/-- Whether an operand starts with a lexeme. -/
def Lexeme.startsOperand : Lexeme → Bool
  | .operand _ => true
  | .operator _ => false
  | .opening => true
  | .closing => false
  | .foreign => false

/-- Whether no two operands are neighbours, each of them a run of digits or something in
parentheses. Operators that are neighbours are not excluded here: an expression with such operators
whose operands are apart has no value. -/
def Separated (xs : List Lexeme) : Prop :=
  xs.IsChain fun a b => ¬ (a.endsOperand = true ∧ b.startsOperand = true)

/-- An operator keeps operands apart. -/
theorem separated_append_operator {xs ys : List Lexeme} (hxs : Separated xs) (hys : Separated ys)
    (op : Operator) : Separated (xs ++ .operator op :: ys) := by
  refine List.isChain_append.mpr ⟨hxs, List.isChain_cons.mpr ⟨?_, hys⟩, ?_⟩
  · rintro y - ⟨hends, -⟩
    cases hends
  · rintro x - y hy ⟨-, hstarts⟩
    cases hy
    cases hstarts

/-- So do parentheses around them. -/
theorem separated_enclosed {xs : List Lexeme} (hxs : Separated xs) :
    Separated (.opening :: (xs ++ [.closing])) := by
  refine List.isChain_cons.mpr ⟨?_, List.isChain_append.mpr ⟨hxs, List.isChain_singleton _, ?_⟩⟩
  · rintro y - ⟨hends, -⟩
    cases hends
  · rintro x - y hy ⟨-, hstarts⟩
    cases hy
    cases hstarts

/-- The operands of an infix expression are no neighbours. -/
theorem separated_of_derives {part : Part} {s : String} (h : Derives part s) :
    Separated (lexemes .basic s) := by
  have hops : Operators.basic.SingleCharacter ['(', ')'] :=
    Operators.basic_singleCharacter.mono (by simp)
  induction h with
  | term _ ih => exact ih
  | sum _ hsymbol _ ihs iht =>
    obtain ⟨op, hop, rfl, -⟩ := exists_of_mem_additive hsymbol
    rw [lexemes_append_symbol hops hop]
    exact separated_append_operator ihs iht op
  | factor _ ih => exact ih
  | product _ hsymbol _ ihs iht =>
    obtain ⟨op, hop, rfl, -⟩ := exists_of_mem_multiplicative hsymbol
    rw [lexemes_append_symbol hops hop]
    exact separated_append_operator ihs iht op
  | digits ds =>
    rw [lexemes_digits hops]
    exact List.isChain_singleton _
  | enclosed _ ih =>
    rw [lexemes_enclosed hops]
    exact separated_enclosed ih

/-! ## Trees

Both directions between the grammar and trees. A part of the grammar corresponds to a bound on the
precedence at the root, and parentheses lift the bound. -/

/-- The part that a written tree is, by the operator at its root unless it is enclosed. -/
def partOf : Bool → Option Operator → Part
  | true, _ => .factor
  | false, none => .factor
  | false, some op => if op.precedence = 0 then .expression else .term

theorem mem_of_mem_root? {ops : Operators} {tree : Tree ops} {op : Operator}
    (h : op ∈ tree.root?) : op ∈ ops.list := by
  cases tree with
  | operand ds => cases h
  | operation op' listed left right =>
    cases h
    exact listed

/-- A part that is no expression with `+` or `-` at its root is a term. -/
theorem Derives.term_of_partOf {tree : Tree .basic} {enclosed : Bool} {s : String}
    (h : Derives (partOf enclosed tree.root?) s)
    (hroot : ∀ op ∈ tree.root?, op.precedence ≤ 0 → enclosed = true) : Derives .term s := by
  cases enclosed with
  | true => exact h.factor
  | false =>
    cases hop : tree.root? with
    | none =>
      rw [hop] at h
      exact h.factor
    | some op =>
      have hne : op.precedence ≠ 0 := fun hzero =>
        Bool.false_ne_true (hroot op hop (Int.le_of_eq hzero))
      rw [hop, partOf, if_neg hne] at h
      exact h

/-- A part that has no operator at its root, or is enclosed, is a factor. -/
theorem Derives.factor_of_partOf {tree : Tree .basic} {enclosed : Bool} {s : String}
    (h : Derives (partOf enclosed tree.root?) s)
    (hroot : ∀ op ∈ tree.root?, op.precedence ≤ 1 → enclosed = true) : Derives .factor s := by
  cases enclosed with
  | true => exact h
  | false =>
    cases hop : tree.root? with
    | none =>
      rw [hop] at h
      exact h
    | some op =>
      have hle : op.precedence ≤ 1 := by
        rcases symbol_cases (mem_of_mem_root? hop) with ⟨-, h⟩ | ⟨-, h⟩ <;> omega
      exact absurd (hroot op hop hle) Bool.false_ne_true

/-- **A written tree is an infix expression**: parentheses where precedence and the grouping to the
left need them are all that the grammar asks for. -/
theorem derives_of_writes {tree : Tree .basic} {enclosed : Bool} {s : String}
    (h : tree.Writes enclosed s) : Derives (partOf enclosed tree.root?) s := by
  induction h with
  | operand ds => exact .digits ds
  | enclosed _ ih => exact .enclosed ih.expression
  | @operation op listed left right b c s t _ _ hleft hright ihl ihr =>
    rcases symbol_cases listed with ⟨hsymbol, hprec⟩ | ⟨hsymbol, hprec⟩
    · have hpart : partOf false (Tree.operation op listed left right).root? = .expression :=
        if_pos hprec
      rw [hpart]
      exact .sum ihl.expression hsymbol (ihr.term_of_partOf fun o ho hle => hright o ho (by omega))
    · have hpart : partOf false (Tree.operation op listed left right).root? = .term :=
        if_neg (by omega)
      rw [hpart]
      exact .product (ihl.term_of_partOf fun o ho hle => hleft o ho (by omega)) hsymbol
        (ihr.factor_of_partOf fun o ho hle => hright o ho (by omega))

/-- A text of a tree that is enclosed or has no operator below `level` at its root. An expression of
the grammar is such a text from the lowest level on, a term from the level of products on, a factor
from one that no operator has. -/
def IsWrittenFrom (ops : Operators) (level : Int) (s : String) : Prop :=
  ∃ (tree : Tree ops) (enclosed : Bool), tree.Writes enclosed s ∧
    ∀ op ∈ tree.root?, op.precedence < level → enclosed = true

namespace IsWrittenFrom

variable {ops : Operators} {level : Int} {s t : String}

theorem mono {lower : Int} (h : IsWrittenFrom ops level s) (hle : lower ≤ level) :
    IsWrittenFrom ops lower s := by
  obtain ⟨tree, enclosed, hwrites, hroot⟩ := h
  exact ⟨tree, enclosed, hwrites, fun op hop hlt => hroot op hop (Int.lt_of_lt_of_le hlt hle)⟩

/-- An operation that groups to the left. -/
theorem operation {op : Operator} (hop : op ∈ ops.list)
    (hs : IsWrittenFrom ops op.precedence s) (ht : IsWrittenFrom ops (op.precedence + 1) t) :
    IsWrittenFrom ops op.precedence (s ++ op.symbol ++ t) := by
  obtain ⟨left, b, hleft, hleftRoot⟩ := hs
  obtain ⟨right, c, hright, hrightRoot⟩ := ht
  refine ⟨.operation op hop left right, false, .operation hop hleft hright hleftRoot ?_, ?_⟩
  · exact fun o ho hle => hrightRoot o ho (Int.lt_add_one_of_le hle)
  · rintro o ⟨⟩ hlt
    exact absurd hlt (Int.lt_irrefl _)

theorem enclosed (h : IsWrittenFrom ops level s) (upper : Int) :
    IsWrittenFrom ops upper ("(" ++ s ++ ")") := by
  obtain ⟨tree, b, hwrites, -⟩ := h
  exact ⟨tree, true, hwrites.enclosed, fun _ _ _ => rfl⟩

end IsWrittenFrom

/-- The least precedence at the root of a part. -/
def Part.level : Part → Int
  | .expression => 0
  | .term => 1
  | .factor => 2

/-- **A part of an infix expression writes a tree** that binds as strongly as the part does. -/
theorem isWrittenFrom_of_derives {part : Part} {s : String} (h : Derives part s) :
    IsWrittenFrom .basic part.level s := by
  induction h with
  | term _ ih => exact ih.mono (by decide)
  | sum _ hsymbol _ ihs iht =>
    obtain ⟨op, hop, rfl, hprec⟩ := exists_of_mem_additive hsymbol
    rw [Part.level, ← hprec] at ihs ⊢
    exact .operation hop ihs (iht.mono (by rw [hprec]; decide))
  | factor _ ih => exact ih.mono (by decide)
  | product _ hsymbol _ ihs iht =>
    obtain ⟨op, hop, rfl, hprec⟩ := exists_of_mem_multiplicative hsymbol
    rw [Part.level, ← hprec] at ihs ⊢
    exact .operation hop ihs (iht.mono (by rw [hprec]; decide))
  | digits ds => exact ⟨.operand ds, false, .operand ds, nofun⟩
  | enclosed _ ih => exact ih.enclosed _

/-- **Infix expressions are the texts of trees.** -/
theorem derives_iff_exists_isWritten {s : String} :
    Derives .expression s ↔ ∃ tree : Tree .basic, tree.IsWritten s := by
  constructor
  · intro h
    obtain ⟨tree, enclosed, hwrites, -⟩ := isWrittenFrom_of_derives h
    exact ⟨tree, enclosed, hwrites⟩
  · rintro ⟨tree, enclosed, hwrites⟩
    exact (derives_of_writes hwrites).expression

end Infix
end Abacus
