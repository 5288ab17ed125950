import Abacus.Proofs.Expression.PostfixLexing

/-!
# Reading a printed plan

The text of a plan, its tokens divided by spaces, is read as that plan again, provided that it
starts with an operand and that its tokens can be written at all (`Plan.ofPostfix_text`). This is
what the round trip of the specification (§8) rests on.

The postfix reader has been shown to read a text as its terms unless a character is out of place, so
there are two things to show of the text of a plan, both by induction on the tokens:

- `isFlawless_text`: no character is out of place, because each token ends before a space.
- `terms_text`: the terms are the tokens.

A plan that starts with an operator has a text, too, but the first slot is left empty by it. A plan
with a parenthesis in it has a text that is no postfix expression. Both are left out by what is
asked of the plan; the plans of expressions that have a value are never of these kinds.
-/

namespace Abacus
namespace Postfix

variable {ops : Operators}

/-- Whether a token can be written in a postfix expression: digits, or a symbol of the table. A
parenthesis that was left open cannot. -/
def IsPrintable (ops : Operators) : Token → Prop
  | .operand text => ∃ ds : Digits, text = ds.text
  | .operator symbol => ∃ op ∈ ops.list, symbol = op.symbol
  | .group _ => False

/-- The characters of tokens, each behind a space. -/
def printed (tokens : List Token) : List Char :=
  tokens.flatMap fun token => ' ' :: token.text.toList

theorem printed_cons (token : Token) (tokens : List Token) :
    printed (token :: tokens) = ' ' :: (token.text.toList ++ printed tokens) := rfl

/-- No digit directly follows a token: a space does, or nothing. -/
theorem isDigit_of_head?_printed {tokens : List Token} :
    ∀ c ∈ (printed tokens).head?, c.isDigit = false := by
  cases tokens with
  | nil =>
    intro c hc
    cases hc
  | cons token tokens =>
    intro c hc
    cases hc
    rfl

/-- The text of a plan: its first token, and each of the others behind a space. -/
theorem toList_text (first : Token) (rest : List Token) :
    (Plan.mk (first :: rest)).text.toList = first.text.toList ++ printed rest := by
  induction rest generalizing first with
  | nil => simp [Plan.text, Plan.texts, printed]
  | cons second rest ih =>
    have h := ih second
    simp only [Plan.text, Plan.texts, List.map_cons] at h ⊢
    rw [String.intercalate_cons_cons, String.toList_append, String.toList_append, h]
    simp [printed]

/-- All tokens that are read can be written. -/
theorem isPrintable_of_mem_terms {cs : List Char} {token : Token} (h : token ∈ ops.terms cs) :
    IsPrintable ops token := by
  fun_induction Operators.terms ops cs with
  | case1 => cases h
  | case2 c cs hc ih =>
    rcases List.mem_cons.mp h with rfl | h
    · refine ⟨⟨_, List.cons_ne_nil c _, List.forall_mem_cons.mpr ⟨hc, fun d hd => ?_⟩⟩, rfl⟩
      exact List.mem_takeWhile_imp hd
    · exact ih h
  | case3 c cs _ op hop ih =>
    rcases List.mem_cons.mp h with rfl | h
    · exact ⟨op, (Operators.find?_eq_some_iff.mp hop).1, rfl⟩
    · exact ih h
  | case4 c cs _ _ ih => exact ih h

section
variable (hops : ops.SingleCharacter [' '])
include hops

/-! ## Tokens -/

/-- A token is a term where no digit follows. -/
theorem terms_append_token {token : Token} (htoken : IsPrintable ops token) {cs : List Char}
    (hcs : ∀ c ∈ cs.head?, c.isDigit = false) :
    ops.terms (token.text.toList ++ cs) = token :: ops.terms cs := by
  cases token with
  | operand text =>
    obtain ⟨ds, rfl⟩ := htoken
    rw [Token.text, Digits.text, String.toList_ofList, Operators.terms_append_digits ds hcs]
    rfl
  | operator symbol =>
    obtain ⟨op, hop, rfl⟩ := htoken
    obtain ⟨c, hc, hdigit, -, hfind⟩ := hops.exists_char hop
    rw [Token.text, hc, String.toList_singleton, List.singleton_append,
      Operators.terms_cons_symbol hdigit hfind, hc]
  | group symbol => cases htoken

/-- No character of a token is out of place in it. -/
theorem isFlawless_token {token : Token} (htoken : IsPrintable ops token) :
    IsFlawless ops token.text.toList := by
  cases token with
  | operand text =>
    obtain ⟨ds, rfl⟩ := htoken
    rw [Token.text, Digits.text, String.toList_ofList]
    refine ⟨fun c hc => .inl (ds.isDigit c hc), List.Pairwise.isChain ?_⟩
    -- digits are no symbols, so no neighbours are a symbol and a digit
    refine List.pairwise_of_forall_mem_list fun a ha b _ hsymbol => ?_
    have hnone : operatorAt? ops a = none := operatorAt?_digit hops (ds.isDigit a ha)
    rw [Operators.contains, ← operatorAt?, hnone] at hsymbol
    cases hsymbol
  | operator symbol =>
    obtain ⟨op, hop, rfl⟩ := htoken
    obtain ⟨c, hc, -, -, hfind⟩ := hops.exists_char hop
    rw [Token.text, hc, String.toList_singleton]
    refine ⟨?_, List.isChain_singleton c⟩
    simp [Operators.contains, hfind]
  | group symbol => cases htoken

/-- A space keeps what precedes it apart from what follows. -/
theorem IsFlawless.append_space {xs ys : List Char} (hxs : IsFlawless ops xs)
    (hys : IsFlawless ops ys) : IsFlawless ops (xs ++ ' ' :: ys) := by
  refine ⟨?_, List.isChain_append.mpr ⟨hxs.apart, List.isChain_cons.mpr ⟨?_, hys.apart⟩, ?_⟩⟩
  · intro c hc
    rcases List.mem_append.mp hc with hc | hc
    · exact hxs.admitted c hc
    · rcases List.mem_cons.mp hc with rfl | hc
      · exact .inr (.inl rfl)
      · exact hys.admitted c hc
  · intro c _ hsymbol
    rw [Operators.contains, ← operatorAt?, operatorAt?_space hops] at hsymbol
    cases hsymbol
  · intro a _ b hb _
    cases hb
    rfl

/-! ## Plans -/

/-- **The terms of a text of tokens** are the tokens: the spaces between them keep neighbouring
operands apart. -/
theorem terms_text {first : Token} {rest : List Token}
    (htokens : ∀ token ∈ first :: rest, IsPrintable ops token) :
    ops.terms (first.text.toList ++ printed rest) = first :: rest := by
  induction rest generalizing first with
  | nil =>
    rw [terms_append_token hops (htokens first List.mem_cons_self) isDigit_of_head?_printed]
    simp [printed]
  | cons second rest ih =>
    obtain ⟨hfirst, hrest⟩ := List.forall_mem_cons.mp htokens
    rw [terms_append_token hops hfirst isDigit_of_head?_printed, printed_cons,
      Operators.terms_cons_skipped rfl (operatorAt?_space hops), ih hrest]

/-- **No character is out of place** in a text of tokens. -/
theorem isFlawless_text {first : Token} {rest : List Token}
    (htokens : ∀ token ∈ first :: rest, IsPrintable ops token) :
    IsFlawless ops (first.text.toList ++ printed rest) := by
  induction rest generalizing first with
  | nil =>
    rw [printed, List.flatMap_nil, List.append_nil]
    exact isFlawless_token hops (htokens first List.mem_cons_self)
  | cons second rest ih =>
    obtain ⟨hfirst, hrest⟩ := List.forall_mem_cons.mp htokens
    rw [printed_cons]
    exact (isFlawless_token hops hfirst).append_space hops (ih hrest)

/-- The text of a plan that starts with an operand is read as that plan. -/
theorem tokens_text {plan : List Token} (hfirst : ∀ token ∈ plan.head?, token.isOperand = true)
    (htokens : ∀ token ∈ plan, IsPrintable ops token) :
    tokens ops (Plan.mk plan).text.toList = .ok plan := by
  cases plan with
  | nil => rfl
  | cons first rest =>
    rw [toList_text, tokens_eq_ok_iff hops]
    refine ⟨isFlawless_text hops htokens, .inr (.inl ?_), (terms_text hops htokens).symm⟩
    -- the text begins with the first digit of the operand
    cases first with
    | operand text =>
      obtain ⟨ds, rfl⟩ := htokens _ List.mem_cons_self
      obtain ⟨c, cs, hchars⟩ := List.exists_cons_of_ne_nil ds.ne_nil
      refine ⟨c, ?_, ds.isDigit c (hchars ▸ List.mem_cons_self)⟩
      simp [Token.text, Digits.text, hchars]
    | operator symbol => cases hfirst _ rfl
    | group symbol => cases hfirst _ rfl

end
end Postfix

/-- **Reading undoes printing**: the text of a plan that is empty or starts with an operand is read
as that plan, if its tokens can be written; and so is the text of any plan that was read, if it is
empty or starts with an operand. -/
theorem Plan.ofPostfix_text {ops : Operators} (hops : ops.SingleCharacter [' ']) :
    (∀ plan : Plan, (∀ token ∈ plan.tokens.head?, token.isOperand = true) →
      (∀ token ∈ plan.tokens, Postfix.IsPrintable ops token) →
      Plan.ofPostfix ops plan.text = .ok plan) ∧
    ∀ (s : String) (plan : Plan), Plan.ofPostfix ops s = .ok plan →
      (∀ token ∈ plan.tokens.head?, token.isOperand = true) →
      Plan.ofPostfix ops plan.text = .ok plan := by
  have hprinted (plan : Plan) (hfirst : ∀ token ∈ plan.tokens.head?, token.isOperand = true)
      (htokens : ∀ token ∈ plan.tokens, Postfix.IsPrintable ops token) :
      Plan.ofPostfix ops plan.text = .ok plan := by
    rw [Plan.ofPostfix, Postfix.tokens_text hops hfirst htokens]
    rfl
  refine ⟨hprinted, fun s plan hplan hfirst => hprinted plan hfirst fun token htoken => ?_⟩
  obtain ⟨tokens, htokens, rfl⟩ := Outcome.map_eq_ok hplan
  obtain ⟨-, -, rfl⟩ := (Postfix.tokens_eq_ok_iff hops).mp htokens
  exact Postfix.isPrintable_of_mem_terms htoken

/-- A plan that cannot be reduced, and one that was read from a text with other gaps. -/
theorem Plan.ofPostfix_text_gaps :
    Plan.ofPostfix .basic "007 + *" = .ok ⟨[.operand "007", .operator "+", .operator "*"]⟩ ∧
    Plan.ofPostfix .basic "12  4+" = .ok ⟨[.operand "12", .operand "4", .operator "+"]⟩ ∧
    (Plan.mk [.operand "12", .operand "4", .operator "+"]).text = "12 4 +" ∧
    Plan.ofPostfix .basic "12 4 +" = .ok ⟨[.operand "12", .operand "4", .operator "+"]⟩ := by
  have hops : Operators.basic.SingleCharacter [' '] :=
    Operators.basic_singleCharacter.mono (by simp)
  have hread : Plan.ofPostfix .basic "12  4+"
      = .ok ⟨[.operand "12", .operand "4", .operator "+"]⟩ := rfl
  have htext : (Plan.mk [.operand "12", .operand "4", .operator "+"]).text = "12 4 +" := rfl
  have hagain := (ofPostfix_text hops).2 _ _ hread (by simp [Token.isOperand])
  rw [htext] at hagain
  refine ⟨?_, hread, htext, hagain⟩
  refine (ofPostfix_text hops).1 ⟨[.operand "007", .operator "+", .operator "*"]⟩
    (by simp [Token.isOperand]) ?_
  simp only [List.forall_mem_cons]
  exact ⟨⟨.ofChars ['0', '0', '7'] (by decide), rfl⟩, ⟨_, Operators.add_mem_basic, rfl⟩,
    ⟨_, Operators.mul_mem_basic, rfl⟩, by simp⟩

end Abacus
