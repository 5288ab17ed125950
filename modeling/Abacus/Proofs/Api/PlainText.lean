import Abacus.Proofs.Api.Agreement
import Abacus.Proofs.Expression.ResultText
import Abacus.Proofs.Results.PlainText

/-!
# Plain texts of the service

The plain text of a batch consists of the lines of its expressions (`listing_of_settled`), one for
each value and in their order (specification §13). What is shown behind the equals sign of a line is
a value, which is written with the characters of numbers only, or the placeholder, so what holds of
the lines of any sources holds here: there are as many lines as expressions, and other expressions
give another text (`listing_lines`). Only an expression that itself has a line feed in it makes more
lines than one, and those may be lines that other expressions have (`not_listing_injective`).

The text comes with no other mark than line feeds, so nothing more can be read from it. A JSON
document has no such limit: there the source is a string, whose line feeds are escaped.
-/

namespace Abacus.Api

/-- The reply to a request for the plain text of some expressions. -/
def listing (settings : Settings) (form : Notation) (expressions : List String) : Reply :=
  respond settings "POST" "/render"
    (some (RenderRequest.toJson ⟨expressions, some form, "plain_text"⟩))

/-- What is shown for an expression: its value, or the placeholder if it has none. The plain text
does not tell what is wrong. -/
def shown (settings : Settings) (form : Notation) (expression : String) : String :=
  match operators.calculate form expression with
  | .ok text => text
  | .error _ => settings.placeholder

variable {settings : Settings} {form : Notation} {expression : String} {expressions : List String}

/-- No character of a number ends what is shown in a line. -/
theorem isShowable_of_isNumeralChar {text : String} (h : ∀ c ∈ text.toList, IsNumeralChar c) :
    IsShowable text := by
  intro c hc
  constructor <;> rintro rfl <;> exact absurd (h _ hc) (by decide)

theorem shown_of_ok {text : String} (h : operators.calculate form expression = .ok text) :
    shown settings form expression = text := by
  rw [shown, h]

theorem shown_of_error {e : Failure} (h : operators.calculate form expression = .error e) :
    shown settings form expression = settings.placeholder := by
  rw [shown, h]

theorem isShowable_shown (hplaceholder : IsShowable settings.placeholder) (form : Notation)
    (expression : String) : IsShowable (shown settings form expression) := by
  rw [shown]
  split
  · next htext => exact isShowable_of_isNumeralChar fun c hc => Operators.mem_of_calculate htext hc
  · exact hplaceholder

/-! ## The lines of a batch -/

/-- The reply to a request for the plain text is that of the rendered expressions. -/
theorem listing_eq (settings : Settings) (form : Notation) (expressions : List String) :
    listing settings form expressions
      = renderDocument .plainText ((renderer settings form).renderAll expressions) :=
  respond_render settings form .plainText expressions

/-- What the renderer gives is shown in the line of the expression. -/
theorem lineOf_shown {v : RenderedValue}
    (h : (renderer settings form).render expression = .ok v) :
    v.source ++ " = " ++ v.result ++ "\n" = lineOf (shown settings form) expression := by
  rcases renderer_cases h with ⟨text, htext, rfl⟩ | ⟨err, herr, rfl⟩
  · rw [lineOf, equationOf, shown_of_ok htext]
  · rw [lineOf, equationOf, shown_of_error herr]

/-- The lines of the values are those of their expressions. -/
theorem join_lineOf {values : List RenderedValue}
    (h : List.Forall₂ (fun e v => (renderer settings form).render e = .ok v) expressions values) :
    String.join (values.map fun v => v.source ++ " = " ++ v.result ++ "\n")
      = linesOf (shown settings form) expressions := by
  induction h with
  | nil => rfl
  | cons hv _ ih =>
    rw [List.map_cons, String.join_cons, ih, lineOf_shown hv, linesOf_cons]

/-- **The plain text of settled expressions** consists of their lines. The log tells what is wrong
with those that have no value, and nothing else of the reply does. -/
theorem listing_of_settled (settings : Settings)
    (h : ∀ e ∈ expressions, operators.IsSettled form e) :
    listing settings form expressions
      = { status := 200, contentType := "text/plain; charset=utf-8",
          content := .text (linesOf (shown settings form) expressions),
          log := ((renderer settings form).renderAll expressions).log, breakdown := none } := by
  obtain ⟨hstopped, hvalues⟩ := (renderer settings form).forall₂_renderAll h
  rw [listing_eq, renderDocument, hstopped]
  have htype : Reply.textType Format.plainText.mediaType = "text/plain; charset=utf-8" := by
    decide
  simp only [Format.document, content_plainText, Except.map, join_lineOf hvalues, Reply.document,
    htype]

theorem content_listing (settings : Settings)
    (h : ∀ e ∈ expressions, operators.IsSettled form e) :
    (listing settings form expressions).content
      = .text (linesOf (shown settings form) expressions) := by
  rw [listing_of_settled settings h]

/-! ## Lines and expressions -/

/-- **Lines of a plain text.** If all expressions are settled, their plain text has a line for each
of them, and one more for each line feed in an expression. Other expressions give another text,
unless an expression of one batch starts with the whole line of one of the other batch; so without
line feeds in them the expressions are determined by their text. -/
theorem listing_lines (settings : Settings) (form : Notation)
    (hplaceholder : IsShowable settings.placeholder) {expressions : List String}
    (h : ∀ e ∈ expressions, operators.IsSettled form e) :
    ∃ text,
      (listing settings form expressions).status = 200 ∧
      (listing settings form expressions).contentType = "text/plain; charset=utf-8" ∧
      (listing settings form expressions).content = .text text ∧
      text = Text.unlines (expressions.map (equationOf (shown settings form))) ∧
      text.toList.count '\n'
        = expressions.length + (expressions.flatMap String.toList).count '\n' ∧
      ((∀ e ∈ expressions, '\n' ∉ e.toList) → Text.splitLines [] text.toList
        = expressions.map fun e => (equationOf (shown settings form) e).toList) ∧
      ∀ others, (∀ e ∈ others, operators.IsSettled form e) →
        (listing settings form others).content = .text text →
        (expressions = others ∨ ∃ source ∈ expressions, ∃ other ∈ others,
          (∃ more, other = lineOf (shown settings form) source ++ more) ∨
            ∃ more, source = lineOf (shown settings form) other ++ more) ∧
        ((∀ e ∈ expressions ++ others, '\n' ∉ e.toList) → expressions = others) := by
  have hshown := isShowable_shown hplaceholder form
  have hreply := listing_of_settled settings h
  refine ⟨linesOf (shown settings form) expressions, by rw [hreply], by rw [hreply],
    by rw [hreply], rfl, count_linesOf hshown expressions, splitLines_linesOf hshown, ?_⟩
  intro others hothers hcontent
  rw [content_listing settings hothers] at hcontent
  have hlines := (Content.text.inj hcontent).symm
  exact ⟨eq_or_exists_of_linesOf hshown hlines, eq_of_linesOf hshown hlines⟩

/-- A batch of which one expression has no value. -/
theorem listing_lines_malformed :
    IsShowable "Malformed expression." ∧
    (∀ e ∈ ["10+5", "A+12"], operators.IsSettled .algebraic e) ∧
    (listing ⟨"infix", "Malformed expression.", "WARNING", "127.0.0.1", 8000⟩ .algebraic
      ["10+5", "A+12"]).content = .text "10+5 = 15\nA+12 = Malformed expression.\n" ∧
    Text.splitLines [] "10+5 = 15\nA+12 = Malformed expression.\n".toList
      = ["10+5 = 15".toList, "A+12 = Malformed expression.".toList] := by
  have hplaceholder : IsShowable "Malformed expression." := by decide
  have hsum : operators.calculate .algebraic "10+5" = .ok "15" :=
    Operators.calculate_eq_ok_iff.mpr
      ⟨⟨[.operand "10", .operand "5", .operator "+"]⟩, rfl, rfl⟩
  have hletter :
      operators.calculate .algebraic "A+12" = .error (.expression ⟨.unallowedCharacter, "A+12"⟩) :=
    Operators.calculate_of_complaint rfl
  have hsettled : ∀ e ∈ ["10+5", "A+12"], operators.IsSettled .algebraic e :=
    List.forall_mem_cons.mpr ⟨Operators.isSettled_of_ok hsum,
      List.forall_mem_singleton.mpr (Operators.isSettled_of_error hletter)⟩
  obtain ⟨text, -, -, hcontent, htext, -, hlines, -⟩ :=
    listing_lines ⟨"infix", "Malformed expression.", "WARNING", "127.0.0.1", 8000⟩ .algebraic
      hplaceholder hsettled
  rw [List.map_cons, List.map_singleton, equationOf, equationOf, shown_of_ok hsum,
    shown_of_error hletter] at htext
  obtain rfl : text = "10+5 = 15\nA+12 = Malformed expression.\n" := htext.trans (by decide)
  refine ⟨hplaceholder, hsettled, hcontent, ?_⟩
  rw [hlines (by decide), List.map_cons, List.map_singleton, equationOf, equationOf,
    shown_of_ok hsum, shown_of_error hletter]
  rfl

/-- **A line feed in an expression**: it makes two lines, which two other expressions have. -/
theorem not_listing_injective :
    ["1 = 1\nx"] ≠ ["1", "x"] ∧
    (∀ e ∈ ["1 = 1\nx", "1", "x"], operators.IsSettled .algebraic e) ∧
    ∃ text,
      (listing ⟨"infix", "Malformed expression.", "WARNING", "127.0.0.1", 8000⟩ .algebraic
        ["1 = 1\nx"]).content = .text text ∧
      (listing ⟨"infix", "Malformed expression.", "WARNING", "127.0.0.1", 8000⟩ .algebraic
        ["1", "x"]).content = .text text ∧
      text.toList.count '\n' = 2 := by
  have hone : operators.calculate .algebraic "1" = .ok "1" :=
    Operators.calculate_eq_ok_iff.mpr ⟨⟨[.operand "1"]⟩, rfl, rfl⟩
  have hletter : operators.calculate .algebraic "x"
      = .error (.expression ⟨.unallowedCharacter, "x"⟩) := Operators.calculate_of_complaint rfl
  have hfeed : operators.calculate .algebraic "1 = 1\nx"
      = .error (.expression ⟨.unallowedCharacter, "1 = 1\nx"⟩) :=
    Operators.calculate_of_complaint rfl
  have hboth : ∀ e ∈ ["1", "x"], operators.IsSettled .algebraic e :=
    List.forall_mem_cons.mpr ⟨Operators.isSettled_of_ok hone,
      List.forall_mem_singleton.mpr (Operators.isSettled_of_error hletter)⟩
  have hsingle : ∀ e ∈ ["1 = 1\nx"], operators.IsSettled .algebraic e :=
    List.forall_mem_singleton.mpr (Operators.isSettled_of_error hfeed)
  refine ⟨by decide, List.forall_mem_cons.mpr ⟨Operators.isSettled_of_error hfeed, hboth⟩,
    "1 = 1\nx = Malformed expression.\n", ?_, ?_, by decide⟩
  · rw [content_listing _ hsingle, linesOf_cons, lineOf, equationOf, shown_of_error hfeed]
    exact congrArg Content.text (by decide)
  · rw [content_listing _ hboth, linesOf_cons, linesOf_cons, lineOf, lineOf, equationOf, equationOf,
      shown_of_ok hone, shown_of_error hletter]
    exact congrArg Content.text (by decide)

end Abacus.Api
