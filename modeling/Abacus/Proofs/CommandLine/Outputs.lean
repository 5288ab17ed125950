import Abacus.Proofs.CommandLine.Arguments
import Abacus.Proofs.Expression.Calculation
import Abacus.Proofs.Results.Rendering
import Abacus.Proofs.Results.Report
import Abacus.Proofs.Text.Lines

/-!
# The ways of output

A batch of expressions can be printed as bare results, with what is wrong on the other output, as
plain text or as a JSON document (specification §14). All three ways show the same values and end
with the same status (`outputs_agree`).

- `runEach_of_rendered`: bare results are printed one by one as the expressions are calculated.
- `runDocument_json`, `runDocument_plainText`: the documents are written of the rendered values.

Bare results know nothing of rendered values and documents nothing of single calculations; what they
have in common is the list of rendered values, from which each output is told. The report that the
JSON document is read as (`Report`) is that list as a program finds it.

The expressions have to be settled, which is to have a value or an error of their own. With another
one, such as a numeral that is too long to be read, the run breaks down: bare results have been
printed up to it, and no document is.
-/

namespace Abacus.CommandLine

variable {threshold : Nat} {expressions : List String}

/-! ## Bare results -/

/-- Records that are less important than the threshold are not shown. -/
theorem logText_failureRecord (h : LogLevel.debug.rank < threshold) (expression : String) :
    logText threshold [failureRecord expression] = "" := by
  have hhidden : ¬threshold ≤ (failureRecord expression).level.rank := Nat.not_le.mpr h
  rw [logText, List.filter_cons_of_neg (by simpa using hhidden)]
  rfl

/-- The status that a batch ends with: the given one, if nothing is wrong with the values. -/
def statusOf (status : Nat) (values : List RenderedValue) : Nat :=
  if values.all RenderedValue.ok then status else 1

theorem statusOf_zero_cases (values : List RenderedValue) :
    statusOf 0 values = 0 ∧ values.all RenderedValue.ok = true ∨
      statusOf 0 values = 1 ∧ values.all RenderedValue.ok = false := by
  cases hok : values.all RenderedValue.ok with
  | true => exact .inl ⟨if_pos hok, rfl⟩
  | false => exact .inr ⟨if_neg (by simp [hok]), rfl⟩

/-- Nothing is wrong with the values if all expressions have one. -/
theorem all_ok_iff {r : Renderer} {values : List RenderedValue}
    (h : List.Forall₂ (fun e v => r.render e = .ok v) expressions values) :
    values.all RenderedValue.ok = true
      ↔ ∀ e ∈ expressions, ∃ text, r.operators.calculate r.form e = .ok text := by
  induction h with
  | nil => simp
  | cons hv _ ih =>
    rw [List.all_cons, Bool.and_eq_true, List.forall_mem_cons, ih]
    -- only the first expression is to be looked at, the others are alike by induction
    refine and_congr_left' ?_
    rcases Renderer.render_cases hv with ⟨text, htext, rfl⟩ | ⟨err, herr, rfl⟩
    · exact iff_of_true rfl ⟨text, htext⟩
    · refine iff_of_false Bool.false_ne_true ?_
      rintro ⟨text, htext⟩
      rw [herr] at htext
      cases htext

/-- Rendered values keep their expressions. -/
theorem sources_eq {r : Renderer} {values : List RenderedValue}
    (h : List.Forall₂ (fun e v => r.render e = .ok v) expressions values) :
    values.map (·.source) = expressions := by
  induction h with
  | nil => rfl
  | cons hv _ ih =>
    rw [List.map_cons, ih]
    rcases Renderer.render_cases hv with ⟨text, -, rfl⟩ | ⟨err, -, rfl⟩
    · rfl
    · rfl

/-- **What is printed of bare results**: the values on one output, the errors on the other one, both
in the order of the expressions. -/
theorem runEach_of_rendered {r : Renderer} {values : List RenderedValue}
    (hlevel : LogLevel.debug.rank < threshold)
    (h : List.Forall₂ (fun e v => r.render e = .ok v) expressions values) (status : Nat) :
    runEach threshold (r.operators.calculate r.form) status expressions =
      { out := Text.unlines ((values.filter RenderedValue.ok).map (·.result)),
        err := Text.unlines ((values.filterMap (·.error)).map ("Error: " ++ ·)),
        ending := .exit (statusOf status values) } := by
  induction h generalizing status with
  | nil => rfl
  | cons hv _ ih =>
    rcases Renderer.render_cases hv with ⟨text, htext, rfl⟩ | ⟨err, herr, rfl⟩
    · rw [runEach, htext]
      show ((runEach threshold _ status _).after _ _) = _
      rw [ih status, Outcome.after, String.empty_append, ← Text.unlines_cons]
      rfl
    · -- the status is lost, whatever comes later
      have hstatus (later : List RenderedValue) : statusOf 1 later = 1 := by
        rw [statusOf, ite_self]
      rw [runEach, herr]
      show ((runEach threshold _ 1 _).after _ _) = _
      rw [ih 1, Outcome.after, logText_failureRecord hlevel, hstatus, String.empty_append,
        String.empty_append, ← Text.unlines_cons]
      rfl

/-! ## Documents -/

/-- Nothing is put behind what is made of lines. -/
theorem closeLine_unlines (texts : List String) :
    closeLine (Text.unlines texts) = Text.unlines texts := by
  cases texts with
  | nil => rfl
  | cons text texts =>
    have hlast : (Text.unlines (text :: texts)).toList.getLast? = some '\n' :=
      Text.getLast?_unlines (List.cons_ne_nil text texts)
    rw [closeLine, hlast]
    simp

/-- A document is closed by blanks: by a line feed, or by nothing if it ends with one. So what is
printed is read as the document itself. -/
theorem exists_closeLine (content : String) : ∃ blanks : String,
    (∀ c ∈ blanks.toList, Json.isSpace c = true) ∧ closeLine content = content ++ blanks := by
  rw [closeLine]
  split
  · refine ⟨"", ?_, String.append_empty.symm⟩
    intro c hc
    cases hc
  · refine ⟨"\n", ?_, rfl⟩
    intro c hc
    obtain rfl : c = '\n' := by simpa using hc
    rfl

variable {rendering : Rendering}

/-- **What is printed as a JSON document** is read as the report of the values, with the line feed
that ends the output behind it. -/
theorem runDocument_json (threshold : Nat) (h : rendering.stopped = none) :
    (runDocument threshold .json rendering).ending = .exit (statusOf 0 rendering.values) ∧
      Report.ofText? (runDocument threshold .json rendering).out
        = some (Report.ofValues rendering.values) := by
  obtain ⟨text, hcontent, hreport⟩ := exists_content_json rendering.values
  obtain ⟨blanks, hblanks, hclose⟩ := exists_closeLine text
  rw [runDocument, h]
  simp only [Format.document, hcontent, Except.map, hclose, hreport blanks hblanks]
  exact ⟨rfl, trivial⟩

/-- **What is printed as plain text**: a line for each value, with the status of the batch. -/
theorem runDocument_plainText (threshold : Nat) (h : rendering.stopped = none) :
    (runDocument threshold .plainText rendering).ending = .exit (statusOf 0 rendering.values) ∧
      (runDocument threshold .plainText rendering).out
        = Text.unlines (rendering.values.map fun v => v.source ++ " = " ++ v.result) := by
  have hcontent : Format.plainText.content (rendering.values.map Entry.ofValue)
      = .ok (Text.unlines (rendering.values.map fun v => v.source ++ " = " ++ v.result)) := by
    rw [content_plainText, Text.unlines_map]
  rw [runDocument, h]
  simp only [Format.document, hcontent, Except.map, closeLine_unlines]
  exact ⟨rfl, trivial⟩

/-! ## Agreement -/

/-- What a run prints as bare results, and what runs print as documents, agrees with a report, and
all three end with the same status. The bare results leave out what failed and tell it on the other
output; the plain text has a line for every entry, with the placeholder where one failed. -/
structure OutputsAgree (bare json plain : Outcome) (status : Nat) (report : Report) : Prop where
  bare_ending : bare.ending = .exit status
  json_ending : json.ending = .exit status
  plain_ending : plain.ending = .exit status
  json_out : Report.ofText? json.out = some report
  ok_iff : ∀ entry ∈ report.results, entry.ok = true ↔ entry.error = none
  failed_eq : report.failed = report.results.countP fun entry => !entry.ok
  bare_out : bare.out
    = String.join ((report.results.filter (·.ok)).map fun entry => entry.result ++ "\n")
  bare_err : bare.err
    = String.join ((report.results.filterMap (·.error)).map fun message =>
        "Error: " ++ message ++ "\n")
  plain_out : plain.out
    = String.join (report.results.map fun entry => entry.source ++ " = " ++ entry.result ++ "\n")

/-- The three ways of output for one renderer. All of them print what it makes of the expressions,
so each field compares two views of the same values. -/
theorem OutputsAgree.of_rendered {r : Renderer} (hlevel : LogLevel.debug.rank < threshold)
    (h : ∀ e ∈ expressions, r.operators.IsSettled r.form e) :
    OutputsAgree (runEach threshold (r.operators.calculate r.form) 0 expressions)
      (runDocument threshold .json (r.renderAll expressions))
      (runDocument threshold .plainText (r.renderAll expressions))
      (statusOf 0 (r.renderAll expressions).values)
      (Report.ofValues (r.renderAll expressions).values) := by
  obtain ⟨hstopped, hvalues⟩ := r.forall₂_renderAll h
  obtain ⟨hjson, hreport⟩ := runDocument_json threshold hstopped
  obtain ⟨hplain, hlines⟩ := runDocument_plainText threshold hstopped
  -- each output as a text made of the rendered values, then field by field
  have hbare := runEach_of_rendered hlevel hvalues 0
  refine ⟨by rw [hbare], hjson, hplain, hreport, ?_, ?_, ?_, ?_, ?_⟩
  · intro entry hentry
    obtain ⟨v, -, rfl⟩ := List.mem_map.mp hentry
    exact Option.isNone_iff_eq_none
  -- values that failed and entries that are not ok are counted in the same list
  · show ((List.countP _ _ : Nat) : Int) = (List.countP _ (List.map _ _) : Nat)
    rw [List.countP_map]
    rfl
  · rw [hbare, Report.ofValues, List.filter_map, List.map_map]
    show Text.unlines _ = _
    rw [Text.unlines_map]
    rfl
  · rw [hbare, Report.ofValues, List.filterMap_map]
    show Text.unlines _ = _
    rw [Text.unlines_map]
    rfl
  · rw [hlines, Report.ofValues, List.map_map, Text.unlines_map]
    rfl

/-- **The ways of output agree** on any settled expressions (specification §14): the lines of bare
results, the JSON document and the plain text tell the same of each expression, and the run ends
with the same status. -/
theorem outputs_agree (settings : Settings) (hlevel : settings.logLevel = "WARNING")
    {form : Notation} {expressions : List String} (hne : expressions ≠ [])
    (h : ∀ e ∈ expressions, Operators.basic.IsSettled form e) (input : String) :
    ∃ status report,
      OutputsAgree (run settings (["--notation", form.name, "--"] ++ expressions) input)
        (run settings (["--notation", form.name, "--format", "json", "--"] ++ expressions) input)
        (run settings (["--notation", form.name, "--format", "plain_text", "--"] ++ expressions)
          input)
        status report ∧
      (status = 0 ∨ status = 1) ∧
      (status = 0 ↔ ∀ e ∈ expressions, ∃ text, Operators.basic.calculate form e = .ok text) ∧
      report.results.map (·.source) = expressions := by
  have hthreshold : LogLevel.threshold? settings.logLevel = some LogLevel.warning.rank := by
    rw [hlevel]
    decide
  let r : Renderer := { operators := .basic, form, placeholder := settings.placeholder }
  have hvalues := (r.forall₂_renderAll h).2
  -- the arguments are those that are written for an invocation
  have hbare : run settings (["--notation", form.name, "--"] ++ expressions) input
      = runEach LogLevel.warning.rank (r.operators.calculate r.form) 0 expressions :=
    run_arguments hthreshold form none hne input
  have hjson : run settings (["--notation", form.name, "--format", "json", "--"] ++ expressions)
        input
      = runDocument LogLevel.warning.rank .json (r.renderAll expressions) :=
    run_arguments hthreshold form (some (.document .json)) hne input
  have hplain : run settings
        (["--notation", form.name, "--format", "plain_text", "--"] ++ expressions) input
      = runDocument LogLevel.warning.rank .plainText (r.renderAll expressions) :=
    run_arguments hthreshold form (some (.document .plainText)) hne input
  refine ⟨statusOf 0 (r.renderAll expressions).values,
    Report.ofValues (r.renderAll expressions).values, ?_, ?_, ?_, ?_⟩
  · rw [hbare, hjson, hplain]
    exact OutputsAgree.of_rendered (by decide) h
  · rcases statusOf_zero_cases (r.renderAll expressions).values with ⟨hstatus, -⟩ | ⟨hstatus, -⟩
    · exact .inl hstatus
    · exact .inr hstatus
  · rw [← all_ok_iff hvalues]
    rcases statusOf_zero_cases (r.renderAll expressions).values with
      ⟨hstatus, hok⟩ | ⟨hstatus, hok⟩
    · exact iff_of_true hstatus hok
    · rw [hstatus, hok]
      decide
  · rw [Report.ofValues, List.map_map]
    exact sources_eq hvalues

/-- A batch whose first expression is empty. -/
theorem outputs_agree_empty_first :
    (∀ e ∈ ["", "7-4"], Operators.basic.IsSettled .algebraic e) ∧
    ∃ report, OutputsAgree
      (run ⟨"postfix", "?", "WARNING", "127.0.0.1", 8000⟩ ["--notation", "infix", "--", "", "7-4"]
        "")
      (run ⟨"postfix", "?", "WARNING", "127.0.0.1", 8000⟩
        ["--notation", "infix", "--format", "json", "--", "", "7-4"] "")
      (run ⟨"postfix", "?", "WARNING", "127.0.0.1", 8000⟩
        ["--notation", "infix", "--format", "plain_text", "--", "", "7-4"] "")
      1 report := by
  have hempty : Operators.basic.calculate .algebraic ""
      = .error (.expression ⟨.emptyExpression, ""⟩) := by
    have hplan : Plan.ofExpression .basic .algebraic "" = .ok ⟨[]⟩ := rfl
    rw [Operators.calculate_of_plan hplan]
    rfl
  have hdifference : Operators.basic.calculate .algebraic "7-4" = .ok "3" :=
    Operators.calculate_eq_ok_iff.mpr
      ⟨⟨[.operand "7", .operand "4", .operator "-"]⟩, rfl, rfl⟩
  have hsettled : ∀ e ∈ ["", "7-4"], Operators.basic.IsSettled .algebraic e :=
    List.forall_mem_cons.mpr ⟨Operators.isSettled_of_error hempty,
      List.forall_mem_singleton.mpr (Operators.isSettled_of_ok hdifference)⟩
  obtain ⟨status, report, hagree, hstatus, hzero, -⟩ :=
    outputs_agree ⟨"postfix", "?", "WARNING", "127.0.0.1", 8000⟩ rfl
      (List.cons_ne_nil _ _) hsettled ""
  have hone : status = 1 := by
    refine hstatus.resolve_left fun h => ?_
    obtain ⟨text, htext⟩ := hzero.mp h "" List.mem_cons_self
    rw [hempty] at htext
    cases htext
  subst hone
  exact ⟨hsettled, report, hagree⟩

end Abacus.CommandLine
