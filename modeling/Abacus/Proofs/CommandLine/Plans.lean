import Abacus.Proofs.CommandLine.Arguments
import Abacus.Proofs.Expression.RoundTrip
import Abacus.Proofs.Text.Input

/-!
# Plans as input

The plans that a run prints are expressions that another run can read from its input (specification
§14: `--parse`). Each plan is a line of its own that holds more than blanks
(`exists_plan_of_calculate`), so that no plan is lost or divided where the input is divided into
lines. If all expressions have a value, the run on their plans prints the same values in the same
order (`run_plans`).

A batch is run expression by expression, and its status is that of the worst of them. So a run that
ends with status 0 has an answer for each expression (`exists_texts_of_runEach`), and three such
runs are compared answer by answer.
-/

namespace Abacus

/-! ## The line of a plan -/

/-- No digit is blank. -/
theorem Text.isBlank_of_isDigit {c : Char} (h : c.isDigit = true) : isBlank c = false := by
  obtain ⟨hlower, hupper⟩ : 48 ≤ c.toNat ∧ c.toNat ≤ 57 := Char.isDigit_iff_toNat.mp h
  rw [isBlank, List.any_eq_false]
  intro run hrun
  simp only [blankRuns, List.mem_cons, List.not_mem_nil, or_false] at hrun
  -- each run ends before the digits or starts behind them
  rcases hrun with rfl | rfl | rfl | rfl | rfl | rfl | rfl | rfl | rfl | rfl <;>
    simp <;> omega

/-- What can be read as a postfix expression is a line, as a line end would be a foreign character.
-/
theorem Postfix.isLine_of_tokens {s : String} {plan : List Token}
    (h : tokens .basic s.toList = .ok plan) : Text.IsLine s := by
  intro c hc
  have hops : Operators.basic.SingleCharacter [' '] :=
    Operators.basic_singleCharacter.mono (by simp)
  -- an admitted character is a digit, a blank or a symbol, and none of them ends a line
  have hadmitted := ((tokens_eq_ok_iff hops).mp h).1.admitted c hc
  constructor
  · rintro rfl
    revert hadmitted
    decide
  · rintro rfl
    revert hadmitted
    decide

/-- **The plan of an expression that has a value** is printed as a line that is filled, and this
line has the same value as a postfix expression. An empty line would be skipped as blank, and one
with a line feed would be two. -/
theorem exists_plan_of_calculate {expression text : String}
    (h : Operators.basic.calculate .algebraic expression = .ok text) :
    ∃ plan, Operators.basic.parse .algebraic expression = .ok plan ∧
      Operators.basic.calculate .reversePolish plan.text = .ok text ∧
      Text.IsLine plan.text ∧ Text.allBlank plan.text = false := by
  obtain ⟨tokens, htokens, hread⟩ := Operators.calculate_algebraic_eq_ok_iff.mp h
  have hvalue : Operators.basic.calculate .reversePolish (Plan.mk tokens).text = .ok text :=
    (Infix.read_eq_ok_iff_calculate_text Operators.basic_singleCharacter htokens text).mp hread
  obtain ⟨result, hresult, -⟩ := Operators.calculate_reversePolish_eq_ok_iff.mp hvalue
  refine ⟨⟨tokens⟩, ?_, hvalue, Postfix.isLine_of_tokens hresult, ?_⟩
  · rw [Operators.parse]
    show ((Infix.tokens _ _).map Plan.mk).mapError _ = _
    rw [htokens]
    rfl
  · cases tokens with
    | nil => cases hread
    | cons first rest =>
      -- the first token is an operand, so that there is a digit
      cases first with
      | operand digits =>
        obtain ⟨ds, rfl⟩ := Infix.exists_digits_of_mem_tokens htokens List.mem_cons_self
        obtain ⟨c, hc⟩ := List.exists_mem_of_ne_nil ds.chars ds.ne_nil
        have hmem : c ∈ (Plan.mk (.operand ds.text :: rest)).text.toList :=
          Postfix.mem_text List.mem_cons_self (by simpa [Token.text, Digits.text] using hc)
        rw [Text.allBlank, List.all_eq_false]
        refine ⟨c, hmem, ?_⟩
        rw [Text.isBlank_of_isDigit (ds.isDigit c hc)]
        exact Bool.false_ne_true
      | operator symbol => cases Stack.isOperand_of_read hread
      | group symbol => cases Stack.isOperand_of_read hread

namespace CommandLine

variable {threshold : Nat} {answer : String → Except Failure String}
  {expressions texts : List String}

/-! ## Batches without errors -/

/-- A batch with an answer for each expression prints the answers. -/
theorem runEach_of_forall₂
    (h : List.Forall₂ (fun e text => answer e = .ok text) expressions texts) (status : Nat) :
    runEach threshold answer status expressions
      = { out := Text.unlines texts, err := "", ending := .exit status } := by
  induction h with
  | nil => rfl
  | cons htext _ ih =>
    rw [runEach, htext]
    show ((runEach threshold answer status _).after _ _) = _
    rw [ih, Outcome.after, String.empty_append, ← Text.unlines_cons]

/-- A batch ends with status 0 only if there is an answer for each expression. So from the status
alone it follows that all expressions have plans. -/
theorem exists_texts_of_runEach {status : Nat}
    (h : (runEach threshold answer status expressions).ending = .exit 0) :
    status = 0 ∧ ∃ texts, List.Forall₂ (fun e text => answer e = .ok text) expressions texts := by
  induction expressions generalizing status with
  | nil =>
    have hstatus : status = 0 := by
      injection h
    exact ⟨hstatus, [], .nil⟩
  | cons expression rest ih =>
    rw [runEach] at h
    split at h
    · next text htext =>
      obtain ⟨hstatus, texts, htexts⟩ := ih h
      exact ⟨hstatus, text :: texts, .cons htext htexts⟩
    -- an expression with an error makes the status 1, which no later one undoes
    · obtain ⟨hstatus, -⟩ := ih h
      cases hstatus
    · cases h

/-! ## Runs on plans -/

/-- What a run that prints plans answers. -/
def planText (form : Notation) (expression : String) : Except Failure String :=
  ((Operators.basic.parse form expression).map Plan.text).mapError .expression

/-- The lines of the plans of expressions that have a value. -/
theorem exists_plan_lines
    (h : List.Forall₂ (fun e text => Operators.basic.calculate .algebraic e = .ok text)
      expressions texts) :
    ∃ lines, List.Forall₂ (fun e line => planText .algebraic e = .ok line) expressions lines ∧
      List.Forall₂ (fun line text => Operators.basic.calculate .reversePolish line = .ok text)
        lines texts ∧
      ∀ line ∈ lines, Text.IsLine line ∧ Text.allBlank line = false := by
  induction h with
  | nil => exact ⟨[], .nil, .nil, fun line hline => nomatch hline⟩
  | cons htext _ ih =>
    obtain ⟨plan, hplan, hvalue, hline⟩ := exists_plan_of_calculate htext
    obtain ⟨lines, hplans, hvalues, hlines⟩ := ih
    refine ⟨plan.text :: lines, .cons ?_ hplans, .cons hvalue hvalues,
      List.forall_mem_cons.mpr ⟨hline, hlines⟩⟩
    rw [planText, hplan]
    rfl

/-- A run on the lines of the input. -/
theorem run_input {settings : Settings}
    (hlevel : LogLevel.threshold? settings.logLevel = some threshold) (form : Notation)
    {lines : List String} (h : ∀ line ∈ lines, Text.IsLine line ∧ Text.allBlank line = false) :
    run settings ["--notation", form.name] (Text.unlines lines)
      = runEach threshold (Operators.basic.calculate form) 0 lines := by
  have hread : Invocation.ofArguments ["--notation", form.name] = .ok ⟨.named form, none, []⟩ := by
    cases form <;> rfl
  have hlines : Text.filledLines (Text.unlines lines) = lines :=
    (Text.holds_unlines fun line hline => (h line hline).1).filledLines_eq fun line hline =>
      (h line hline).2
  rw [run, hlevel, hread]
  show runMode settings threshold form none (Text.filledLines _) = _
  rw [hlines]
  rfl

/-- **Plans as input.** If a run on infix expressions finds nothing wrong, neither does the run that
prints their plans, nor a run whose input these plans are; and it prints the same as the first. -/
theorem run_plans {settings : Settings} {expressions : List String} (hne : expressions ≠ [])
    {input : String}
    (h : (run settings (["--notation", "infix", "--"] ++ expressions) input).ending = .exit 0) :
    (run settings (["--notation", "infix", "--parse", "--"] ++ expressions) input).ending
        = .exit 0 ∧
      (run settings ["--notation", "postfix"]
        (run settings (["--notation", "infix", "--parse", "--"] ++ expressions) input).out).ending
        = .exit 0 ∧
      (run settings ["--notation", "postfix"]
        (run settings (["--notation", "infix", "--parse", "--"] ++ expressions) input).out).out
        = (run settings (["--notation", "infix", "--"] ++ expressions) input).out := by
  cases hlevel : LogLevel.threshold? settings.logLevel with
  | none =>
    rw [run, hlevel] at h
    cases h
  | some threshold =>
    -- a run with status 0 has answers, and the answers are what the other two runs are given
    have hbare : run settings (["--notation", "infix", "--"] ++ expressions) input
        = runEach threshold (Operators.basic.calculate .algebraic) 0 expressions :=
      run_arguments hlevel .algebraic none hne input
    have hparse : run settings (["--notation", "infix", "--parse", "--"] ++ expressions) input
        = runEach threshold (planText .algebraic) 0 expressions :=
      run_arguments hlevel .algebraic (some .plans) hne input
    rw [hbare] at h
    obtain ⟨-, texts, htexts⟩ := exists_texts_of_runEach h
    obtain ⟨lines, hplans, hvalues, hlines⟩ := exists_plan_lines htexts
    have hpiped : run settings ["--notation", "postfix"] (Text.unlines lines)
        = runEach threshold (Operators.basic.calculate .reversePolish) 0 lines :=
      run_input hlevel .reversePolish hlines
    rw [hbare, hparse, runEach_of_forall₂ htexts, runEach_of_forall₂ hplans, hpiped,
      runEach_of_forall₂ hvalues]
    exact ⟨rfl, rfl, rfl⟩

/-- Two expressions whose plans put the operator behind both numbers. -/
theorem run_plans_two_lines :
    (run ⟨"infix", "?", "WARNING", "127.0.0.1", 8000⟩ ["--notation", "infix", "--", "7-4", "(8)/2"]
      "").ending = .exit 0 ∧
    (run ⟨"infix", "?", "WARNING", "127.0.0.1", 8000⟩ ["--notation", "postfix"]
      (run ⟨"infix", "?", "WARNING", "127.0.0.1", 8000⟩
        ["--notation", "infix", "--parse", "--", "7-4", "(8)/2"] "").out).out = "3\n4\n" := by
  have hdifference : Operators.basic.calculate .algebraic "7-4" = .ok "3" :=
    Operators.calculate_eq_ok_iff.mpr
      ⟨⟨[.operand "7", .operand "4", .operator "-"]⟩, rfl, rfl⟩
  have hquotient : Operators.basic.calculate .algebraic "(8)/2" = .ok "4" :=
    Operators.calculate_eq_ok_iff.mpr
      ⟨⟨[.operand "8", .operand "2", .operator "/"]⟩, rfl, rfl⟩
  have hbare : run ⟨"infix", "?", "WARNING", "127.0.0.1", 8000⟩
        ["--notation", "infix", "--", "7-4", "(8)/2"] ""
      = { out := "3\n4\n", err := "", ending := .exit 0 } := by
    have hrun : run ⟨"infix", "?", "WARNING", "127.0.0.1", 8000⟩
          ["--notation", "infix", "--", "7-4", "(8)/2"] ""
        = runEach LogLevel.warning.rank (Operators.basic.calculate .algebraic) 0
          ["7-4", "(8)/2"] :=
      run_arguments rfl .algebraic none (List.cons_ne_nil _ _) ""
    rw [hrun, runEach_of_forall₂ (.cons hdifference (.cons hquotient .nil))]
    rfl
  have hending := congrArg Outcome.ending hbare
  obtain ⟨-, -, hout⟩ := run_plans (List.cons_ne_nil "7-4" ["(8)/2"]) hending
  exact ⟨hending, hout.trans (congrArg Outcome.out hbare)⟩

end CommandLine
end Abacus
