import Abacus.Proofs.CommandLine.Arguments
import Abacus.Proofs.Outcome

/-!
# Arguments that name no notation

What is read of the other arguments does not depend on the notation that is asked for, nor does it
change it (`Progress.addAll_withForm`). So a notation can be named in front of arguments that name
none, and all else that they ask for stays as it is (`Invocation.ofArguments_named`).

- `run_named`: a run without a notation is a run in the default notation, where there is one.
- `run_of_unknown`: where there is none, such a run tells what is configured and does nothing else.
- `run_defaultName`: a run with a notation does not depend on what is configured.

The notation is one field of what has been read. Each step is shown to commute with a change of this
field (`addPlain_withForm`, `addFlag_withForm`, `addValue_withForm` and others), failures included:
wrong usage is found at the same argument and told in the same words. The run over all arguments
follows by induction along the cases of `Progress.addAll`.

Help is left out of the first and the last, as it shows what is configured (specification §14).
-/

namespace Abacus.CommandLine

/-- None of the arguments names a notation. Arguments that are not even told apart name none: the
run ends before a notation is needed. -/
def NamesNoForm (arguments : List String) : Prop :=
  ∀ read, Argument.ofTexts arguments = .ok read → ∀ value, .switch .form value ∉ read

namespace Progress

/-- What has been read, with another notation. -/
def withForm (p : Progress) (choice : FormChoice) : Progress :=
  { p with form := choice }

variable (p : Progress) (choice : FormChoice)

/-! ## Steps

Each step of reading arguments either sets the notation or has nothing to do with it. The steps of
the second kind are the same with another notation. -/

theorem addPlain_withForm (text : String) :
    (p.withForm choice).addPlain text = (p.addPlain text).withForm choice := by
  obtain ⟨form, mode, phase, group, extras⟩ := p
  cases phase <;> rfl

theorem endGroup_withForm : (p.withForm choice).endGroup = p.endGroup.withForm choice := by
  obtain ⟨form, mode, phase, group, extras⟩ := p
  cases phase <;> rfl

/-- Ways of output exclude each other, whatever the notation is. -/
theorem choose_withForm (mode : Mode) :
    (p.withForm choice).choose mode = (p.choose mode).map (·.withForm choice) := by
  obtain ⟨form, earlier, phase, group, extras⟩ := p
  cases earlier with
  | none => rfl
  | some earlier =>
    show (if earlier.switch = mode.switch then _ else _) = Except.map _ (if _ then _ else _)
    by_cases hswitch : earlier.switch = mode.switch
    · rw [if_pos hswitch, if_pos hswitch]
      rfl
    · rw [if_neg hswitch, if_neg hswitch]
      rfl

/-- A switch without a value asks for no notation. -/
theorem addFlag_withForm (s : Switch) :
    (p.withForm choice).addFlag s = (p.addFlag s).map (·.withForm choice) := by
  cases s with
  | help => rfl
  | form => rfl
  | parse => exact choose_withForm p choice .plans
  | format => rfl
  | serve => exact choose_withForm p choice .serve

/-- The value of the format switch: the key of a format, or the double hyphen that stands for bare
results. -/
theorem addValue_format (value : String) :
    p.addValue .format value = match Format.ofKey? value with
      | some format => p.choose (.document format)
      | none =>
        if value = "--" then p.choose .results
        else .error (.wrongUsage (.invalidChoice .format value)) := by
  rw [addValue.eq_def]
  cases Format.ofKey? value <;> rfl

/-- Nor does the value of any switch but one. -/
theorem addValue_withForm {s : Switch} (h : s ≠ .form) (value : String) :
    (p.withForm choice).addValue s value = (p.addValue s value).map (·.withForm choice) := by
  cases s with
  | form => exact absurd rfl h
  | help => rfl
  | parse => rfl
  | format =>
    rw [addValue_format, addValue_format]
    cases Format.ofKey? value with
    | some format => exact choose_withForm p choice (.document format)
    | none =>
      show (if value = "--" then _ else _) = Except.map _ (if value = "--" then _ else _)
      by_cases hvalue : value = "--"
      · rw [if_pos hvalue, if_pos hvalue]
        exact choose_withForm p choice .results
      · rw [if_neg hvalue, if_neg hvalue]
        rfl
  | serve => rfl

/-! ## Runs -/

/-- What comes behind a step goes on with the other notation. -/
theorem bind_withForm (x : Except Stop Progress) {read : List Argument}
    (h : ∀ q : Progress,
      (q.withForm choice).addAll read = (q.addAll read).map (·.withForm choice)) :
    (x.map (·.withForm choice)).bind (addAll · read)
      = (x.bind (addAll · read)).map (·.withForm choice) := by
  cases x with
  | error stop => rfl
  | ok q => exact h q

/-- **The notation is kept aside** by all arguments that do not name one. By induction along the
cases of reading, in which a switch takes the argument behind it along as its value. -/
theorem addAll_withForm {read : List Argument} (h : ∀ value, .switch .form value ∉ read) :
    (p.withForm choice).addAll read = (p.addAll read).map (·.withForm choice) := by
  have hrest {argument : Argument} {rest : List Argument}
      (h : ∀ value, .switch .form value ∉ argument :: rest) :
      ∀ value, .switch .form value ∉ rest :=
    fun value hmem => h value (List.mem_cons_of_mem _ hmem)
  have hne {s : Switch} {value? : Option String} {rest : List Argument}
      (h : ∀ value, .switch .form value ∉ .switch s value? :: rest) : s ≠ .form := by
    rintro rfl
    exact h value? List.mem_cons_self
  -- along the cases of reading: in each of them the step is one of those above
  induction p, read using addAll.induct with
  | case1 p => rfl
  | case2 p text rest ih =>
    rw [addAll, addAll, addPlain_withForm]
    exact ih (hrest h)
  | case3 p rest ih =>
    rw [addAll, addAll, addPlain_withForm]
    exact ih (hrest h)
  | case4 p text rest ih =>
    rw [addAll, addAll, endGroup_withForm]
    exact ih (hrest h)
  | case5 p rest => rfl
  | case6 p attached rest => rfl
  | case7 p s value rest hs ih =>
    rw [addAll_attached hs, addAll_attached hs, endGroup_withForm, addValue_withForm _ _ (hne h)]
    exact bind_withForm choice _ fun q => ih q (hrest h)
  | case8 p s value rest hs =>
    rw [addAll, addAll, if_neg hs, if_neg hs]
    rfl
  | case9 p s hs value rest ih =>
    rw [addAll_value hs, addAll_value hs, endGroup_withForm, addValue_withForm _ _ (hne h)]
    exact bind_withForm choice _ fun q => ih q (hrest (hrest h))
  | case10 p s rest hs hrest =>
    rw [addAll, addAll, if_pos hs, if_pos hs]
    · rfl
    · exact hrest
    · exact hrest
  | case11 p s rest hs ih =>
    rw [addAll_flag (by simpa using hs), addAll_flag (by simpa using hs), endGroup_withForm,
      addFlag_withForm]
    exact bind_withForm choice _ fun q => ih q (hrest h)

/-- In the end the notation is all that differs. -/
theorem finish_withForm :
    (p.withForm choice).finish = p.finish.map fun i => { i with form := choice } := by
  show (if p.extras.isEmpty then _ else _) = Except.map _ (if p.extras.isEmpty then _ else _)
  by_cases hextras : p.extras.isEmpty = true
  · rw [if_pos hextras, if_pos hextras]
    rfl
  · rw [if_neg hextras, if_neg hextras]
    rfl

end Progress

/-! ## Invocations -/

namespace Invocation

variable {arguments : List String}

/-- **A notation can be named in front** of arguments that name none. The invocation is the same but
for the notation; if they ask for no invocation, neither do the longer ones, for the same reason. -/
theorem ofArguments_named (h : NamesNoForm arguments) (form : Notation) :
    ofArguments ("--notation" :: form.name :: arguments)
      = (ofArguments arguments).map fun i => { i with form := .named form } := by
  have htexts : Argument.ofTexts ("--notation" :: form.name :: arguments)
      = (Argument.ofTexts arguments).map ((FormChoice.named form).read ++ ·) :=
    (FormChoice.named form).ofTexts_arguments arguments
  rw [ofArguments, ofArguments, htexts]
  cases hread : Argument.ofTexts arguments with
  | error e => rfl
  | ok read =>
    show (Progress.start.addAll ((FormChoice.named form).read ++ read)).bind Progress.finish
      = ((Progress.start.addAll read).bind Progress.finish).map _
    rw [FormChoice.addAll_read]
    show ((Progress.start.withForm (.named form)).addAll read).bind Progress.finish = _
    rw [Progress.addAll_withForm _ _ (h read hread)]
    cases Progress.start.addAll read with
    | error stop => rfl
    | ok q => exact q.finish_withForm (.named form)

/-- Without a name, the notation is that of the settings. -/
theorem form_eq_configured (h : NamesNoForm arguments) {i : Invocation}
    (hi : ofArguments arguments = .ok i) : i.form = .configured := by
  obtain ⟨read, hread, hi⟩ := Outcome.bind_eq_ok hi
  obtain ⟨q, hq, hi⟩ := Outcome.bind_eq_ok hi
  have hnames := h read (Outcome.mapError_eq_ok hread)
  -- to ask for no other notation at the start is to ask for none in the end
  have hkept : Progress.start.addAll read
      = (Progress.start.addAll read).map (·.withForm .configured) :=
    Progress.start.addAll_withForm .configured hnames
  rw [hq] at hkept
  have hform : q = q.withForm .configured := Except.ok.inj hkept
  rw [hform, Progress.finish_withForm] at hi
  obtain ⟨j, -, rfl⟩ := Outcome.map_eq_ok hi
  rfl

end Invocation

/-! ## Runs -/

variable {settings : Settings} {arguments : List String}

/-- **A run without a notation** is one in the default notation, as if that had been named in front
of all arguments. The text of the help is left out: it shows the default. -/
theorem run_named {form : Notation} (hdefault : Notation.ofName? settings.defaultName = some form)
    (h : NamesNoForm arguments) (hhelp : Invocation.ofArguments arguments ≠ .error .help)
    (input : String) :
    run settings arguments input = run settings ("--notation" :: form.name :: arguments) input := by
  rw [run, run, Invocation.ofArguments_named h form]
  cases LogLevel.threshold? settings.logLevel with
  | none => rfl
  | some threshold =>
    cases hread : Invocation.ofArguments arguments with
    | error stop =>
      cases stop with
      | help => exact absurd hread hhelp
      | wrongUsage e => rfl
    | ok i =>
      -- help and wrong usage apart, the default is looked up as if it had been named
      have hform : formOf settings i.form = .ok form := by
        rw [Invocation.form_eq_configured h hread, formOf, hdefault]
      show runInvocation settings threshold input i = runInvocation settings threshold input _
      rw [runInvocation, runInvocation, hform]
      rfl

/-- Without a default notation, a run that needs it only tells what is configured. -/
theorem run_of_unknown (hdefault : Notation.ofName? settings.defaultName = none)
    (hlevel : LogLevel.threshold? settings.logLevel ≠ none) (h : NamesNoForm arguments)
    {i : Invocation} (hi : Invocation.ofArguments arguments = .ok i) (input : String) :
    run settings arguments input
      = { out := "", err := unknownNotation settings.defaultName, ending := .exit 2 } := by
  obtain ⟨threshold, hthreshold⟩ := Option.ne_none_iff_exists'.mp hlevel
  have hform : formOf settings i.form = .error settings.defaultName := by
    rw [Invocation.form_eq_configured h hi, formOf, hdefault]
  rw [run, hthreshold, hi]
  show runInvocation settings threshold input i = _
  rw [runInvocation, hform]

/-- **A run with a notation** does not depend on the default one. -/
theorem run_defaultName (hhelp : Invocation.ofArguments arguments ≠ .error .help)
    (h : ∀ i, Invocation.ofArguments arguments = .ok i → i.form ≠ .configured)
    (name input : String) :
    run { settings with defaultName := name } arguments input = run settings arguments input := by
  rw [run, run]
  cases LogLevel.threshold? settings.logLevel with
  | none => rfl
  | some threshold =>
    cases hread : Invocation.ofArguments arguments with
    | error stop =>
      cases stop with
      | help => exact absurd hread hhelp
      | wrongUsage e => rfl
    | ok i =>
      have hform := h i hread
      obtain ⟨form, mode, expressions⟩ := i
      cases form with
      | configured => exact absurd rfl hform
      | named form => rfl
      | none => rfl

end Abacus.CommandLine
