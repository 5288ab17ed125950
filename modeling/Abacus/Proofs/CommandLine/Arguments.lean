import Abacus.CommandLine.Run

/-!
# Writing command lines

Every invocation can be asked for: there are arguments that are read as that invocation and no other
(`Invocation.ofArguments_arguments`). They name the notation and the way of output and give the
expressions behind a double hyphen, so that any texts can be expressions, also those that look like
switches. Arguments are first told apart (`FormChoice.ofTexts_arguments`, `Mode.ofTexts_arguments`)
and then read (`FormChoice.addAll_read`, `Mode.addAll_read`), and both is shown for what each of
these arguments is written as.

What a run does with such arguments is then the matter of its way of output alone (`run_arguments`).
-/

namespace Abacus.CommandLine

/-! ## Arguments and what they are -/

/-- The arguments that ask for a notation. Asking for none is to give the switch the double hyphen
as its value, which has to be attached to it there. -/
def FormChoice.arguments : FormChoice → List String
  | .configured => []
  | .named form => ["--notation", form.name]
  | .none => ["--notation=--"]

/-- What these arguments are. -/
def FormChoice.read : FormChoice → List Argument
  | .configured => []
  | .named form => [.switch .form Option.none, .plain form.name]
  | .none => [.switch .form (some "--")]

/-- The arguments that ask for a way of output. -/
def Mode.arguments : Option Mode → List String
  | none => []
  | some .results => ["--format=--"]
  | some .plans => ["--parse"]
  | some (.document format) => ["--format", format.key]
  | some .serve => ["--serve"]

/-- What these arguments are. -/
def Mode.read : Option Mode → List Argument
  | none => []
  | some .results => [.switch .format (some "--")]
  | some .plans => [.switch .parse none]
  | some (.document format) => [.switch .format none, .plain format.key]
  | some .serve => [.switch .serve none]

/-- The arguments that ask for an invocation. -/
def Invocation.arguments (i : Invocation) : List String :=
  i.form.arguments ++ (Mode.arguments i.mode ++ "--" :: i.expressions)

theorem Argument.ofTexts_cons {s : String} {argument : Argument} (hne : s ≠ "--")
    (hs : ofText s = .ok argument) (rest : List String) :
    ofTexts (s :: rest) = (ofTexts rest).map (argument :: ·) := by
  rw [ofTexts, if_neg hne, hs]
  rfl

/-- The arguments that ask for a notation are what they are meant to be, whatever follows. -/
theorem FormChoice.ofTexts_arguments (choice : FormChoice) (rest : List String) :
    Argument.ofTexts (choice.arguments ++ rest)
      = (Argument.ofTexts rest).map (choice.read ++ ·) := by
  rcases choice with _ | form | _
  · exact (congrFun Except.map_id (Argument.ofTexts rest)).symm
  · have hne : form.name ≠ "--" := by
      cases form <;> decide
    have hname : Argument.ofText form.name = .ok (.plain form.name) := by
      cases form <;> rfl
    show Argument.ofTexts ("--notation" :: form.name :: rest) = _
    rw [Argument.ofTexts_cons (by decide) rfl, Argument.ofTexts_cons hne hname]
    cases Argument.ofTexts rest <;> rfl
  · exact Argument.ofTexts_cons (by decide) rfl rest

/-- So are those that ask for a way of output. -/
theorem Mode.ofTexts_arguments (mode : Option Mode) (rest : List String) :
    Argument.ofTexts (Mode.arguments mode ++ rest)
      = (Argument.ofTexts rest).map (Mode.read mode ++ ·) := by
  rcases mode with _ | _ | _ | format | _
  · exact (congrFun Except.map_id (Argument.ofTexts rest)).symm
  · exact Argument.ofTexts_cons (by decide) rfl rest
  · exact Argument.ofTexts_cons (by decide) rfl rest
  · have hne : format.key ≠ "--" := by
      cases format <;> decide
    have hkey : Argument.ofText format.key = .ok (.plain format.key) := by
      cases format <;> rfl
    show Argument.ofTexts ("--format" :: format.key :: rest) = _
    rw [Argument.ofTexts_cons (by decide) rfl, Argument.ofTexts_cons hne hkey]
    cases Argument.ofTexts rest <;> rfl
  · exact Argument.ofTexts_cons (by decide) rfl rest

/-! ## Reading them -/

theorem Progress.addAll_attached {s : Switch} (h : s.takesValue = true) (p : Progress)
    (value : String) (rest : List Argument) :
    p.addAll (.switch s (some value) :: rest)
      = (p.endGroup.addValue s value).bind (addAll · rest) := by
  rw [addAll, if_pos h]
  rfl

theorem Progress.addAll_value {s : Switch} (h : s.takesValue = true) (p : Progress) (value : String)
    (rest : List Argument) :
    p.addAll (.switch s none :: .plain value :: rest)
      = (p.endGroup.addValue s value).bind (addAll · rest) := by
  rw [addAll, if_pos h]
  rfl

theorem Progress.addAll_flag {s : Switch} (h : s.takesValue = false) (p : Progress)
    (rest : List Argument) :
    p.addAll (.switch s none :: rest) = (p.endGroup.addFlag s).bind (addAll · rest) := by
  rw [addAll.eq_def]
  simp only [h]
  rfl

/-- Read at the start, the arguments that ask for a notation set it and nothing else. -/
theorem FormChoice.addAll_read (choice : FormChoice) (rest : List Argument) :
    Progress.start.addAll (choice.read ++ rest)
      = Progress.addAll { Progress.start with form := choice } rest := by
  rcases choice with _ | form | _
  · rfl
  · have hvalue : Progress.start.endGroup.addValue .form form.name
        = .ok { Progress.start with form := .named form } := by
      cases form <;> rfl
    exact (Progress.addAll_value rfl _ _ _).trans (congrArg (Except.bind · _) hvalue)
  · rfl

/-- Read behind them, those that ask for a way of output set it and nothing else. -/
theorem Mode.addAll_read (form : FormChoice) (mode : Option Mode) (rest : List Argument) :
    Progress.addAll { Progress.start with form } (Mode.read mode ++ rest)
      = Progress.addAll { Progress.start with form, mode } rest := by
  rcases mode with _ | _ | _ | format | _
  · rfl
  · rfl
  · exact Progress.addAll_flag rfl _ _
  · cases format <;> exact Progress.addAll_value rfl _ _ _
  · exact Progress.addAll_flag rfl _ _

/-- Plain arguments that follow each other are expressions. -/
theorem Progress.addAll_map_plain {p : Progress} (h : p.phase = .reading) (texts : List String) :
    p.addAll (texts.map .plain) = .ok { p with group := p.group ++ texts } := by
  induction texts generalizing p with
  | nil =>
    rw [List.append_nil]
    rfl
  | cons text texts ih =>
    have hplain : p.addPlain text = { p with group := p.group ++ [text] } := by
      rw [addPlain, h]
    rw [List.map_cons, addAll, hplain, ih, List.append_assoc]
    · rfl
    · exact h

/-- **Every invocation can be asked for.** So what is proved of runs on the arguments of an
invocation is proved of all invocations. The expressions stand behind a double hyphen there, because
they may start with a hyphen themselves. -/
theorem Invocation.ofArguments_arguments (i : Invocation) :
    Invocation.ofArguments i.arguments = .ok i := by
  obtain ⟨form, mode, expressions⟩ := i
  have htexts : Argument.ofTexts (arguments ⟨form, mode, expressions⟩)
      = .ok (form.read ++ (Mode.read mode ++ .separator :: expressions.map .plain)) := by
    rw [arguments, FormChoice.ofTexts_arguments, Mode.ofTexts_arguments]
    rfl
  have hread : Progress.start.addAll
        (form.read ++ (Mode.read mode ++ .separator :: expressions.map .plain))
      = .ok { form, mode, phase := .reading, group := "--" :: expressions, extras := [] } := by
    -- the double hyphen starts the group of plain arguments, and stands in it until the end
    rw [FormChoice.addAll_read, Mode.addAll_read, Progress.addAll]
    exact Progress.addAll_map_plain rfl expressions
  rw [ofArguments, htexts]
  show (Progress.start.addAll _).bind Progress.finish = _
  rw [hread]
  show Except.ok _ = _
  rw [List.erase_cons_head]

/-- **A run on written arguments**, if there are expressions among them. -/
theorem run_arguments {settings : Settings} {threshold : Nat}
    (h : LogLevel.threshold? settings.logLevel = some threshold) (form : Notation)
    (mode : Option Mode) {expressions : List String} (hne : expressions ≠ []) (input : String) :
    run settings (Invocation.arguments ⟨.named form, mode, expressions⟩) input
      = runMode settings threshold form mode expressions := by
  have hfilled : expressions.isEmpty = false := by
    rwa [List.isEmpty_eq_false_iff]
  rw [run, h, Invocation.ofArguments_arguments]
  simp only [runInvocation, formOf, hfilled]
  rfl

end Abacus.CommandLine
