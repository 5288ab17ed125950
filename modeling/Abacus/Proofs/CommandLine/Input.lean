import Abacus.Proofs.CommandLine.Arguments
import Abacus.Proofs.Outcome
import Abacus.Proofs.Text.Input

/-!
# Expressions from the input

Expressions that are given as lines of the input are treated as if they were given as arguments
behind a double hyphen (specification §14; `run_input_eq`). What options in front of them ask for is
the same in both cases:

- `Choice`: the options, each with its value attached or as an argument of its own.
- `Choice.addAll_read`: options are read one by one, before any plain argument is.
- `Invocation.ofArguments_behind`: so the expressions behind them are all that is added.

An option in front can make the run fail, as it does where two ways of output are asked for; then it
fails in both cases, and neither looks at the expressions.

Lines of the input are taken apart at any of the three line ends, and blank ones are passed over
(`Text.Holds`). An argument is never divided or passed over, so the expressions have to be lines
that are filled; an empty argument, for one, is an expression that no line gives.
-/

namespace Abacus.CommandLine

/-! ## Options

Options are followed from texts to what is read of them. What stands behind them is a variable here,
since it is told apart in the same way after any options. -/

/-- An option that asks for a notation or for a way of output. The value of its switch may be
attached to it. -/
inductive Choice where
  | named (form : Notation) (attached : Bool)
  | plans
  | document (format : Format) (attached : Bool)
deriving DecidableEq, Repr

namespace Choice

/-- The arguments of an option. -/
def arguments : Choice → List String
  | .named form false => ["--notation", form.name]
  | .named form true => ["--notation=" ++ form.name]
  | .plans => ["--parse"]
  | .document format false => ["--format", format.key]
  | .document format true => ["--format=" ++ format.key]

/-- What these arguments are. -/
def read : Choice → List Argument
  | .named form false => [.switch .form none, .plain form.name]
  | .named form true => [.switch .form (some form.name)]
  | .plans => [.switch .parse none]
  | .document format false => [.switch .format none, .plain format.key]
  | .document format true => [.switch .format (some format.key)]

/-- What has been read once an option is added. -/
def add (p : Progress) : Choice → Except Stop Progress
  | .named form _ => .ok { p with form := .named form }
  | .plans => p.choose .plans
  | .document format _ => p.choose (.document format)

/-- The arguments of some options. -/
def argumentsOf (choices : List Choice) : List String :=
  choices.flatMap arguments

/-- The arguments of an option are what they are meant to be, whatever follows. -/
theorem ofTexts_arguments (choice : Choice) (rest : List String) :
    Argument.ofTexts (choice.arguments ++ rest)
      = (Argument.ofTexts rest).map (choice.read ++ ·) := by
  -- the arguments of each option are fixed texts
  have hone {s : String} {argument : Argument} (hne : s ≠ "--")
      (hs : Argument.ofText s = .ok argument) :
      Argument.ofTexts ([s] ++ rest) = (Argument.ofTexts rest).map ([argument] ++ ·) :=
    Argument.ofTexts_cons hne hs rest
  have htwo {s value : String} {argument : Argument} (hne : s ≠ "--" ∧ value ≠ "--")
      (hs : Argument.ofText s = .ok argument)
      (hvalue : Argument.ofText value = .ok (.plain value)) :
      Argument.ofTexts ([s, value] ++ rest)
        = (Argument.ofTexts rest).map ([argument, .plain value] ++ ·) := by
    show Argument.ofTexts (s :: value :: rest) = _
    rw [Argument.ofTexts_cons hne.1 hs, Argument.ofTexts_cons hne.2 hvalue]
    cases Argument.ofTexts rest <;> rfl
  match choice with
  | .named .algebraic false => exact htwo (by decide) rfl rfl
  | .named .reversePolish false => exact htwo (by decide) rfl rfl
  | .named .algebraic true => exact hone (by decide) rfl
  | .named .reversePolish true => exact hone (by decide) rfl
  | .plans => exact hone (by decide) rfl
  | .document .json false => exact htwo (by decide) rfl rfl
  | .document .plainText false => exact htwo (by decide) rfl rfl
  | .document .json true => exact hone (by decide) rfl
  | .document .plainText true => exact hone (by decide) rfl

/-- So are those of several options. -/
theorem ofTexts_argumentsOf (choices : List Choice) (rest : List String) :
    Argument.ofTexts (argumentsOf choices ++ rest)
      = (Argument.ofTexts rest).map (choices.flatMap read ++ ·) := by
  induction choices with
  | nil => exact (congrFun Except.map_id (Argument.ofTexts rest)).symm
  | cons choice choices ih =>
    rw [argumentsOf, List.flatMap_cons, List.append_assoc, ofTexts_arguments]
    show Except.map _ (Argument.ofTexts (argumentsOf choices ++ rest)) = _
    rw [ih]
    cases Argument.ofTexts rest with
    | error e => rfl
    | ok read => simp [Except.map]

end Choice

/-! ## Reading options

As long as options only were read, no plain arguments wait, so that each option can be added without
a look at the others. -/

/-- No plain arguments have been read, nor any that are not recognized: as long as there are options
only, nothing is kept but what they ask for. -/
structure Progress.IsBare (p : Progress) : Prop where
  phase_eq : p.phase = .ahead
  group_eq : p.group = []
  extras_eq : p.extras = []

/-- A way of output that may be asked for is asked for. -/
theorem Progress.choose_eq_ok {p q : Progress} {mode : Mode} (h : p.choose mode = .ok q) :
    q = { p with mode := some mode } := by
  unfold choose at h
  split at h
  · split at h
    · exact (Except.ok.inj h).symm
    · cases h
  · exact (Except.ok.inj h).symm

namespace Choice

variable {p q : Progress}

/-- Options are no plain arguments. -/
theorem isBare_of_add (hp : p.IsBare) {choice : Choice} (h : choice.add p = .ok q) : q.IsBare := by
  obtain ⟨hphase, hgroup, hextras⟩ := hp
  cases choice with
  | named form attached =>
    obtain rfl := Except.ok.inj h
    exact ⟨hphase, hgroup, hextras⟩
  | plans =>
    obtain rfl := Progress.choose_eq_ok h
    exact ⟨hphase, hgroup, hextras⟩
  | document format attached =>
    obtain rfl := Progress.choose_eq_ok h
    exact ⟨hphase, hgroup, hextras⟩

/-- An option is added as a whole. -/
theorem addAll_read (hp : p.IsBare) (choice : Choice) (rest : List Argument) :
    p.addAll (choice.read ++ rest) = (choice.add p).bind (Progress.addAll · rest) := by
  -- nothing has been read that an option could end
  have hend : p.endGroup = p := by
    rw [Progress.endGroup, hp.phase_eq]
    rfl
  cases choice with
  | named form attached =>
    have hvalue : p.endGroup.addValue .form form.name = .ok { p with form := .named form } := by
      rw [hend]
      cases form <;> rfl
    cases attached with
    | false => exact (Progress.addAll_value rfl _ _ _).trans (congrArg (Except.bind · _) hvalue)
    | true => exact (Progress.addAll_attached rfl _ _ _).trans (congrArg (Except.bind · _) hvalue)
  | plans =>
    refine (Progress.addAll_flag rfl _ _).trans ?_
    rw [hend]
    rfl
  | document format attached =>
    have hvalue : p.endGroup.addValue .format format.key = p.choose (.document format) := by
      rw [hend]
      cases format <;> rfl
    cases attached with
    | false => exact (Progress.addAll_value rfl _ _ _).trans (congrArg (Except.bind · _) hvalue)
    | true => exact (Progress.addAll_attached rfl _ _ _).trans (congrArg (Except.bind · _) hvalue)

/-- What has been read once some options are added. -/
def addList (p : Progress) : List Choice → Except Stop Progress
  | [] => .ok p
  | choice :: choices => (choice.add p).bind (addList · choices)

theorem isBare_of_addList (hp : p.IsBare) {choices : List Choice} (h : addList p choices = .ok q) :
    q.IsBare := by
  induction choices generalizing p with
  | nil => exact Except.ok.inj h ▸ hp
  | cons choice choices ih =>
    obtain ⟨p', hp', h⟩ := Outcome.bind_eq_ok h
    exact ih (isBare_of_add hp hp') h

/-- **Options are added one by one**, and then what follows them. -/
theorem addAll_flatMap_read (hp : p.IsBare) (choices : List Choice) (rest : List Argument) :
    p.addAll (choices.flatMap read ++ rest)
      = (addList p choices).bind (Progress.addAll · rest) := by
  induction choices generalizing p with
  | nil => rfl
  | cons choice choices ih =>
    rw [List.flatMap_cons, List.append_assoc, addAll_read hp, addList]
    cases h : choice.add p with
    | error stop => rfl
    | ok p' => exact ih (isBare_of_add hp h)

end Choice

/-- **Expressions behind options** are what plain arguments add to the options: what stands behind
the double hyphen is not looked at, be it like a switch or not. -/
theorem Invocation.ofArguments_behind (choices : List Choice) (expressions : List String) :
    (∀ i, ofArguments (Choice.argumentsOf choices) = .ok i → i.expressions = []) ∧
    ofArguments (Choice.argumentsOf choices ++ "--" :: expressions)
      = (ofArguments (Choice.argumentsOf choices)).map fun i => { i with expressions } := by
  -- both invocations begin with the same options, which are read first
  have hstart : Progress.start.IsBare := ⟨rfl, rfl, rfl⟩
  have hoptions : Argument.ofTexts (Choice.argumentsOf choices)
      = .ok (choices.flatMap Choice.read ++ []) := by
    have htexts := Choice.ofTexts_argumentsOf choices []
    rwa [List.append_nil] at htexts
  have hall : Argument.ofTexts (Choice.argumentsOf choices ++ "--" :: expressions)
      = .ok (choices.flatMap Choice.read ++ .separator :: expressions.map .plain) :=
    Choice.ofTexts_argumentsOf choices ("--" :: expressions)
  rw [ofArguments, ofArguments, hoptions, hall]
  show (∀ i, (Progress.start.addAll _).bind Progress.finish = .ok i → _) ∧
    (Progress.start.addAll _).bind Progress.finish
      = ((Progress.start.addAll _).bind Progress.finish).map _
  rw [Choice.addAll_flatMap_read hstart, Choice.addAll_flatMap_read hstart]
  cases h : Choice.addList Progress.start choices with
  | error stop =>
    constructor
    · intro i hi
      cases hi
    · rfl
  | ok p =>
    obtain ⟨form, mode, phase, group, extras⟩ := p
    obtain ⟨rfl, rfl, rfl⟩ := Choice.isBare_of_addList hstart h
    constructor
    · intro i hi
      exact congrArg Invocation.expressions (Except.ok.inj hi).symm
    · -- the double hyphen is the first plain argument
      show (Progress.addAll ⟨form, mode, .reading, ["--"], []⟩ (expressions.map .plain)).bind
        Progress.finish = _
      rw [Progress.addAll_map_plain rfl]
      show Except.ok (Invocation.mk form mode (("--" :: expressions).erase "--")) = _
      rw [List.erase_cons_head]
      rfl

/-! ## Runs -/

/-- **Expressions from the input** are treated as arguments behind a double hyphen: whatever the
ends of their lines are and wherever blank lines stand among them, the run prints the same and ends
in the same way. -/
theorem run_input_eq (settings : Settings) (choices : List Choice) {expressions : List String}
    (hne : expressions ≠ [])
    (h : ∀ e ∈ expressions, Text.IsLine e ∧ Text.allBlank e = false) {input : String}
    (hinput : Text.Holds expressions input) (unread : String) :
    run settings (Choice.argumentsOf choices) input
      = run settings (Choice.argumentsOf choices ++ ["--"] ++ expressions) unread := by
  have hlines : Text.filledLines input = expressions :=
    hinput.filledLines_eq fun e he => (h e he).2
  have hfilled : expressions.isEmpty = false := List.isEmpty_eq_false_iff.mpr hne
  obtain ⟨hbare, hbehind⟩ := Invocation.ofArguments_behind choices expressions
  have happend : Choice.argumentsOf choices ++ ["--"] ++ expressions
      = Choice.argumentsOf choices ++ "--" :: expressions := List.append_assoc ..
  rw [happend, run, run, hbehind]
  cases LogLevel.threshold? settings.logLevel with
  | none => rfl
  | some threshold =>
    cases hi : Invocation.ofArguments (Choice.argumentsOf choices) with
    -- an option in front is wrong, or help is asked for
    | error stop => cases stop <;> rfl
    | ok i =>
      show runInvocation settings threshold input i
        = runInvocation settings threshold unread { i with expressions }
      rw [runInvocation, runInvocation, hbare i hi, hlines]
      simp only [hfilled]
      rfl

/-- Three kinds of line ends, the second one that of a line whose blank in front counts. -/
theorem run_input_eq_three_ends :
    (∀ e ∈ [" 7", "1 2 +"], Text.IsLine e ∧ Text.allBlank e = false) ∧
    Text.Holds [" 7", "1 2 +"] "\u2003\r\n 7\r\n1 2 +" ∧
    run ⟨"infix", "?", "WARNING", "127.0.0.1", 8000⟩
        ["--format", "plain_text", "--notation=postfix"] "\u2003\r\n 7\r\n1 2 +"
      = run ⟨"infix", "?", "WARNING", "127.0.0.1", 8000⟩
          ["--format", "plain_text", "--notation=postfix", "--", " 7", "1 2 +"] "" := by
  have hlines : ∀ e ∈ [" 7", "1 2 +"], Text.IsLine e ∧ Text.allBlank e = false := by decide
  have hlast : Text.Holds ["1 2 +"] ("" ++ Text.LineEnd.feed.text ++ "1 2 +") :=
    .blank .feed (by decide) (by decide) (.last (by decide))
  have hinput : Text.Holds [" 7", "1 2 +"] ("\u2003" ++ Text.LineEnd.both.text ++
      (" 7" ++ Text.LineEnd.carriage.text ++ ("" ++ Text.LineEnd.feed.text ++ "1 2 +"))) :=
    .blank .both (by decide) (by decide) (.line .carriage (by decide) hlast)
  exact ⟨hlines, hinput, run_input_eq ⟨"infix", "?", "WARNING", "127.0.0.1", 8000⟩
    [.document .plainText false, .named .reversePolish true] (List.cons_ne_nil _ _) hlines hinput
    ""⟩

end Abacus.CommandLine
