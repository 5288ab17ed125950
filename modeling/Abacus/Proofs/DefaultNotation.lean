import Abacus.Proofs.Api.FormChoice
import Abacus.Proofs.CommandLine.FormChoice
import Mathlib.Logic.Function.Basic

/-!
# The default notation

The default notation means the same on all surfaces (`default_notation`). If the environment names
one, calls without a notation are answered like calls in which it is named
(`Settings.HasDefault`). If it names none, such calls fail on every surface and tell what is
configured instead (`Settings.LacksDefault`). Calls in which a notation is named are answered alike
whatever the environment says (`Settings.SameWhereNamed`).

The surfaces get at the setting in three ways: a renderer asks for it when it is made (§12 of the
specification), the command when its arguments have been read (§14), and the service when it answers
a request whose body is accepted (§15). Each surface is a field of the three structures; what is
shown here is that one condition on the name in the environment decides all fields at once.
-/

namespace Abacus

open CommandLine (Invocation NamesNoForm run unknownNotation)
open Api (Accepts ExpressionRequest RenderRequest naming respond misconfigured)

namespace Settings

/-! ## What a default means -/

/-- Calls without a notation are answered like the same calls in this one. Asking for help is left
out, because the help shows what is configured. So are bodies that the service refuses before it
looks for a notation. -/
structure HasDefault (settings : Settings) (form : Notation) : Prop where
  renderer (operators : Operators) (placeholder : Option String) :
    Renderer.ofSettings settings operators none placeholder
      = Renderer.ofSettings settings operators (some form.name) placeholder
  commandLine (arguments : List String) (input : String) (h : NamesNoForm arguments)
      (hhelp : Invocation.ofArguments arguments ≠ .error .help) :
    run settings arguments input = run settings ("--notation" :: form.name :: arguments) input
  service (members : List (String × Json)) (path : String)
      (h : Accepts path (some (.object members)) none) :
    respond settings "POST" path (some (.object members))
      = respond settings "POST" path (some (.object (naming form members)))

/-- Calls without a notation that are valid otherwise fail, and all that they tell is the name that
is configured. The command has no output and ends with the status of wrong usage; the service
replies that it is misconfigured, whatever the expressions are. -/
structure LacksDefault (settings : Settings) (name : String) : Prop where
  renderer (operators : Operators) (placeholder : Option String) :
    Renderer.ofSettings settings operators none placeholder = .error (.misconfigured name)
  commandLine (arguments : List String) (input : String) (h : NamesNoForm arguments)
      (i : Invocation) (hi : Invocation.ofArguments arguments = .ok i) :
    run settings arguments input
      = { out := "", err := unknownNotation name, ending := .exit 2 }
  calculations (body : Option Json) (request : ExpressionRequest)
      (hbody : ExpressionRequest.ofBody body = .ok request) (h : request.form = none) :
    respond settings "POST" "/calculations" body = misconfigured (.misconfigured name)
  parse (body : Option Json) (request : ExpressionRequest)
      (hbody : ExpressionRequest.ofBody body = .ok request) (h : request.form = none) :
    respond settings "POST" "/parse" body = misconfigured (.misconfigured name)
  render (body : Option Json) (request : RenderRequest)
      (hbody : RenderRequest.ofBody body = .ok request) (h : request.form = none)
      (format : Format) (hformat : Format.ofKey? request.format = some format) :
    respond settings "POST" "/render" body = misconfigured (.misconfigured name)

/-- Calls in which a notation is named are answered alike under two settings. The command may also
be asked for no notation, which is a choice of its own. -/
structure SameWhereNamed (settings other : Settings) : Prop where
  renderer (operators : Operators) (name : String) (placeholder : Option String) :
    Renderer.ofSettings settings operators (some name) placeholder
      = Renderer.ofSettings other operators (some name) placeholder
  commandLine (arguments : List String) (input : String)
      (hhelp : Invocation.ofArguments arguments ≠ .error .help)
      (h : ∀ i, Invocation.ofArguments arguments = .ok i → i.form ≠ .configured) :
    run settings arguments input = run other arguments input
  service (body : Option Json) (path : String) (form : Notation)
      (h : Accepts path body (some form)) :
    respond settings "POST" path body = respond other "POST" path body

/-! ## Settings -/

variable {settings other : Settings}

/-- The name of a notation in the settings makes it the default on all surfaces. -/
theorem HasDefault.of_name {form : Notation} (h : settings.defaultName = form.name) :
    settings.HasDefault form := by
  have hname : Notation.ofName? settings.defaultName = some form := by
    rw [h, Notation.ofName?_name]
  have hdefault : settings.defaultForm = .ok form := by
    rw [defaultForm, hname]
  refine ⟨fun operators placeholder => ?_, fun arguments input h hhelp => ?_,
    fun members path h => ?_⟩
  · rw [Renderer.ofSettings, Renderer.ofSettings, Notation.ofName, Notation.ofName?_name, hdefault]
  · exact CommandLine.run_named hname h hhelp input
  · exact Api.respond_named hdefault h

/-- Any other name leaves all surfaces without a default. The command has to know what it logs, or
else that is what it tells. -/
theorem LacksDefault.of_name (hlevel : LogLevel.threshold? settings.logLevel ≠ none)
    (h : ∀ form : Notation, settings.defaultName ≠ form.name) :
    settings.LacksDefault settings.defaultName := by
  have hname : Notation.ofName? settings.defaultName = none := Notation.ofName?_eq_none h
  have hdefault : settings.defaultForm = .error (.misconfigured settings.defaultName) := by
    rw [defaultForm, hname]
  constructor
  · intro operators placeholder
    rw [Renderer.ofSettings, hdefault]
    rfl
  · intro arguments input h i hi
    exact CommandLine.run_of_unknown hname hlevel h hi input
  · intro body request hbody h
    exact Api.calculate_misconfigured hdefault hbody h
  · intro body request hbody h
    exact Api.parse_misconfigured hdefault hbody h
  · intro body request hbody h format hformat
    exact Api.render_misconfigured hdefault hbody h hformat

/-- Settings that differ in the name only are the same to calls that name a notation. -/
theorem SameWhereNamed.of_defaultName (settings : Settings) (name : String) :
    SameWhereNamed { settings with defaultName := name } settings := by
  constructor
  · intro operators name placeholder
    rfl
  · intro arguments input hhelp h
    exact CommandLine.run_defaultName hhelp h name input
  · intro body path form h
    exact Api.respond_defaultName h name

/-! ## Environments -/

/-- The name in the environment is looked up without blanks around it and in small letters. -/
theorem defaultName_of_environment {env : Environment} {name : String}
    (h : ofEnvironment (Function.update env "ARITHMETIC_NOTATION" (some name)) = .ok settings) :
    settings.defaultName = Text.lower (Text.strip name) := by
  -- only the port can be refused, and it is looked at first
  obtain ⟨port, -, hsettings⟩ := Outcome.bind_eq_ok h
  obtain rfl := Except.ok.inj hsettings
  show Text.lower (Text.strip ((Function.update env _ (some name) _).getD "infix")) = _
  rw [Function.update_self]
  rfl

/-- Nothing else depends on the name in the environment. -/
theorem eq_of_environment {env : Environment} {name another : String}
    (h : ofEnvironment (Function.update env "ARITHMETIC_NOTATION" (some name)) = .ok settings)
    (hother : ofEnvironment (Function.update env "ARITHMETIC_NOTATION" (some another))
      = .ok other) :
    settings = { other with defaultName := settings.defaultName } := by
  have hkept (name key : String) (hkey : key ≠ "ARITHMETIC_NOTATION") :
      Function.update env "ARITHMETIC_NOTATION" (some name) key = env key :=
    Function.update_of_ne hkey _ _
  obtain ⟨port, hport, hsettings⟩ := Outcome.bind_eq_ok h
  obtain ⟨port', hport', hsettings'⟩ := Outcome.bind_eq_ok hother
  rw [hkept name "ARITHMETIC_API_PORT" (by decide)] at hport
  rw [hkept another "ARITHMETIC_API_PORT" (by decide)] at hport'
  obtain rfl := Except.ok.inj (hport.symm.trans hport')
  obtain rfl := Except.ok.inj hsettings
  obtain rfl := Except.ok.inj hsettings'
  simp only [hkept _ _ (show "ARITHMETIC_PLACEHOLDER" ≠ "ARITHMETIC_NOTATION" by decide),
    hkept _ _ (show "ARITHMETIC_LOG_LEVEL" ≠ "ARITHMETIC_NOTATION" by decide),
    hkept _ _ (show "ARITHMETIC_API_HOST" ≠ "ARITHMETIC_NOTATION" by decide)]

end Settings

/-- **The default notation** means the same on all surfaces, whatever name the environment gives
(specification §10). A name of a notation is what calls without one mean; any other name fails them,
on the service and on the command line, with a text that tells the name; and calls that name a
notation never look at it. -/
theorem default_notation {env : Settings.Environment} {name : String} {settings : Settings}
    (h : Settings.ofEnvironment (Function.update env "ARITHMETIC_NOTATION" (some name))
      = .ok settings)
    (hlevel : LogLevel.threshold? settings.logLevel ≠ none) :
    (∀ form : Notation, Text.lower (Text.strip name) = form.name → settings.HasDefault form) ∧
    ((∀ form : Notation, Text.lower (Text.strip name) ≠ form.name) →
      settings.LacksDefault (Text.lower (Text.strip name))) ∧
    ∀ (another : String) (other : Settings),
      Settings.ofEnvironment (Function.update env "ARITHMETIC_NOTATION" (some another))
        = .ok other →
      settings.SameWhereNamed other := by
  have hname := Settings.defaultName_of_environment h
  rw [← hname]
  refine ⟨fun form hform => .of_name hform, fun hnone => .of_name hlevel hnone, ?_⟩
  intro another other hother
  rw [Settings.eq_of_environment h hother]
  exact .of_defaultName other settings.defaultName

/-- A name that is spelled with blanks and a capital letter, and one that no notation has. The last
of two members that name a notation is the one that counts. -/
theorem default_notation_spelled :
    Settings.HasDefault ⟨"postfix", "Malformed expression.", "WARNING", "127.0.0.1", 8000⟩
      .reversePolish ∧
    run ⟨"postfix", "Malformed expression.", "WARNING", "127.0.0.1", 8000⟩ ["4 1 -"] ""
      = run ⟨"postfix", "Malformed expression.", "WARNING", "127.0.0.1", 8000⟩
          ["--notation", "postfix", "4 1 -"] "" ∧
    respond ⟨"postfix", "Malformed expression.", "WARNING", "127.0.0.1", 8000⟩ "POST" "/parse"
        (some (.object [("notation", .string "infix"), ("expression", .string "4 1 -"),
          ("notation", .null)]))
      = respond ⟨"postfix", "Malformed expression.", "WARNING", "127.0.0.1", 8000⟩ "POST" "/parse"
          (some (.object [("expression", .string "4 1 -"), ("notation", .string "postfix")])) ∧
    Settings.LacksDefault ⟨"prefix", "Malformed expression.", "WARNING", "127.0.0.1", 8000⟩
      "prefix" := by
  have hpostfix : Settings.ofEnvironment
        (Function.update (fun _ => none) "ARITHMETIC_NOTATION" (some " PostFix\n"))
      = .ok ⟨"postfix", "Malformed expression.", "WARNING", "127.0.0.1", 8000⟩ := rfl
  have hprefix : Settings.ofEnvironment
        (Function.update (fun _ => none) "ARITHMETIC_NOTATION" (some "prefix"))
      = .ok ⟨"prefix", "Malformed expression.", "WARNING", "127.0.0.1", 8000⟩ := rfl
  have hlevel : LogLevel.threshold? "WARNING" ≠ none := by decide
  obtain ⟨hnamed, -⟩ := default_notation hpostfix hlevel
  obtain ⟨-, hunnamed, -⟩ := default_notation hprefix hlevel
  have hdefault := hnamed .reversePolish (by decide)
  refine ⟨hdefault, hdefault.commandLine ["4 1 -"] "" ?_ ?_,
    hdefault.service _ "/parse" (.parse rfl rfl), ?_⟩
  · intro read hread value hmem
    obtain rfl : [.plain "4 1 -"] = read := Except.ok.inj hread
    cases List.mem_singleton.mp hmem
  · have hread : Invocation.ofArguments ["4 1 -"] = .ok ⟨.configured, none, ["4 1 -"]⟩ := rfl
    rw [hread]
    intro h
    cases h
  · have hspelled : Text.lower (Text.strip "prefix") = "prefix" := by decide
    rw [hspelled] at hunnamed
    refine hunnamed fun form => ?_
    cases form
    · decide
    · decide

end Abacus
