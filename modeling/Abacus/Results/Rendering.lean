import Abacus.Expression.Calculation
import Abacus.Log
import Abacus.Settings

/-!
# Rendered values

For display (specification §12), an expression is rendered as its result, or as a placeholder if
there is something wrong with it. Expressions are rendered independently of each other; only a
number that is too long to be read or written stops a batch.
-/

namespace Abacus

/-- An expression with what is displayed for it: the `CalculatedValue` of the specification. -/
structure RenderedValue where
  source : String
  result : String
  /-- The notation in which the source was read. -/
  form : Notation
  /-- What is wrong with the source. -/
  error : Option String
deriving DecidableEq, Repr

namespace RenderedValue

/-- Whether the result is the value of the source. -/
def ok (v : RenderedValue) : Bool :=
  v.error.isNone

/-- The record of a failure. -/
def record? (v : RenderedValue) : Option LogRecord :=
  v.error.map fun message => { level := .error, logger := "arithmetic.render", message }

end RenderedValue

/-- Renders expressions in one notation: the `CalculatedValueRenderer` of the specification. -/
structure Renderer where
  operators : Operators
  form : Notation
  placeholder : String

/-- The rendered values of a batch, up to the end or to the numeral error that stopped it. -/
structure Rendering where
  values : List RenderedValue
  stopped : Option NumeralError

/-- The records of the failures, in the order of the values. -/
def Rendering.log (r : Rendering) : List LogRecord :=
  r.values.filterMap RenderedValue.record?

namespace Renderer

/-- The renderer for the notation of a name, or else for the default one, with a placeholder that is
given or else that of the settings. -/
def ofSettings (settings : Settings) (operators : Operators) (name placeholder : Option String) :
    Except NotationError Renderer := do
  let form ← match name with
    | some name => Notation.ofName name
    | none => settings.defaultForm
  return { operators, form, placeholder := placeholder.getD settings.placeholder }

/-- Renders an expression. -/
def render (r : Renderer) (source : String) : Except NumeralError RenderedValue :=
  match r.operators.calculate r.form source with
  | .ok result => .ok { source, result, form := r.form, error := none }
  | .error (.expression e) =>
    .ok { source, result := r.placeholder, form := r.form, error := some e.message }
  | .error (.numeral e) => .error e

/-- Renders expressions in order: `view_elements` of the specification. A batch is stopped by a
numeral error only. -/
def renderAll (r : Renderer) : List String → Rendering
  | [] => { values := [], stopped := none }
  | source :: sources =>
    match r.render source with
    | .error e => { values := [], stopped := some e }
    | .ok v =>
      let rest := renderAll r sources
      { rest with values := v :: rest.values }

end Renderer
end Abacus
