import Abacus.Api.Request
import Abacus.Results.Document

/-!
# The web service

The service answers requests over HTTP (specification §15): it calculates and parses single
expressions, renders batches as documents, lists the formats, and tells that it is well. Something
wrong with an expression is answered by 422 with the message; a wrong default notation by 500, if
the request needs the default; an unknown format by 400, before the default is needed.

- `calculate`, `parse`, `render`: the endpoints that are about expressions.
- `formats`, `health`: the endpoints that take no body.
- `respond`: the reply to a request.

What the web framework answers by itself is left out: the pages at `/docs` and `/redoc`, the
description at `/openapi.json`, the redirect from a path with a slash at its end to the one without,
and the part of a refusal that shows the refused input (`Issue.toJson`).
-/

namespace Abacus.Api

/-! ## Replies -/

/-- What stops the service in the middle of a request. -/
inductive Breakdown where
  | numeral (e : NumeralError)
  | violation (v : Violation)

/-- The body of a reply. -/
inductive Content where
  | json (value : Json)
  | text (content : String)

/-- A reply to a request, with what is logged meanwhile. -/
structure Reply where
  status : Nat
  contentType : String
  content : Content
  log : List LogRecord
  /-- What stopped the service, if something did. -/
  breakdown : Option Breakdown

namespace Reply

/-- A reply with a JSON body. -/
def json (status : Nat) (value : Json) (log : List LogRecord) : Reply :=
  { status, contentType := "application/json", content := .json value, log, breakdown := none }

/-- A reply that tells what is wrong. -/
def detail (status : Nat) (message : String) (log : List LogRecord) : Reply :=
  json status (.object [("detail", .string message)]) log

/-- The reply to a body with issues, as far as they tell what is wrong and where. -/
def invalid (found : List Issue) : Reply :=
  json 422 (.object [("detail", .array (found.map Issue.toJson))]) []

/-- The content type of a text with a given media type. -/
def textType (mediaType : String) : String :=
  if mediaType.toList.take 5 = ['t', 'e', 'x', 't', '/'] then mediaType ++ "; charset=utf-8"
  else mediaType

/-- A reply with the text of a document. -/
def document (d : Document) (log : List LogRecord) : Reply :=
  { status := 200, contentType := textType d.mediaType, content := .text d.content, log,
    breakdown := none }

/-- The reply when something stops the service. -/
def broken (b : Breakdown) (log : List LogRecord) : Reply :=
  { status := 500, contentType := textType "text/plain", content := .text "Internal Server Error",
    log, breakdown := some b }

end Reply

/-! ## Records -/

/-- The name under which the service logs. -/
def logger : String := "arithmetic.server.app"

/-- The record of an expression that something is wrong with. -/
def rejection (e : ExpressionError) : LogRecord :=
  { level := .info, logger, message := "Rejected expression: " ++ e.message }

/-- The record of a wrong default notation. -/
def misconfiguration (e : NotationError) : LogRecord :=
  { level := .error, logger, message := "Invalid server configuration: " ++ e.message }

/-! ## Endpoints -/

/-- The operators of the service. -/
def operators : Operators := .basic

/-- Answers in the notation of a request, or in the default one if it has none. -/
def withForm (settings : Settings) (form : Option Notation) (answer : Notation → Reply) : Reply :=
  match form with
  | some form => answer form
  | none => match settings.defaultForm with
    | .ok form => answer form
    | .error e => .detail 500 ("Server misconfigured: " ++ e.message) [misconfiguration e]

/-- The reply to an expression that something is wrong with. -/
def rejected (e : ExpressionError) : Reply :=
  .detail 422 e.message [rejection e]

/-- Answers with the value of an expression. -/
def calculate (settings : Settings) (body : Option Json) : Reply :=
  match ExpressionRequest.ofBody body with
  | .error found => .invalid found
  | .ok request => withForm settings request.form fun form =>
    match operators.calculate form request.expression with
    | .ok result => .json 200 (.object
        [("expression", .string request.expression), ("notation", .string form.name),
         ("result", .string result)]) []
    | .error (.expression e) => rejected e
    | .error (.numeral e) => .broken (.numeral e) []

/-- Answers with the texts of the plan of an expression. -/
def parse (settings : Settings) (body : Option Json) : Reply :=
  match ExpressionRequest.ofBody body with
  | .error found => .invalid found
  | .ok request => withForm settings request.form fun form =>
    match operators.parse form request.expression with
    | .ok plan => .json 200 (.object
        [("expression", .string request.expression), ("notation", .string form.name),
         ("tokens", .ofStrings plan.texts)]) []
    | .error e => rejected e

/-- Answers with the document of rendered values. -/
def renderDocument (format : Format) (rendering : Rendering) : Reply :=
  match rendering.stopped with
  | some e => .broken (.numeral e) rendering.log
  | none => match format.document (rendering.values.map Entry.ofValue) with
    | .ok d => .document d rendering.log
    | .error v => .broken (.violation v) rendering.log

/-- The message about a key that no format has. -/
def unknownFormatMessage (key : String) : String :=
  "Unknown output format '" ++ key ++ "'. Available: " ++ ", ".intercalate Format.keys

/-- Renders expressions as a document. The format is looked up before the default notation. -/
def render (settings : Settings) (body : Option Json) : Reply :=
  match RenderRequest.ofBody body with
  | .error found => .invalid found
  | .ok request => match Format.ofKey? request.format with
    | none => .detail 400 (unknownFormatMessage request.format) []
    | some format => withForm settings request.form fun form =>
      let renderer : Renderer := { operators, form, placeholder := settings.placeholder }
      renderDocument format (renderer.renderAll request.values)

/-- Lists the formats. -/
def formats : Reply :=
  .json 200 (.array (Format.all.map fun format => .object
    [("key", .string format.key), ("name", .string format.name),
     ("media_type", .string format.mediaType)])) []

/-- The version of the service. -/
def version : String := "0.1.0"

/-- Tells that the service is well. -/
def health : Reply :=
  .json 200 (.object [("status", .string "ok"), ("version", .string version)]) []

/-! ## Routes -/

/-- The endpoints of the service. -/
inductive Endpoint where
  | calculations
  | parse
  | render
  | formats
  | health
deriving DecidableEq, Repr

namespace Endpoint

/-- All endpoints. -/
def all : List Endpoint := [.calculations, .parse, .render, .formats, .health]

/-- The path of an endpoint. -/
def path : Endpoint → String
  | .calculations => "/calculations"
  | .parse => "/parse"
  | .render => "/render"
  | .formats => "/formats"
  | .health => "/health"

/-- The one method that an endpoint answers to. -/
def method : Endpoint → String
  | .calculations => "POST"
  | .parse => "POST"
  | .render => "POST"
  | .formats => "GET"
  | .health => "GET"

/-- The endpoint at a path. The path is compared as it stands, but a line feed may follow it. No
endpoint is found at the paths where the web framework answers by itself. -/
def ofPath? (path : String) : Option Endpoint :=
  all.find? fun endpoint => endpoint.path = path || endpoint.path ++ "\n" = path

/-- The reply of an endpoint. -/
def reply (settings : Settings) (body : Option Json) : Endpoint → Reply
  | .calculations => Api.calculate settings body
  | .parse => Api.parse settings body
  | .render => Api.render settings body
  | .formats => Api.formats
  | .health => Api.health

end Endpoint

/-- The reply to a request. At the paths that the web framework answers by itself, the service gives
another reply than this one. -/
def respond (settings : Settings) (method path : String) (body : Option Json) : Reply :=
  match Endpoint.ofPath? path with
  | none => .detail 404 "Not Found" []
  | some endpoint =>
    if endpoint.method = method then endpoint.reply settings body
    else .detail 405 "Method Not Allowed" []

end Abacus.Api
