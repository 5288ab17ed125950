import Abacus.Json.Printer
import Abacus.Json.Schema
import Abacus.Results.Rendering

/-!
# Result documents

A list of results is written as a document for readers or for programs (specification §13). The
plain text has a line for each result. The JSON document lists the results with what is wrong with
each and counts the failures; before it is written, its value is checked against the schema of such
documents (`resultsSchema`), and what violates the schema is reported instead (`reported?`).
-/

namespace Abacus

/-! ## Entries -/

/-- A result as a document takes it: its fields may hold any value. -/
structure Entry where
  source : Json
  result : Json
  form : Json
  error : Json

namespace Entry

/-- The entry of a rendered value. -/
def ofValue (v : RenderedValue) : Entry where
  source := .string v.source
  result := .string v.result
  form := .string v.form.name
  error := .ofString? v.error

/-- Whether nothing is wrong with a result. -/
def ok (e : Entry) : Bool :=
  match e.error with
  | .null => true
  | _ => false

/-- The entry as an object. -/
def toJson (e : Entry) : Json :=
  .object
    [("source", e.source), ("result", e.result), ("notation", e.form), ("ok", .bool e.ok),
     ("error", e.error)]

end Entry

/-! ## The value of a document -/

/-- The number of entries that failed. -/
def failedCount (entries : List Entry) : Nat :=
  entries.countP fun e => !e.ok

/-- The results and the number of failures as one value. -/
def resultsJson (entries : List Entry) : Json :=
  .object [("results", .array (entries.map Entry.toJson)), ("failed", .int (failedCount entries))]

/-! ## The schema -/

/-- The schema of an entry. -/
def entrySchema : Json.Schema where
  type := some [.object]
  required := ["source", "result", "notation", "ok", "error"]
  additionalProperties := false
  properties :=
    [("source", { type := some [.string] }),
     ("result", { type := some [.string] }),
     ("notation", { enum := some ["infix", "postfix"] }),
     ("ok", { type := some [.boolean] }),
     ("error", { type := some [.string, .null] })]

/-- The schema that the value of a document is checked against. -/
def resultsSchema : Json.Schema where
  type := some [.object]
  required := ["results", "failed"]
  additionalProperties := false
  properties :=
    [("failed", { type := some [.integer], minimum := some 0 }),
     ("results", { type := some [.array], items := some entrySchema })]

/-- What is reported of a document: the foremost violation of the schema. -/
def reported? (entries : List Entry) : Option Violation :=
  Violation.foremost? (resultsSchema.violations [] (resultsJson entries))

/-! ## Formats -/

/-- The formats that results can be written in. -/
inductive Format where
  | json
  | plainText
deriving DecidableEq, Repr

/-- A document: how the name of its file ends, its text and its type. -/
structure Document where
  fileEnding : String
  content : String
  mediaType : String
deriving DecidableEq, Repr

namespace Format

/-- All formats, in the order of their keys. -/
def all : List Format := [.json, .plainText]

/-- The key by which a format is asked for. -/
def key : Format → String
  | .json => "json"
  | .plainText => "plain_text"

/-- The keys of all formats. -/
def keys : List String := all.map key

/-- The format of a key. -/
def ofKey? (s : String) : Option Format :=
  all.find? fun format => format.key = s

/-- The name of a format for readers. -/
def name : Format → String
  | .json => "JSON results"
  | .plainText => "Plain text"

/-- How the names of files in a format end. -/
def fileEnding : Format → String
  | .json => "-results.json"
  | .plainText => "-results.txt"

/-- The type of the documents in a format. -/
def mediaType : Format → String
  | .json => "application/json"
  | .plainText => "text/plain"

end Format

/-- The line of an entry in the plain text. -/
def plainLine (e : Entry) : String :=
  e.source.display ++ " = " ++ e.result.display ++ "\n"

/-- The text of a document in a format. -/
def Format.content : Format → List Entry → Except Violation String
  | .json, entries =>
    match reported? entries with
    | some v => .error v
    | none => .ok (resultsJson entries).pretty
  | .plainText, entries => .ok (String.join (entries.map plainLine))

/-- The document of the given entries. -/
def Format.document (format : Format) (entries : List Entry) : Except Violation Document :=
  (format.content entries).map fun content =>
    { fileEnding := format.fileEnding, content, mediaType := format.mediaType }

end Abacus
