import Abacus.Proofs.Json.RoundTrip
import Abacus.Proofs.Results.Conformity
import Mathlib.Data.List.Forall2

/-!
# Reading result documents

What a program that is given the JSON document of some results finds in it (specification §13): a
report, read off the text of the document member by member (`Report.ofText?`). A document of
rendered values can always be written (`content_json`), and its report has an entry for each value
and counts those that failed (`exists_content_json`). Whatever a program reads JSON with, the text
holds a single value, which has nothing in it but the entries and their count
(`Format.document_json`).

A report has everything of a rendered value (`Reported.ofValue`), and members are found by their
names. So two batches with the same report have the same values, which cannot be said of plain
texts.
-/

namespace Abacus

/-- A result as a document reports it. It is told apart from a rendered value because the document
names the notation by a text and says for itself whether the result is ok. -/
structure Reported where
  source : String
  result : String
  /-- The name of the notation in which the source was read. -/
  form : String
  ok : Bool
  error : Option String
deriving DecidableEq, Repr

namespace Reported

/-- Reads an entry of a document. -/
def ofJson? (v : Json) : Option Reported :=
  match v.get? "source", v.get? "result", v.get? "notation", v.get? "ok", v.get? "error" with
  | some (.string source), some (.string result), some (.string form), some (.bool ok),
      some (.string message) => some { source, result, form, ok, error := some message }
  | some (.string source), some (.string result), some (.string form), some (.bool ok),
      some .null => some { source, result, form, ok, error := none }
  | _, _, _, _, _ => none

/-- The report of a rendered value. -/
def ofValue (v : RenderedValue) : Reported where
  source := v.source
  result := v.result
  form := v.form.name
  ok := v.ok
  error := v.error

end Reported

/-- What a document reports: the results in order, and how many of them failed. -/
structure Report where
  results : List Reported
  failed : Int
deriving DecidableEq, Repr

namespace Report

/-- Reads a document from its value. -/
def ofJson? (v : Json) : Option Report :=
  match v.get? "results", v.get? "failed" with
  | some (.array items), some (.int failed) =>
    (items.mapM Reported.ofJson?).map fun results => { results, failed }
  | _, _ => none

/-- Reads a document from its text. -/
def ofText? (s : String) : Option Report :=
  (Json.parse? s).bind ofJson?

/-- The report of rendered values. -/
def ofValues (values : List RenderedValue) : Report where
  results := values.map Reported.ofValue
  failed := values.countP fun v => !v.ok

end Report

/-! ## Entries of rendered values -/

theorem Entry.ok_ofValue (v : RenderedValue) : (Entry.ofValue v).ok = v.ok := by
  obtain ⟨source, result, form, error⟩ := v
  cases error <;> rfl

theorem Reported.ofJson?_toJson (v : RenderedValue) :
    Reported.ofJson? (Entry.ofValue v).toJson = some (Reported.ofValue v) := by
  obtain ⟨source, result, form, error⟩ := v
  cases error <;> rfl

theorem Entry.isWhole_toJson (v : RenderedValue) : (Entry.ofValue v).toJson.IsWhole := by
  obtain ⟨source, result, form, error⟩ := v
  cases error <;> exact ⟨trivial, trivial, trivial, trivial, trivial, trivial⟩

/-! ## Documents of rendered values -/

variable (values : List RenderedValue)

theorem isWhole_resultsJson : (resultsJson (values.map Entry.ofValue)).IsWhole := by
  have hitems : Json.ItemsWhole ((values.map Entry.ofValue).map Entry.toJson) := by
    induction values with
    | nil => exact trivial
    | cons v values ih => exact ⟨Entry.isWhole_toJson v, ih⟩
  exact ⟨hitems, trivial, trivial⟩

/-- The value of a document is read as the report of the values that it was made for. -/
theorem Report.ofJson?_resultsJson :
    Report.ofJson? (resultsJson (values.map Entry.ofValue)) = some (Report.ofValues values) := by
  have hresults : ((values.map Entry.ofValue).map Entry.toJson).mapM Reported.ofJson?
      = some (values.map Reported.ofValue) := by
    induction values with
    | nil => rfl
    | cons v values ih =>
      simp only [List.map_cons, List.mapM_cons, Reported.ofJson?_toJson, ih]
      rfl
  have hfailed : failedCount (values.map Entry.ofValue) = values.countP fun v => !v.ok := by
    rw [failedCount, List.countP_map]
    exact List.countP_congr fun v _ => by simp [Entry.ok_ofValue]
  show (((values.map Entry.ofValue).map Entry.toJson).mapM Reported.ofJson?).map _ = _
  rw [hresults, hfailed]
  rfl

/-- Nothing is objected to rendered values. -/
theorem content_json : Format.json.content (values.map Entry.ofValue)
    = .ok (resultsJson (values.map Entry.ofValue)).pretty := by
  rw [Format.content, reported?_ofValue]

/-- **The JSON document** of rendered values can be written and is read as their report, whatever
blanks follow it. -/
theorem exists_content_json : ∃ text, Format.json.content (values.map Entry.ofValue) = .ok text ∧
    ∀ blanks : String, (∀ c ∈ blanks.toList, Json.isSpace c = true) →
      Report.ofText? (text ++ blanks) = some (Report.ofValues values) := by
  refine ⟨(resultsJson (values.map Entry.ofValue)).pretty, content_json values,
    fun blanks hblanks => ?_⟩
  rw [Report.ofText?, Json.parse?_pretty (isWhole_resultsJson values) hblanks]
  exact Report.ofJson?_resultsJson values

/-- The plain text of rendered values has a line for each. -/
theorem content_plainText : Format.plainText.content (values.map Entry.ofValue)
    = .ok (String.join (values.map fun v => v.source ++ " = " ++ v.result ++ "\n")) := by
  rw [Format.content, List.map_map]
  rfl

/-! ## The value that a document holds -/

/-- Whether an object lists a rendered value: it has the value's own strings, `null` stands for an
error that there is not, and the object says that the result is ok if `null` stands there. There are
no members but these five. -/
def Json.Lists (item : Json) (v : RenderedValue) : Prop :=
  ∃ ok error, item = .object
      [("source", .string v.source), ("result", .string v.result),
       ("notation", .string v.form.name), ("ok", .bool ok), ("error", error)] ∧
    error = .ofString? v.error ∧ (ok = true ↔ error = .null)

/-- Whether an object says that a result is not ok. -/
def Json.isFailure (item : Json) : Bool :=
  match item.get? "ok" with
  | some (.bool ok) => !ok
  | _ => false

theorem Entry.lists_toJson (v : RenderedValue) : (Entry.ofValue v).toJson.Lists v := by
  refine ⟨v.ok, .ofString? v.error, ?_, rfl, ?_⟩
  · rw [← Entry.ok_ofValue]
    rfl
  · rw [RenderedValue.ok]
    cases v.error <;> simp [Json.ofString?]

theorem failedCount_eq (entries : List Entry) :
    failedCount entries = (entries.map Entry.toJson).countP Json.isFailure := by
  rw [failedCount, List.countP_map]
  rfl

/-- **The JSON document** of rendered values is a text of a single value: an object that lists them
in order and counts the failures among what it lists. -/
theorem Format.document_json : ∃ document decoded results,
    Format.json.document (values.map Entry.ofValue) = .ok document ∧
    (∀ w, Json.IsText document.content w ↔ w = decoded) ∧
    Json.parse? document.content = some decoded ∧
    decoded = .object
      [("results", .array results), ("failed", .int (results.countP Json.isFailure))] ∧
    List.Forall₂ Json.Lists results values := by
  have hwhole := isWhole_resultsJson values
  refine ⟨⟨Format.json.fileEnding, (resultsJson (values.map Entry.ofValue)).pretty,
      Format.json.mediaType⟩, resultsJson (values.map Entry.ofValue),
    (values.map Entry.ofValue).map Entry.toJson, ?_, fun w => ?_, ?_, ?_, ?_⟩
  · rw [Format.document, content_json]
    rfl
  · exact Json.isText_pretty_iff hwhole
  · exact Json.parse?_of_isText ((Json.isText_pretty_iff hwhole).mpr rfl)
  · rw [resultsJson, failedCount_eq]
  · rw [List.map_map, List.forall₂_map_left_iff, List.forall₂_same]
    exact fun v _ => Entry.lists_toJson v

end Abacus
