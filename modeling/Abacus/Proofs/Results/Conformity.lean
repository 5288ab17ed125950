import Abacus.Proofs.Json.Schema
import Abacus.Results.Document

/-!
# What a JSON document admits

A JSON document is written only if the schema of such documents objects to nothing in its value
(specification §13). The schema is about a value with members and items, an entry about four fields;
what the one says in terms of the other is worked out here from the inside to the outside:

- `EntryField.objects_schema_iff`: the schema of a field admits the values that the field may have.
- `objects_entrySchema_iff`: what the schema of an entry objects to are fields with other values. It
  cannot object to the member that is derived from the error, nor to a missing or an unknown member.
- `objects_resultsSchema_iff`: what the schema of a document objects to are such fields of one of
  the entries, and never the number of failures.

Since the check finds exactly what a schema objects to (`Json.Schema.violations_eq_nil_iff`), a
document is written of entries that conform, and only of those (`Format.document_json_cases`).
Rendered values conform (`Entry.conforms_ofValue`), so their documents are always written.
-/

namespace Abacus

/-! ## Fields and entries -/

/-- The fields of an entry that a caller has a hand in. What else is in an entry, and in the
document around the entries, is of the right kind in whatever way the values come about. -/
inductive EntryField where
  | source
  | result
  | form
  | error
deriving DecidableEq, Repr

namespace EntryField

/-- The name of a field in a document. -/
def name : EntryField → String
  | .source => "source"
  | .result => "result"
  | .form => "notation"
  | .error => "error"

/-- The value of a field. -/
def value : EntryField → Entry → Json
  | .source, e => e.source
  | .result, e => e.result
  | .form, e => e.form
  | .error, e => e.error

/-- Which values a field may have. These are the sentences of §13 in the specification about what an
entry holds; that the schema says the same is `EntryField.objects_schema_iff`. -/
def Allows : EntryField → Json → Prop
  | .source, v => ∃ s, v = .string s
  | .result, v => ∃ s, v = .string s
  | .form, v => v = .string "infix" ∨ v = .string "postfix"
  | .error, v => v = .null ∨ ∃ s, v = .string s

end EntryField

/-- Whether all fields of an entry have values that they may have. -/
def Entry.Conforms (e : Entry) : Prop :=
  ∀ field : EntryField, field.Allows (field.value e)

/-- A place in a document where a field of an entry has a value that it may not have. -/
def WrongField (entries : List Entry) (place : List Json) (value : Json) : Prop :=
  ∃ (i : Nat) (e : Entry) (field : EntryField), entries[i]? = some e ∧ field.value e = value ∧
    ¬field.Allows value ∧ place = [.string "results", .int i, .string field.name]

/-- A rendered value has nothing that a document does not admit. -/
theorem Entry.conforms_ofValue (v : RenderedValue) : (ofValue v).Conforms := by
  intro field
  cases field with
  | source => exact ⟨v.source, rfl⟩
  | result => exact ⟨v.result, rfl⟩
  | form =>
    cases hform : v.form with
    | algebraic => exact .inl (by rw [EntryField.value, ofValue, hform]; rfl)
    | reversePolish => exact .inr (by rw [EntryField.value, ofValue, hform]; rfl)
  | error =>
    cases herror : v.error with
    | none => exact .inl (by rw [EntryField.value, ofValue, herror]; rfl)
    | some message => exact .inr ⟨message, by rw [EntryField.value, ofValue, herror]; rfl⟩

/-! ## The schema

The schema is evaluated on a document by `Json.Schema.violations`, and what that finds is what the
schema objects to (`Json.Schema.exists_of_mem_violations`). So it is enough to tell the objections,
from the schema of a field up to that of the document. -/

/-- The schema of the values of a field. -/
def EntryField.schema : EntryField → Json.Schema
  | .source => { type := some [.string] }
  | .result => { type := some [.string] }
  | .form => { enum := some ["infix", "postfix"] }
  | .error => { type := some [.string, .null] }

/-- **A field and its schema**: the values that the schema of a field objects to are those that the
field may not have. -/
theorem EntryField.objects_schema_iff {field : EntryField} {v : Json} {path : List Json} :
    field.schema.Objects v path ↔ ¬field.Allows v ∧ path = [] := by
  cases field with
  | source => simp [schema, Json.Schema.objects_type_iff, Json.Kind.holds_string_iff, Allows]
  | result => simp [schema, Json.Schema.objects_type_iff, Json.Kind.holds_string_iff, Allows]
  | form => simp [schema, Json.Schema.objects_enum_iff, Allows]
  | error =>
    simp [schema, Json.Schema.objects_type_iff, Json.Kind.holds_string_iff,
      Json.Kind.holds_null_iff, Allows, and_comm]

/-- The member of an entry that has the name of a field holds the value of the field. -/
theorem Entry.get?_toJson (e : Entry) (field : EntryField) :
    e.toJson.get? field.name = some (field.value e) := by
  cases field <;> rfl

/-- **What the schema finds wrong with an entry** are the fields with values that they may not have.
The demands on the names of the members are met by every entry that is written, so of the schema
only the demands on the properties count. -/
theorem objects_entrySchema_iff {e : Entry} {path : List Json} :
    entrySchema.Objects e.toJson path ↔
      ∃ field : EntryField, ¬field.Allows (field.value e) ∧ path = [.string field.name] := by
  rw [entrySchema, Entry.toJson, Json.Schema.objects_properties_iff (by simp) (by simp)]
  constructor
  · rintro ⟨key, t, v, rest, ht, hv, hobjects, rfl⟩
    -- the key tells the field, unless it is the one that follows from another
    have hkey : (∃ field : EntryField, key = field.name ∧ t = field.schema) ∨
        key = "ok" ∧ t = { type := some [.boolean] } := by
      simp only [List.mem_cons, List.not_mem_nil, or_false, Prod.mk.injEq] at ht
      rcases ht with ⟨rfl, rfl⟩ | ⟨rfl, rfl⟩ | ⟨rfl, rfl⟩ | ⟨rfl, rfl⟩ | ⟨rfl, rfl⟩
      · exact .inl ⟨.source, rfl, rfl⟩
      · exact .inl ⟨.result, rfl, rfl⟩
      · exact .inl ⟨.form, rfl, rfl⟩
      · exact .inr ⟨rfl, rfl⟩
      · exact .inl ⟨.error, rfl, rfl⟩
    rcases hkey with ⟨field, rfl, rfl⟩ | ⟨rfl, rfl⟩
    · obtain rfl := Option.some.inj (hv.symm.trans (e.get?_toJson field))
      obtain ⟨hnot, rfl⟩ := EntryField.objects_schema_iff.mp hobjects
      exact ⟨field, hnot, rfl⟩
    · obtain rfl := Option.some.inj hv
      obtain ⟨hnot, -⟩ := Json.Schema.objects_type_iff.mp hobjects
      exact absurd (.boolean e.ok) (hnot .boolean List.mem_cons_self)
  · rintro ⟨field, hnot, rfl⟩
    have hobjects := EntryField.objects_schema_iff.mpr ⟨hnot, rfl⟩
    refine ⟨field.name, field.schema, field.value e, [], ?_, e.get?_toJson field, hobjects, rfl⟩
    cases field <;> simp [EntryField.name, EntryField.schema]

/-- **What the schema finds wrong with a document** are the fields of its entries with values that
they may not have. What it says about the number of failures and about the list is always met. -/
theorem objects_resultsSchema_iff {entries : List Entry} {path : List Json} :
    resultsSchema.Objects (resultsJson entries) path ↔ ∃ value, WrongField entries path value := by
  have hfailed (rest : List Json) :
      ¬Json.Schema.Objects { type := some [.integer], minimum := some 0 }
        (.int (failedCount entries)) rest :=
    Json.Schema.not_objects_minimum (Int.natCast_nonneg _)
  rw [resultsSchema, resultsJson, Json.Schema.objects_properties_iff (by simp) (by simp)]
  constructor
  · rintro ⟨key, t, v, rest, ht, hv, hobjects, rfl⟩
    simp only [List.mem_cons, List.not_mem_nil, or_false, Prod.mk.injEq] at ht
    rcases ht with ⟨rfl, rfl⟩ | ⟨rfl, rfl⟩
    · obtain rfl := Option.some.inj hv
      exact absurd hobjects (hfailed rest)
    · obtain rfl := Option.some.inj hv
      obtain ⟨i, item, rest, hitem, hentry, rfl⟩ := Json.Schema.objects_items_iff.mp hobjects
      rw [List.getElem?_map, Option.map_eq_some_iff] at hitem
      obtain ⟨e, he, rfl⟩ := hitem
      obtain ⟨field, hnot, rfl⟩ := objects_entrySchema_iff.mp hentry
      exact ⟨field.value e, i, e, field, he, rfl, hnot, rfl⟩
  · rintro ⟨value, i, e, field, he, rfl, hnot, rfl⟩
    have hentry := objects_entrySchema_iff.mpr ⟨field, hnot, rfl⟩
    have hitem : (entries.map Entry.toJson)[i]? = some e.toJson := by
      rw [List.getElem?_map, he]
      rfl
    exact ⟨"results", _, _, _, by simp, rfl,
      Json.Schema.objects_items_iff.mpr ⟨i, _, _, hitem, hentry, rfl⟩, rfl⟩

/-! ## What is reported -/

section
variable {entries : List Entry} {v : Violation}

/-- Nothing is reported if all entries conform, and only then. -/
theorem reported?_eq_none_iff : reported? entries = none ↔ ∀ e ∈ entries, e.Conforms := by
  rw [reported?, Violation.foremost?_eq_none_iff, Json.Schema.violations_eq_nil_iff]
  constructor
  · intro h e he field
    by_contra hnot
    obtain ⟨i, hi⟩ := List.mem_iff_getElem?.mp he
    exact h _ (objects_resultsSchema_iff.mpr ⟨_, i, e, field, hi, rfl, hnot, rfl⟩)
  · intro h path hobjects
    obtain ⟨value, i, e, field, hi, rfl, hnot, -⟩ := objects_resultsSchema_iff.mp hobjects
    exact hnot (h e (List.mem_of_getElem? hi) field)

/-- Nothing is reported of rendered values. -/
theorem reported?_ofValue (values : List RenderedValue) :
    reported? (values.map Entry.ofValue) = none := by
  refine reported?_eq_none_iff.mpr fun e he => ?_
  obtain ⟨v, -, rfl⟩ := List.mem_map.mp he
  exact Entry.conforms_ofValue v

/-! ## Documents -/

end

end Abacus
