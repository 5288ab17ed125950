import Abacus.Json.Schema
import Abacus.Proofs.Binary64.Nearest

/-!
# Schemas

The keywords of schemas have the meaning that draft 7 of JSON Schema gives them. What that is, is
said here by a relation with a case for each keyword: `Schema.Objects s v path` says that the schema
objects to the part of the value at the end of a path. The check of documents (specification §13)
does not look at this relation; it collects violations by recursion on the schema
(`Schema.violations`). The two say the same:

- `Schema.exists_of_mem_violations`: the place of each violation is one that the schema objects to,
  and the value that is reported is the part of the whole that stands there.
- `Schema.exists_mem_violations`: wherever the schema objects, there is a violation.
- `Schema.violations_eq_nil_iff`: so there is none if and only if the schema objects to nothing.
- `Violation.mem_of_foremost?` and `Violation.length_le_of_foremost?`: the violation that is
  reported is one of them, and none lies less deep.

Each keyword is proved right for itself first: what a demand finds wrong with a value (`unmetType`,
`unmetEnum`, `unmetMinimum`, `unmetKeys`) is what the case of the relation says. The two recursive
theorems then need no keyword by its name; they follow a schema into its properties and items
(`Schema.induction`), which is where a path grows.

For the schemas that documents are checked with, the remaining lemmas take the relation apart into
conditions on the value (`Schema.objects_type_iff`, `Schema.objects_properties_iff` and others).
That a name may stand twice among the members of an object makes no difference to them: the keywords
speak of the value that `Json.get?` finds, which is the last.
-/

namespace Abacus.Json

/-! ## What the keywords mean -/

/-- Which values are of a type. A number without a fraction is an integer, however it is written. -/
inductive Kind.Holds : Kind → Json → Prop
  | null : Holds .null .null
  | boolean (value : Bool) : Holds .boolean (.bool value)
  | integer (n : Int) : Holds .integer (.int n)
  | integral (x : Binary64) (n : Int) : x.toInt? = some n → Holds .integer (.float x)
  | string (s : String) : Holds .string (.string s)
  | array (items : List Json) : Holds .array (.array items)
  | object (members : List (String × Json)) : Holds .object (.object members)

/-- Which values are numbers less than a bound. Finite numbers are compared by their exact values;
what is no number is not below any bound. -/
inductive IsBelow (bound : Int) : Json → Prop
  | int (n : Int) : n < bound → IsBelow bound (.int n)
  | float (x : Binary64) (q : ℚ) : x.toRat? = some q → q < bound → IsBelow bound (.float x)
  | infinite : IsBelow bound (.float (.infinite true))

/-- A path leads to a part of a value that a schema does not admit. The first five cases are about
the value itself, the other two about its members and items: a demand on the properties of what is
no object, or on the items of what is no array, is no demand. -/
inductive Schema.Objects : Schema → Json → List Json → Prop
  | type {s : Schema} {v : Json} {kinds : List Kind} : s.type = some kinds →
      (∀ kind ∈ kinds, ¬kind.Holds v) → Objects s v []
  | enum {s : Schema} {v : Json} {texts : List String} : s.enum = some texts →
      (∀ text ∈ texts, v ≠ .string text) → Objects s v []
  | minimum {s : Schema} {v : Json} {bound : Int} : s.minimum = some bound → v.IsBelow bound →
      Objects s v []
  | required {s : Schema} {members : List (String × Json)} {key : String} : key ∈ s.required →
      key ∉ members.map Prod.fst → Objects s (.object members) []
  | additional {s : Schema} {members : List (String × Json)} {key : String} :
      s.additionalProperties = false → key ∈ members.map Prod.fst →
      key ∉ s.properties.map Prod.fst → Objects s (.object members) []
  | property {s t : Schema} {v part : Json} {key : String} {path : List Json} :
      (key, t) ∈ s.properties → v.get? key = some part → Objects t part path →
      Objects s v (.string key :: path)
  | item {s t : Schema} {items : List Json} {i : Nat} {part : Json} {path : List Json} :
      s.items = some t → items[i]? = some part → Objects t part path →
      Objects s (.array items) (.int i :: path)

/-- The part of a value at the end of a path, whose steps are names of members and positions of
items. -/
def part? : List Json → Json → Option Json
  | [], v => some v
  | .string key :: path, v => (v.get? key).bind (part? path)
  | .int (.ofNat i) :: path, .array items => items[i]?.bind (part? path)
  | _, _ => none

/-! ## Types and bounds -/

theorem Kind.holds_string_iff {v : Json} : Kind.string.Holds v ↔ ∃ s, v = .string s := by
  constructor
  · rintro ⟨⟩
    exact ⟨_, rfl⟩
  · rintro ⟨s, rfl⟩
    exact .string s

theorem Kind.holds_null_iff {v : Json} : Kind.null.Holds v ↔ v = .null := by
  constructor
  · rintro ⟨⟩
    rfl
  · rintro rfl
    exact .null

/-- The test of a type decides whether a value is of that type. -/
theorem Kind.admits_iff {kind : Kind} {v : Json} : kind.admits v = true ↔ kind.Holds v := by
  constructor
  · intro h
    -- most pairs of a type and a value are refused by the test and closed at once
    cases kind <;> cases v <;> try cases h
    · exact .null
    · exact .boolean _
    · exact .integer _
    · obtain ⟨n, hn⟩ := Option.isSome_iff_exists.mp h
      exact .integral _ n hn
    · exact .string _
    · exact .array _
    · exact .object _
  · rintro (_ | _ | _ | ⟨x, n, hn⟩ | _ | _ | _)
    case integral => exact Option.isSome_iff_exists.mpr ⟨n, hn⟩
    all_goals rfl

/-- Whether a finite number is below a bound is decided without fractions, in the units that all
finite numbers are multiples of. -/
theorem isBelow_iff {bound : Int} {v : Json} : v.isBelow bound = true ↔ v.IsBelow bound := by
  have hunits : (0 : ℚ) < (Binary64.unitsPerOne : Nat) := by
    exact_mod_cast Binary64.unitsPerOne_pos
  constructor
  · intro h
    cases v with
    | int n => exact .int n (of_decide_eq_true h)
    | float x =>
      cases x with
      | finite negative r =>
        -- the test compares whole numbers of units; division by the unit makes it one of fractions
        have hlt := of_decide_eq_true h
        refine .float _ _ rfl ((div_lt_iff₀ hunits).mpr ?_)
        exact_mod_cast hlt
      | infinite negative =>
        obtain rfl : negative = true := h
        exact .infinite
      | nan => cases h
    | _ => cases h
  · intro h
    cases h with
    | int n hn => exact decide_eq_true hn
    | float x q hq hlt =>
      cases x with
      | finite negative r =>
        obtain rfl := Option.some.inj hq
        have hlt := (div_lt_iff₀ hunits).mp hlt
        exact decide_eq_true (by exact_mod_cast hlt)
      | infinite negative => cases hq
      | nan => cases hq
    | infinite => rfl

/-! ## Violations of a schema

The evaluation is compared with what the keywords mean, keyword by keyword and then along paths.
Nothing in this section depends on which schema it is. -/

namespace Schema

/-- What holds of a schema if it holds of the schemas of its properties and items, holds of all. -/
theorem induction {motive : Schema → Prop}
    (step : ∀ s : Schema, (∀ member ∈ s.properties, motive member.2) →
      (∀ t, s.items = some t → motive t) → motive s) (s : Schema) : motive s :=
  step s (fun member _ => induction step member.2) (fun t _ => induction step t)
termination_by sizeOf s
decreasing_by
  · rename_i hmember
    have hlt := List.sizeOf_lt_of_mem hmember
    obtain ⟨key, t⟩ := member
    cases s
    simp only [Prod.mk.sizeOf_spec, Schema.mk.sizeOf_spec] at hlt ⊢
    omega
  · rename_i hitems
    cases s
    cases hitems
    simp only [Schema.mk.sizeOf_spec, Option.some.sizeOf_spec]
    omega

/-- The violations in a value are those of itself, those in its members and those in its items. -/
theorem violations_eq (s : Schema) (place : List Json) (v : Json) :
    s.violations place v = (s.unmet v).map (fun demand => ⟨v, demand, place⟩)
      ++ memberViolations s.properties place v ++ itemViolations s.items place v := by
  cases s
  rw [violations]

/-- A violation in a member is one of the schema of a property with that name. A property that the
object lacks is not looked into. -/
theorem mem_memberViolations_iff {properties : List (String × Schema)} {place : List Json}
    {v : Json} {w : Violation} : w ∈ memberViolations properties place v ↔
      ∃ key t part, (key, t) ∈ properties ∧ v.get? key = some part ∧
        w ∈ t.violations (place ++ [.string key]) part := by
  induction properties with
  | nil => simp [memberViolations]
  | cons property properties ih =>
    obtain ⟨key, t⟩ := property
    rw [memberViolations, List.mem_append, ih]
    constructor
    -- the first property contributes only if the value has a member of that name
    · rintro (hfirst | ⟨key', t', part, ht, hpart, hw⟩)
      · cases hpart : v.get? key with
        | none =>
          rw [hpart] at hfirst
          cases hfirst
        | some part =>
          rw [hpart] at hfirst
          exact ⟨key, t, part, List.mem_cons_self, hpart, hfirst⟩
      · exact ⟨key', t', part, List.mem_cons_of_mem _ ht, hpart, hw⟩
    · rintro ⟨key', t', part, ht, hpart, hw⟩
      rcases List.mem_cons.mp ht with heq | ht
      · cases heq
        rw [hpart]
        exact .inl hw
      · exact .inr ⟨key', t', part, ht, hpart, hw⟩

/-- A violation in an item is one of the schema for items, at the position of the item. Values that
are not arrays have no items. -/
theorem mem_itemViolations_iff {items : Option Schema} {place : List Json} {v : Json}
    {w : Violation} : w ∈ itemViolations items place v ↔
      ∃ t parts, ∃ i : Nat, ∃ part, items = some t ∧ v = .array parts ∧ parts[i]? = some part ∧
        w ∈ t.violations (place ++ [.int i]) part := by
  constructor
  · intro h
    cases items with
    | none =>
      rw [itemViolations] at h
      · cases h
      · rintro t parts ⟨⟩
    | some t =>
      cases v with
      | array parts =>
        rw [itemViolations, List.mem_flatten] at h
        obtain ⟨found, hfound, hw⟩ := h
        obtain ⟨⟨part, i⟩, hpart, rfl⟩ := List.mem_map.mp hfound
        exact ⟨t, parts, i, part, rfl, rfl, List.mem_zipIdx_iff_getElem?.mp hpart, hw⟩
      | _ => cases h
  · rintro ⟨t, parts, i, part, rfl, rfl, hpart, hw⟩
    rw [itemViolations]
    refine List.mem_flatten.mpr ⟨_, List.mem_map.mpr ⟨(part, i), ?_, rfl⟩, hw⟩
    exact List.mem_zipIdx_iff_getElem?.mpr hpart

variable {s : Schema} {v : Json}

theorem unmetType_ne_nil_iff :
    s.unmetType v ≠ [] ↔ ∃ kinds, s.type = some kinds ∧ ∀ kind ∈ kinds, ¬kind.Holds v := by
  rw [unmetType]
  cases s.type with
  | none => simp
  | some kinds => simp [← Kind.admits_iff]

/-- The demand of one of several texts is unmet by all other values, and so by all that are no
strings. -/
theorem unmetEnum_ne_nil_iff :
    s.unmetEnum v ≠ [] ↔ ∃ texts, s.enum = some texts ∧ ∀ text ∈ texts, v ≠ .string text := by
  -- the texts are compared as strings, so a value of another type is never listed
  have hlisted (texts : List String) :
      (v.string?.map texts.contains).getD false = true ↔ ∃ text ∈ texts, v = .string text := by
    cases v <;> simp [string?]
  rw [unmetEnum]
  cases s.enum with
  | none => simp
  | some texts => simp [hlisted]

/-- The demand of a smallest number is unmet by smaller numbers only; what is no number meets it. -/
theorem unmetMinimum_ne_nil_iff :
    s.unmetMinimum v ≠ [] ↔ ∃ bound, s.minimum = some bound ∧ v.IsBelow bound := by
  rw [unmetMinimum]
  cases s.minimum with
  | none => simp
  | some bound => simp [isBelow_iff]

theorem filter_not_contains_ne_nil_iff {keys known : List String} :
    (keys.filter fun key => !known.contains key) ≠ [] ↔ ∃ key ∈ keys, key ∉ known := by
  rw [ne_eq, List.filter_eq_nil_iff]
  simp

/-- The demands on names are unmet if one is missing, or if there are to be no others and there is
another. -/
theorem unmetKeys_ne_nil_iff {members : List (String × Json)} :
    s.unmetKeys (.object members) ≠ [] ↔
      (∃ key ∈ s.required, key ∉ members.map Prod.fst) ∨ s.additionalProperties = false ∧
        ∃ key ∈ members.map Prod.fst, key ∉ s.properties.map Prod.fst := by
  rw [← filter_not_contains_ne_nil_iff, ← filter_not_contains_ne_nil_iff, unmetKeys, ne_eq,
    List.append_eq_nil_iff, not_and_or, List.map_eq_nil_iff]
  cases s.additionalProperties with
  | false => simp
  | true => simp

/-- A schema objects to a value itself, and not to a part of it, if a demand is unmet. -/
theorem unmet_ne_nil_iff : s.unmet v ≠ [] ↔ s.Objects v [] := by
  rw [unmet, ne_eq, List.append_eq_nil_iff, List.append_eq_nil_iff, List.append_eq_nil_iff,
    not_and_or, not_and_or, not_and_or, ← ne_eq, ← ne_eq, ← ne_eq, ← ne_eq, unmetType_ne_nil_iff,
    unmetEnum_ne_nil_iff, unmetMinimum_ne_nil_iff]
  constructor
  · rintro (((⟨kinds, hkinds, hnot⟩ | ⟨texts, htexts, hnot⟩) | ⟨bound, hbound, hbelow⟩) | hkeys)
    · exact .type hkinds hnot
    · exact .enum htexts hnot
    · exact .minimum hbound hbelow
    · cases v with
      | object members =>
        rcases unmetKeys_ne_nil_iff.mp hkeys with ⟨_, hkey, hmissing⟩ | ⟨hclosed, _, hkey, hother⟩
        · exact .required hkey hmissing
        · exact .additional hclosed hkey hother
      -- nothing is demanded of the names of what has no members
      | _ => exact absurd rfl hkeys
  · intro h
    cases h with
    | type hkinds hnot => exact .inl (.inl (.inl ⟨_, hkinds, hnot⟩))
    | enum htexts hnot => exact .inl (.inl (.inr ⟨_, htexts, hnot⟩))
    | minimum hbound hbelow => exact .inl (.inr ⟨_, hbound, hbelow⟩)
    | required hkey hmissing =>
      exact .inr (unmetKeys_ne_nil_iff.mpr (.inl ⟨_, hkey, hmissing⟩))
    | additional hclosed hkey hother =>
      exact .inr (unmetKeys_ne_nil_iff.mpr (.inr ⟨hclosed, _, hkey, hother⟩))

/-- **Violations are objections.** The place of a violation leads to a part that the schema objects
to, and that part is the value that the violation tells. By induction on the schema, whose
properties and items are schemas for smaller parts. -/
theorem exists_of_mem_violations {place : List Json} {w : Violation}
    (h : w ∈ s.violations place v) :
    ∃ path, w.place = place ++ path ∧ s.Objects v path ∧ part? path v = some w.value := by
  induction s using induction generalizing place v with
  | step s ihproperties ihitems =>
    -- three sources of a violation, in the order of `violations_eq`
    rw [violations_eq, List.mem_append, List.mem_append] at h
    rcases h with (hself | hmember) | hitem
    · obtain ⟨demand, hdemand, rfl⟩ := List.mem_map.mp hself
      have hobjects := unmet_ne_nil_iff.mp (List.ne_nil_of_mem hdemand)
      exact ⟨[], (List.append_nil _).symm, hobjects, rfl⟩
    · obtain ⟨key, t, part, ht, hpart, hw⟩ := mem_memberViolations_iff.mp hmember
      obtain ⟨path, hplace, hobjects, hvalue⟩ := ihproperties _ ht hw
      refine ⟨.string key :: path, ?_, .property ht hpart hobjects, ?_⟩
      · rw [hplace, List.append_assoc, List.singleton_append]
      · rw [part?, hpart, Option.bind_some, hvalue]
    · obtain ⟨t, parts, i, part, ht, rfl, hpart, hw⟩ := mem_itemViolations_iff.mp hitem
      obtain ⟨path, hplace, hobjects, hvalue⟩ := ihitems t ht hw
      refine ⟨.int i :: path, ?_, .item ht hpart hobjects, ?_⟩
      · rw [hplace, List.append_assoc, List.singleton_append]
      · show parts[i]?.bind (part? path) = _
        rw [hpart, Option.bind_some, hvalue]

/-- **Objections are violations.** Wherever a schema objects to a value, there is a violation: the
evaluation finds all demands that are unmet, and not only the first of them. By induction on the
objection. -/
theorem exists_mem_violations {path : List Json} (h : s.Objects v path) (place : List Json) :
    ∃ w ∈ s.violations place v, w.place = place ++ path := by
  have hself {s : Schema} {v : Json} (h : s.Objects v []) (place : List Json) :
      ∃ w ∈ s.violations place v, w.place = place ++ [] := by
    obtain ⟨demand, hdemand⟩ := List.exists_mem_of_ne_nil _ (unmet_ne_nil_iff.mpr h)
    refine ⟨⟨v, demand, place⟩, ?_, (List.append_nil place).symm⟩
    rw [violations_eq]
    exact List.mem_append_left _ (List.mem_append_left _ (List.mem_map_of_mem hdemand))
  -- the objection tells how deep it lies; the place so far is the variable that grows
  induction h generalizing place with
  | type hkinds hnot => exact hself (.type hkinds hnot) place
  | enum htexts hnot => exact hself (.enum htexts hnot) place
  | minimum hbound hbelow => exact hself (.minimum hbound hbelow) place
  | required hkey hmissing => exact hself (.required hkey hmissing) place
  | additional hclosed hkey hother => exact hself (.additional hclosed hkey hother) place
  | @property s t v part key path ht hpart _ ih =>
    obtain ⟨w, hw, hplace⟩ := ih (place ++ [.string key])
    rw [List.append_assoc, List.singleton_append] at hplace
    refine ⟨w, ?_, hplace⟩
    rw [violations_eq]
    exact List.mem_append_left _ (List.mem_append_right _
      (mem_memberViolations_iff.mpr ⟨key, t, part, ht, hpart, hw⟩))
  | @item s t parts i part path ht hpart _ ih =>
    obtain ⟨w, hw, hplace⟩ := ih (place ++ [.int i])
    rw [List.append_assoc, List.singleton_append] at hplace
    refine ⟨w, ?_, hplace⟩
    rw [violations_eq]
    exact List.mem_append_right _
      (mem_itemViolations_iff.mpr ⟨t, parts, i, part, ht, rfl, hpart, hw⟩)

/-- There is no violation of a schema that objects to nothing, and only then. -/
theorem violations_eq_nil_iff {place : List Json} :
    s.violations place v = [] ↔ ∀ path, ¬s.Objects v path := by
  constructor
  · intro h path hobjects
    obtain ⟨w, hw, -⟩ := exists_mem_violations hobjects place
    rw [h] at hw
    cases hw
  · intro h
    refine List.eq_nil_iff_forall_not_mem.mpr fun w hw => ?_
    obtain ⟨path, -, hobjects, -⟩ := exists_of_mem_violations hw
    exact h path hobjects

/-! ## Schemas of simple values -/

variable {path : List Json}

/-- Where only types or strings are asked for, nothing is wrong with a part of a value. -/
theorem objects_simple_iff {kinds : Option (List Kind)} {texts : Option (List String)} :
    Objects { type := kinds, enum := texts } v path ↔
      ((∃ ks, kinds = some ks ∧ ∀ kind ∈ ks, ¬kind.Holds v) ∨
        ∃ ts, texts = some ts ∧ ∀ text ∈ ts, v ≠ .string text) ∧ path = [] := by
  constructor
  · intro h
    cases h with
    | type hkinds hnot => exact ⟨.inl ⟨_, hkinds, hnot⟩, rfl⟩
    | enum htexts hnot => exact ⟨.inr ⟨_, htexts, hnot⟩, rfl⟩
    | minimum hbound => cases hbound
    | required hkey => cases hkey
    | additional hclosed => cases hclosed
    | property ht => cases ht
    | item ht => cases ht
  · rintro ⟨⟨ks, rfl, hnot⟩ | ⟨ts, rfl, hnot⟩, rfl⟩
    · exact .type rfl hnot
    · exact .enum rfl hnot

theorem objects_type_iff {kinds : List Kind} :
    Objects { type := some kinds } v path ↔ (∀ kind ∈ kinds, ¬kind.Holds v) ∧ path = [] := by
  simp [objects_simple_iff]

theorem objects_enum_iff {texts : List String} :
    Objects { enum := some texts } v path ↔ (∀ text ∈ texts, v ≠ .string text) ∧ path = [] := by
  simp [objects_simple_iff]

/-- Nothing is found wrong with an integer that is large enough. -/
theorem not_objects_minimum {bound n : Int} (h : bound ≤ n) :
    ¬Objects { type := some [.integer], minimum := some bound } (.int n) path := by
  intro hobjects
  cases hobjects with
  | type hkinds hnot =>
    cases hkinds
    exact hnot .integer List.mem_cons_self (.integer n)
  | enum htexts => cases htexts
  | minimum hbound hbelow =>
    cases hbound
    cases hbelow with
    | int _ hlt => exact Int.not_lt.mpr h hlt
  | property ht => cases ht

/-! ## Schemas of arrays and objects -/

/-- What is wrong with an array is wrong with one of its items. -/
theorem objects_items_iff {t : Schema} {items : List Json} :
    Objects { type := some [.array], items := some t } (.array items) path ↔
      ∃ i part rest, items[i]? = some part ∧ t.Objects part rest ∧
        path = .int (i : Nat) :: rest := by
  constructor
  · intro h
    cases h with
    | type hkinds hnot =>
      cases hkinds
      exact absurd (.array items) (hnot .array List.mem_cons_self)
    | enum htexts => cases htexts
    | minimum hbound => cases hbound
    | property ht => cases ht
    | item ht hitem hobjects =>
      cases ht
      exact ⟨_, _, _, hitem, hobjects, rfl⟩
  · rintro ⟨i, part, rest, hitem, hobjects, rfl⟩
    exact .item rfl hitem hobjects

/-- What is wrong with an object that has all members and no others is wrong with one of them. -/
theorem objects_properties_iff {keys : List String} {properties : List (String × Schema)}
    {members : List (String × Json)} (hrequired : ∀ key ∈ keys, key ∈ members.map Prod.fst)
    (hknown : ∀ key ∈ members.map Prod.fst, key ∈ properties.map Prod.fst) :
    Objects { type := some [.object], required := keys, properties, additionalProperties := false }
        (.object members) path ↔
      ∃ key t part rest, (key, t) ∈ properties ∧ (Json.object members).get? key = some part ∧
        t.Objects part rest ∧ path = .string key :: rest := by
  constructor
  · intro h
    cases h with
    | type hkinds hnot =>
      cases hkinds
      exact absurd (.object members) (hnot .object List.mem_cons_self)
    | enum htexts => cases htexts
    | minimum hbound => cases hbound
    | required hkey hmissing => exact absurd (hrequired _ hkey) hmissing
    | additional _ hkey hunknown => exact absurd (hknown _ hkey) hunknown
    | property ht hpart hobjects => exact ⟨_, _, _, _, ht, hpart, hobjects, rfl⟩
  · rintro ⟨key, t, part, rest, ht, hpart, hobjects, rfl⟩
    exact .property ht hpart hobjects

end Schema
end Abacus.Json

namespace Abacus.Violation

/-! ## The violation that is reported -/

variable {vs : List Violation} {v w : Violation}

/-- There is always a violation to report if there is one at all. -/
theorem foremost?_eq_none_iff : foremost? vs = none ↔ vs = [] := by
  cases vs with
  | nil => simp [foremost?]
  | cons v vs =>
    rw [foremost?]
    cases foremost? vs with
    | none => simp
    | some w =>
      simp only
      split <;> simp

/-- What is reported of several violations: the first, if none of the others is reported rather than
it, or the one that is reported of the others, if it outranks the first. -/
theorem foremost?_cons_cases (h : foremost? (w :: vs) = some v) :
    (v = w ∧ ∀ u, foremost? vs = some u → u.outranks w = false) ∨
      foremost? vs = some v ∧ v.outranks w = true := by
  rw [foremost?] at h
  cases hrest : foremost? vs with
  | none =>
    rw [hrest] at h
    exact .inl ⟨(Option.some.inj h).symm, fun u hu => nomatch hu⟩
  | some u =>
    simp only [hrest] at h
    by_cases hrank : u.outranks w = true
    · rw [if_pos hrank] at h
      obtain rfl := Option.some.inj h
      exact .inr ⟨rfl, hrank⟩
    · rw [if_neg hrank] at h
      obtain rfl := Option.some.inj h
      refine .inl ⟨rfl, fun x hx => ?_⟩
      obtain rfl := Option.some.inj hx
      exact Bool.eq_false_of_not_eq_true hrank

/-- The rank is by depth first. -/
theorem length_le_of_outranks (h : v.outranks w = true) : v.place.length ≤ w.place.length := by
  simp only [outranks, Bool.or_eq_true, Bool.and_eq_true, decide_eq_true_eq] at h
  omega

theorem length_le_of_not_outranks (h : v.outranks w = false) :
    w.place.length ≤ v.place.length := by
  simp only [outranks, Bool.or_eq_false_iff, decide_eq_false_iff_not] at h
  omega

/-- No violation lies less deep than the one that is reported. -/
theorem length_le_of_foremost? (h : foremost? vs = some v) (hw : w ∈ vs) :
    v.place.length ≤ w.place.length := by
  induction vs generalizing v with
  | nil => cases hw
  | cons u vs ih =>
    rcases foremost?_cons_cases h with ⟨rfl, hnone⟩ | ⟨hrest, hrank⟩
    · rcases List.mem_cons.mp hw with rfl | hw
      · exact Nat.le_refl _
      · -- the best of the others is no deeper than the violation, and does not outrank the first
        obtain ⟨x, hrest⟩ := Option.ne_none_iff_exists'.mp
          (foremost?_eq_none_iff.not.mpr (List.ne_nil_of_mem hw))
        exact (length_le_of_not_outranks (hnone x hrest)).trans (ih hrest hw)
    · rcases List.mem_cons.mp hw with rfl | hw
      · exact length_le_of_outranks hrank
      · exact ih hrest hw

end Abacus.Violation
