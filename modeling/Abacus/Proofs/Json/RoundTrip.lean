import Abacus.Json.Printer
import Abacus.Proofs.Json.Grammar
import Mathlib.Tactic.IntervalCases

/-!
# Reading JSON that was written

What is written for a value, on one line or indented, is a text of that value, provided that all its
numbers are whole (`Json.isValue_chars`). So it is read as that value again, and it does not hold
any other (`Json.isText_pretty_iff`). The values that documents are made of have no other numbers
(specification §13: they count failures and nothing else).

Strings are the part with cases: of the characters that have to be escaped, seven have an escape of
their own and the other controls are written by their codes (`isCharacter_escapedChar`). Everything
outside ASCII is written as it is.
-/

namespace Abacus.Json

/-! ## Strings and numbers -/

theorem exists_hexDigits_control {n : Nat} (h : n < 0x20) :
    ∃ a b c d, Text.hexDigits 4 n = [a, b, c, d] ∧ hexValue4? a b c d = some n := by
  interval_cases n <;> exact ⟨_, _, _, _, rfl, rfl⟩

/-- What is written for a character stands for it. -/
theorem isCharacter_escapedChar (c : Char) : IsCharacter (escapedChar c) c := by
  -- one case for each character with an escape of its own, then the controls, then all others
  unfold escapedChar
  split
  · next h => subst h; exact .escape rfl
  split
  · next h => subst h; exact .escape rfl
  split
  · next h => exact h ▸ .escape rfl
  split
  · next h => exact h ▸ .escape rfl
  split
  · next h => exact h ▸ .escape rfl
  split
  · next h => exact h ▸ .escape rfl
  split
  · next h => exact h ▸ .escape rfl
  split
  · next h =>
    obtain ⟨a, b, c, d, hdigits, hvalue⟩ := exists_hexDigits_control h
    rw [hdigits]
    exact .unit hvalue
  · next hquote hescape _ _ _ _ _ hcontrol => exact .plain hquote hescape hcontrol

theorem isString_stringChars (s : String) : IsString (stringChars s) s := by
  refine ⟨s.toList.map escapedChar, ?_, ?_⟩
  · induction s.toList with
    | nil => exact .nil
    | cons c cs ih => exact .cons (isCharacter_escapedChar c) ih
  · rw [stringChars, List.flatMap_def]

/-- An integer is written without leading zeros. -/
theorem isValue_integerChars (n : Int) : IsValue (Number.integerChars n) (.int n) := by
  have hvalue : Binary64.signed (decide (n < 0)) (Digits.ofNat n.natAbs).value = n := by
    rw [Digits.value_ofNat, Number.signed_natAbs]
  have h := IsValue.int (decide (n < 0)) (Digits.ofNat n.natAbs)
    fun _ => Digits.eq_nil_of_chars_ofNat
  rwa [hvalue] at h

/-- Between items there are blanks only. -/
theorem isBlank_break (indent : Option Nat) (depth : Nat) : IsBlank (breakChars indent depth) := by
  intro c hc
  cases indent with
  | none => cases hc
  | some width =>
    rcases List.mem_cons.mp hc with rfl | hc
    · rfl
    · rw [List.eq_of_mem_replicate hc]
      rfl

theorem isBlank_nil : IsBlank [] :=
  fun _ hc => nomatch hc

/-! ## Values -/

mutual

/-- Whether all numbers in a value are whole, so that they are written as integers. -/
def IsWhole : Json → Prop
  | .null => True
  | .bool _ => True
  | .int _ => True
  | .float _ => False
  | .string _ => True
  | .array items => ItemsWhole items
  | .object members => MembersWhole members

/-- Whether all numbers in the items of an array are whole. -/
def ItemsWhole : List Json → Prop
  | [] => True
  | item :: items => IsWhole item ∧ ItemsWhole items

/-- Whether all numbers in the members of an object are whole. -/
def MembersWhole : List (String × Json) → Prop
  | [] => True
  | (_, value) :: members => IsWhole value ∧ MembersWhole members

end

-- by induction on the value, where the text of an array or object is that of its first item or
-- member and what is written for the others and the end
mutual

/-- **What is written for a value** is a text of it, with any indentation and at any depth. -/
theorem isValue_chars (indent : Option Nat) (depth : Nat) :
    (v : Json) → v.IsWhole → IsValue (chars indent depth v) v
  | .null, _ => .null
  | .bool true, _ => .true
  | .bool false, _ => .false
  | .int n, _ => isValue_integerChars n
  | .string s, _ => .string (isString_stringChars s)
  | .array [], _ => .emptyArray isBlank_nil
  | .array (item :: items), h => by
    obtain ⟨body, hbody, hitems⟩ :=
      exists_isItems indent depth items h.2 (isValue_chars indent (depth + 1) item h.1)
    rw [chars, hbody]
    exact .array hitems
  | .object [], _ => .emptyObject isBlank_nil
  | .object ((key, value) :: members), h => by
    obtain ⟨body, hbody, hmembers⟩ :=
      exists_isMembers indent depth members h.2 key (isValue_chars indent (depth + 1) value h.1)
    rw [chars, hbody]
    exact .object hmembers

/-- What is written for an item, the items behind it and the bracket are items and the bracket. -/
theorem exists_isItems (indent : Option Nat) (depth : Nat) :
    (items : List Json) → ItemsWhole items → ∀ {cs : List Char} {item : Json}, IsValue cs item →
      ∃ body, breakChars indent (depth + 1) ++ cs ++ itemsChars indent depth items = body ++ [']'] ∧
        IsItems body (item :: items)
  | [], _, cs, _, h => by
    refine ⟨breakChars indent (depth + 1) ++ (cs ++ breakChars indent depth), ?_,
      .one ⟨isBlank_break indent (depth + 1), h, isBlank_break indent depth⟩⟩
    simp [itemsChars]
  | next :: items, hwhole, cs, _, h => by
    obtain ⟨body, hbody, hitems⟩ :=
      exists_isItems indent depth items hwhole.2 (isValue_chars indent (depth + 1) next hwhole.1)
    refine ⟨breakChars indent (depth + 1) ++ (cs ++ []) ++ ',' :: body, ?_,
      .more ⟨isBlank_break indent (depth + 1), h, isBlank_nil⟩ hitems⟩
    rw [itemsChars, hbody]
    simp

/-- What is written for a member, the members behind it and the brace are members and the brace. -/
theorem exists_isMembers (indent : Option Nat) (depth : Nat) :
    (members : List (String × Json)) → MembersWhole members → ∀ (key : String) {cs : List Char}
      {value : Json}, IsValue cs value →
      ∃ body, breakChars indent (depth + 1) ++ stringChars key ++ ':' :: ' ' ::
          (cs ++ membersChars indent depth members) = body ++ ['}'] ∧
        IsMembers body ((key, value) :: members)
  | [], _, key, cs, _, h => by
    refine ⟨breakChars indent (depth + 1) ++ (stringChars key ++ ([] ++ ':' :: ([' '] ++ (cs ++
      breakChars indent depth)))), ?_, .one ⟨isBlank_break indent (depth + 1),
        isString_stringChars key, isBlank_nil, ⟨?_, h, isBlank_break indent depth⟩⟩⟩
    · simp [membersChars]
    · simp [IsBlank, isSpace]
  | (next, v) :: members, hwhole, key, cs, _, h => by
    obtain ⟨body, hbody, hmembers⟩ := exists_isMembers indent depth members hwhole.2 next
      (isValue_chars indent (depth + 1) v hwhole.1)
    refine ⟨breakChars indent (depth + 1) ++ (stringChars key ++ ([] ++ ':' :: ([' '] ++ (cs ++
      [])))) ++ ',' :: body, ?_, .more ⟨isBlank_break indent (depth + 1),
        isString_stringChars key, isBlank_nil, ⟨?_, h, isBlank_nil⟩⟩ hmembers⟩
    · rw [membersChars, hbody]
      simp
    · simp [IsBlank, isSpace]

end

/-- What is written with indentation is a text of the value, also with blanks behind it. -/
theorem isText_pretty {v : Json} (h : v.IsWhole) {blanks : String}
    (hblanks : IsBlank blanks.toList) : IsText (v.pretty ++ blanks) v := by
  have htext : (v.pretty ++ blanks).toList = [] ++ (chars (some 2) 0 v ++ blanks.toList) := by
    rw [String.toList_append, pretty, String.toList_ofList]
    rfl
  rw [IsText, htext]
  exact ⟨isBlank_nil, isValue_chars (some 2) 0 v h, hblanks⟩

/-- A text that is written for a value holds no other. -/
theorem isText_pretty_iff {v w : Json} (h : v.IsWhole) : IsText v.pretty w ↔ w = v := by
  have htext : IsText (v.pretty ++ "") v := isText_pretty h isBlank_nil
  rw [String.append_empty] at htext
  exact ⟨fun hw => hw.eq htext, fun hw => hw ▸ htext⟩

/-- **A value that is written** is what is read, whatever blanks follow it. -/
theorem parse?_pretty {v : Json} (h : v.IsWhole) {blanks : String}
    (hblanks : ∀ c ∈ blanks.toList, isSpace c = true) :
    parse? (v.pretty ++ blanks) = some v :=
  parse?_of_isText (isText_pretty h hblanks)

end Abacus.Json
