import Abacus.Json.Parser
import Abacus.Proofs.Number.FloatText
import Mathlib.Data.List.DropRight

/-!
# The grammar of JSON

What a text has to be like in order to hold a JSON value, as far as its numbers are whole: blanks
may stand around each part, items and members are divided by single commas, a number has no leading
zeros, and a character of a string stands for itself or is escaped, as one unit or as a pair of
surrogates (`Json.IsText`). Documents are such texts (specification §13), whatever a program reads
them with.

The grammar says nothing of how a text is read, and the reader is not bound to it: it also reads
texts that the grammar does not admit. But it reads every text of the grammar as the value that the
text holds, so that a text holds one value at most.

- `Json.IsString.exists_read`: strings, character by character.
- `Json.readValue?_signed`: numbers, which are read up to the first character that cannot go on.
- `Json.isReadAs_of_isValue`: values, by induction on the value. The reader recurses on fuel, so the
  statement asks for as much of it as the text is long.
- `Json.parse?_of_isText`, `Json.IsText.eq`: whole texts.

The reader passes over blanks when it starts on a part, the grammar has them on both sides of it. So
what is left behind a part differs by blanks, and statements about the rest of a text are up to
`skipSpace`. Two units of fuel for each character are plenty, since no call of the reader succeeds
without taking one.
-/

namespace Abacus.Json

/-! ## Texts -/

/-- Blanks, or nothing. -/
def IsBlank (cs : List Char) : Prop :=
  ∀ c ∈ cs, isSpace c = true

/-- The ways to write a character of a string: as itself, by a letter behind a backslash, by the
code of its unit in UTF-16, or by the codes of its two units if it lies beyond the first plane. -/
inductive IsCharacter : List Char → Char → Prop where
  | plain {c : Char} (hquote : c ≠ '"') (hescape : c ≠ '\\') (hcontrol : ¬ c.toNat < 0x20) :
      IsCharacter [c] c
  | escape {e c : Char} (h : simpleEscape? e = some c) : IsCharacter ['\\', e] c
  | unit {a b c d char : Char} (h : hexValue4? a b c d = some char.toNat) :
      IsCharacter ['\\', 'u', a, b, c, d] char
  | pair {a b c d e f g h char : Char} {high low : Nat} (hhigh : hexValue4? a b c d = some high)
      (hlow : hexValue4? e f g h = some low) (hpair : pairUp? high low = some char.toNat) :
      IsCharacter ['\\', 'u', a, b, c, d, '\\', 'u', e, f, g, h] char

/-- A string in quotes. -/
def IsString (cs : List Char) (s : String) : Prop :=
  ∃ parts, List.Forall₂ IsCharacter parts s.toList ∧ cs = '"' :: (parts.flatten ++ ['"'])

mutual

/-- The texts of a value, without blanks around them. Numbers with a fraction or a power of ten are
left out, since none is written into a document. -/
inductive IsValue : List Char → Json → Prop where
  | null : IsValue ['n', 'u', 'l', 'l'] .null
  | true : IsValue ['t', 'r', 'u', 'e'] (.bool true)
  | false : IsValue ['f', 'a', 'l', 's', 'e'] (.bool false)
  | int (negative : Bool) (ds : Digits) (h : ∀ cs, ds.chars = '0' :: cs → cs = []) :
      IsValue (Binary64.signChars negative ++ ds.chars) (.int (Binary64.signed negative ds.value))
  | string {cs : List Char} {s : String} (h : IsString cs s) : IsValue cs (.string s)
  | emptyArray {blanks : List Char} (h : IsBlank blanks) :
      IsValue ('[' :: (blanks ++ [']'])) (.array [])
  | array {cs : List Char} {items : List Json} (h : IsItems cs items) :
      IsValue ('[' :: (cs ++ [']'])) (.array items)
  | emptyObject {blanks : List Char} (h : IsBlank blanks) :
      IsValue ('{' :: (blanks ++ ['}'])) (.object [])
  | object {cs : List Char} {members : List (String × Json)} (h : IsMembers cs members) :
      IsValue ('{' :: (cs ++ ['}'])) (.object members)

/-- A value with blanks around it. -/
inductive IsItem : List Char → Json → Prop where
  | mk {before cs after : List Char} {v : Json} (hbefore : IsBlank before) (h : IsValue cs v)
      (hafter : IsBlank after) : IsItem (before ++ (cs ++ after)) v

/-- A key and a value with blanks around them. -/
inductive IsMember : List Char → String × Json → Prop where
  | mk {before key between cs : List Char} {name : String} {v : Json} (hbefore : IsBlank before)
      (hkey : IsString key name) (hbetween : IsBlank between) (h : IsItem cs v) :
      IsMember (before ++ (key ++ (between ++ ':' :: cs))) (name, v)

/-- One item or more. -/
inductive IsItems : List Char → List Json → Prop where
  | one {cs : List Char} {item : Json} (h : IsItem cs item) : IsItems cs [item]
  | more {cs rest : List Char} {item : Json} {items : List Json} (h : IsItem cs item)
      (hrest : IsItems rest items) : IsItems (cs ++ ',' :: rest) (item :: items)

/-- One member or more. -/
inductive IsMembers : List Char → List (String × Json) → Prop where
  | one {cs : List Char} {member : String × Json} (h : IsMember cs member) : IsMembers cs [member]
  | more {cs rest : List Char} {member : String × Json} {members : List (String × Json)}
      (h : IsMember cs member) (hrest : IsMembers rest members) :
      IsMembers (cs ++ ',' :: rest) (member :: members)

end

/-- **JSON texts**: a text holds a single value and nothing else but blanks around it. -/
def IsText (s : String) (v : Json) : Prop :=
  IsItem s.toList v

/-! ## Reading strings

A string is read in two rounds, first to units of UTF-16 and then to characters. So each way to
write a character is followed through both: which units it gives, and that these units make the
character, whatever units come next. -/

/-- An escape by a letter is read as one unit. -/
theorem readUnits?_simpleEscape {e c : Char} (h : simpleEscape? e = some c) (rest : List Char) :
    readUnits? ('\\' :: e :: rest)
      = (readUnits? rest).map fun read => (c.toNat :: read.1, read.2) := by
  have hu : e ≠ 'u' := by
    rintro rfl
    cases h
  rw [readUnits?]
  · rw [h]
    cases readUnits? rest <;> rfl
  · intro a b c d rest he
    exact absurd he hu

theorem readUnits?_unit {a b c d : Char} {n : Nat} (h : hexValue4? a b c d = some n)
    (rest : List Char) :
    readUnits? ('\\' :: 'u' :: a :: b :: c :: d :: rest)
      = (readUnits? rest).map fun read => (n :: read.1, read.2) := by
  rw [readUnits?, h]
  cases readUnits? rest <;> rfl

/-- A character that is no quote, no backslash and no control stands for itself. -/
theorem readUnits?_plain {c : Char} (hquote : c ≠ '"') (hescape : c ≠ '\\')
    (hcontrol : ¬ c.toNat < 0x20) (rest : List Char) :
    readUnits? (c :: rest) = (readUnits? rest).map fun read => (c.toNat :: read.1, read.2) := by
  rw [readUnits?]
  · rw [if_neg (by simp [hescape, hcontrol])]
    cases readUnits? rest <;> rfl
  · exact hquote
  · intro a b d e rest' hc
    exact absurd hc hescape
  · intro e rest' hc
    exact absurd hc hescape

theorem scalar?_toNat (c : Char) : scalar? c.toNat = some c := by
  have hvalid : c.toNat.isValidChar := c.valid
  rw [scalar?, if_pos hvalid, Char.ofNat_toNat]

/-- No character is one half of a surrogate pair. -/
theorem pairUp?_toNat (c : Char) (n : Nat) : pairUp? c.toNat n = none := by
  have hvalid : c.toNat < 0xd800 ∨ 0xdfff < c.toNat ∧ c.toNat < 0x110000 := c.valid
  rw [pairUp?, if_neg]
  simp only [Bool.and_eq_true, decide_eq_true_eq]
  omega

/-- A unit that is the number of a character makes one of its own, whatever follows it. -/
theorem scalars?_cons_toNat (c : Char) (units : List Nat) :
    scalars? (c.toNat :: units) = (scalars? units).map (c :: ·) := by
  cases units with
  | nil => simp [scalars?, scalar?_toNat]
  | cons next units =>
    rw [scalars?, pairUp?_toNat]
    simp only [scalar?_toNat, bind, Option.bind]
    cases scalars? (next :: units) <;> rfl

theorem scalars?_pair {high low : Nat} {c : Char} (h : pairUp? high low = some c.toNat)
    (units : List Nat) : scalars? (high :: low :: units) = (scalars? units).map (c :: ·) := by
  rw [scalars?, h]
  simp only [scalar?_toNat, bind, Option.bind]
  cases scalars? units <;> rfl

/-- A character is read as units that make it up. -/
theorem IsCharacter.exists_units {cs : List Char} {c : Char} (h : IsCharacter cs c) :
    ∃ units, (∀ rest, readUnits? (cs ++ rest)
        = (readUnits? rest).map fun read => (units ++ read.1, read.2)) ∧
      ∀ more, scalars? (units ++ more) = (scalars? more).map (c :: ·) := by
  cases h with
  | plain hquote hescape hcontrol =>
    exact ⟨[c.toNat], readUnits?_plain hquote hescape hcontrol, scalars?_cons_toNat c⟩
  | escape h => exact ⟨[c.toNat], readUnits?_simpleEscape h, scalars?_cons_toNat c⟩
  | unit h => exact ⟨[c.toNat], readUnits?_unit h, scalars?_cons_toNat c⟩
  | pair hhigh hlow hpair =>
    -- two escapes are read as two units, which are put together only afterwards
    refine ⟨[_, _], fun rest => (readUnits?_unit hhigh _).trans ?_, scalars?_pair hpair⟩
    exact (congrArg (Option.map _) (readUnits?_unit hlow rest)).trans (Option.map_map ..)

/-- The characters of a string are read one after the other, up to the quote. -/
theorem exists_units_of_forall₂ {parts : List (List Char)} {chars : List Char}
    (h : List.Forall₂ IsCharacter parts chars) (rest : List Char) :
    ∃ units, readUnits? (parts.flatten ++ '"' :: rest) = some (units, rest) ∧
      scalars? units = some chars := by
  induction h with
  | nil => exact ⟨[], rfl, rfl⟩
  | cons hpart _ ih =>
    obtain ⟨later, hread, hscalars⟩ := ih
    obtain ⟨units, hunits, hchar⟩ := hpart.exists_units
    refine ⟨units ++ later, ?_, ?_⟩
    · rw [List.flatten_cons, List.append_assoc, hunits, hread]
      rfl
    · rw [hchar, hscalars]
      rfl

/-- A string is read up to its closing quote. -/
theorem IsString.exists_read {cs : List Char} {s : String} (h : IsString cs s) (rest : List Char) :
    ∃ body, cs ++ rest = '"' :: body ∧ readString? body = some (s, rest) := by
  obtain ⟨parts, hparts, rfl⟩ := h
  obtain ⟨units, hunits, hscalars⟩ := exists_units_of_forall₂ hparts rest
  refine ⟨parts.flatten ++ '"' :: rest, by simp, ?_⟩
  rw [readString?, hunits]
  simp [hscalars]

/-! ## Reading numbers -/

/-- Whether a text does not go on with a character of a number. Only behind such a text can the end
of a number be told. -/
def EndsNumber (rest : List Char) : Prop :=
  ∀ c ∈ rest.head?, isNumberChar c = false

theorem endsNumber_cons {c : Char} (h : isNumberChar c = false) (cs : List Char) :
    EndsNumber (c :: cs) := by
  intro d hd
  obtain rfl : c = d := by simpa using hd
  exact h

section
variable (negative : Bool) (ds : Digits)

/-- A sign and digits are characters of a number. -/
theorem isNumberChar_of_mem_signed {c : Char}
    (h : c ∈ Binary64.signChars negative ++ ds.chars) : isNumberChar c = true := by
  rcases List.mem_append.mp h with h | h
  · cases negative with
    | true =>
      obtain rfl := List.mem_singleton.mp h
      rfl
    | false => cases h
  · simp [isNumberChar, ds.isDigit c h]

/-- A sign and digits are a whole number. -/
theorem ofNumberChars?_signed : ofNumberChars? (Binary64.signChars negative ++ ds.chars)
    = some (.int (Binary64.signed negative ds.value)) := by
  obtain ⟨d, rest, hchars⟩ := List.exists_cons_of_ne_nil ds.ne_nil
  have hd : d.isDigit = true := ds.isDigit d (hchars ▸ List.mem_cons_self)
  have hplus : (Binary64.signChars negative ++ ds.chars).head? ≠ some '+' := by
    rw [hchars]
    cases negative with
    | true => simp [Binary64.signChars]
    | false => simpa [Binary64.signChars] using ne_of_isDigit hd rfl
  have hsplit : Text.splitSign (Binary64.signChars negative ++ ds.chars)
      = (negative, ds.chars) := by
    rw [hchars, Binary64.splitSign_append hd]
  have hall : ds.chars.all Char.isDigit = true := List.all_eq_true.mpr ds.isDigit
  simp only [ofNumberChars?, hsplit]
  rw [if_neg hplus, hall, if_pos (by simp [ds.ne_nil])]
  rfl

theorem takeWhile_isNumberChar {rest : List Char} (h : EndsNumber rest) :
    (Binary64.signChars negative ++ ds.chars ++ rest).takeWhile isNumberChar
      = Binary64.signChars negative ++ ds.chars := by
  rw [List.takeWhile_append_of_pos fun c hc => isNumberChar_of_mem_signed negative ds hc]
  cases rest with
  | nil => simp
  | cons c cs => simp [h c rfl]

theorem dropWhile_isNumberChar {rest : List Char} (h : EndsNumber rest) :
    (Binary64.signChars negative ++ ds.chars ++ rest).dropWhile isNumberChar = rest := by
  rw [List.dropWhile_append_of_pos fun c hc => isNumberChar_of_mem_signed negative ds hc]
  cases rest with
  | nil => rfl
  | cons c cs => simp [h c rfl]

end

/-! ## Blanks

Each part of the reader passes over blanks before it looks at a character. So two texts that are the
same behind their blanks are read alike, and blanks need no cases of their own later on. -/

theorem skipSpace_cons {c : Char} (h : isSpace c = false) (cs : List Char) :
    skipSpace (c :: cs) = c :: cs :=
  List.dropWhile_cons_of_neg (by simp [h])

theorem skipSpace_skipSpace (cs : List Char) : skipSpace (skipSpace cs) = skipSpace cs :=
  List.dropWhile_idempotent isSpace cs

theorem skipSpace_append {blanks : List Char} (h : IsBlank blanks) (cs : List Char) :
    skipSpace (blanks ++ cs) = skipSpace cs :=
  List.dropWhile_append_of_pos h

theorem isNumberChar_of_isSpace {c : Char} (h : isSpace c = true) : isNumberChar c = false := by
  simp only [isSpace, Bool.or_eq_true, decide_eq_true_eq] at h
  rcases h with ((rfl | rfl) | rfl) | rfl <;> rfl

theorem EndsNumber.append {blanks cs : List Char} (hblanks : IsBlank blanks) (h : EndsNumber cs) :
    EndsNumber (blanks ++ cs) := by
  cases blanks with
  | nil => exact h
  | cons c blanks =>
    exact endsNumber_cons (isNumberChar_of_isSpace (hblanks c List.mem_cons_self)) _

/-! ## The reader, part by part

One equation for each part, in the form in which the induction needs it: given how the first piece
is read, with what is left behind it, the rest is up to the next call. Behind this section the parts
of the reader are not unfolded again. -/

theorem readValue?_congr {cs ds : List Char} (h : skipSpace cs = skipSpace ds) (fuel : Nat) :
    readValue? fuel cs = readValue? fuel ds := by
  cases fuel with
  | zero => rw [readValue?, readValue?]
  | succ fuel => rw [readValue?, readValue?, h]

theorem readItems?_congr {cs ds : List Char} (h : skipSpace cs = skipSpace ds) (fuel : Nat) :
    readItems? fuel cs = readItems? fuel ds := by
  cases fuel with
  | zero => rw [readItems?, readItems?]
  | succ fuel => rw [readItems?, readItems?, h]

theorem readMember?_congr {cs ds : List Char} (h : skipSpace cs = skipSpace ds) (fuel : Nat) :
    readMember? fuel cs = readMember? fuel ds := by
  cases fuel with
  | zero => rw [readMember?, readMember?]
  | succ fuel => rw [readMember?, readMember?, h]

theorem readMembers?_congr {cs ds : List Char} (h : skipSpace cs = skipSpace ds) (fuel : Nat) :
    readMembers? fuel cs = readMembers? fuel ds := by
  cases fuel with
  | zero => rw [readMembers?, readMembers?]
  | succ fuel => rw [readMembers?, readMembers?, h]

/-- A text that starts like a number is read as one, as far as its characters go. No other value
starts with such a character. -/
theorem readValue?_number {c : Char} (hc : isNumberChar c = true) (fuel : Nat) (cs : List Char) :
    readValue? (fuel + 1) (c :: cs)
      = (ofNumberChars? ((c :: cs).takeWhile isNumberChar)).map
          fun v => (v, (c :: cs).dropWhile isNumberChar) := by
  have hspace : isSpace c = false := by
    by_contra h
    rw [Bool.not_eq_false] at h
    rw [isNumberChar_of_isSpace h] at hc
    cases hc
  rw [readValue?, skipSpace_cons hspace]
  -- none of the characters that other values start with can stand in a number
  split <;> simp_all [isNumberChar]

/-- A whole number is read, whatever follows it. -/
theorem readValue?_signed (negative : Bool) (ds : Digits) (fuel : Nat) {rest : List Char}
    (h : EndsNumber rest) :
    readValue? (fuel + 1) (Binary64.signChars negative ++ ds.chars ++ rest)
      = some (.int (Binary64.signed negative ds.value), rest) := by
  have hne : Binary64.signChars negative ++ ds.chars ≠ [] := by simp [ds.ne_nil]
  obtain ⟨c, cs, hchars⟩ := List.exists_cons_of_ne_nil hne
  have hc : isNumberChar c = true :=
    isNumberChar_of_mem_signed negative ds (hchars ▸ List.mem_cons_self)
  have htake := takeWhile_isNumberChar negative ds h
  have hdrop := dropWhile_isNumberChar negative ds h
  rw [hchars] at htake hdrop
  rw [hchars, List.cons_append, readValue?_number hc, ← List.cons_append, htake, hdrop, ← hchars,
    ofNumberChars?_signed]
  rfl

theorem readValue?_string {cs : List Char} {s : String} (h : IsString cs s) (fuel : Nat)
    (rest : List Char) : readValue? (fuel + 1) (cs ++ rest) = some (.string s, rest) := by
  obtain ⟨body, hbody, hread⟩ := h.exists_read rest
  rw [hbody, readValue?, skipSpace_cons (by decide)]
  simp [hread]

/-- No value starts with a closing bracket or brace. -/
theorem readValue?_closing (fuel : Nat) {c : Char} (hc : c = ']' ∨ c = '}') (cs : List Char) :
    readValue? fuel (c :: cs) = none := by
  cases fuel with
  | zero => rw [readValue?]
  | succ fuel => rcases hc with rfl | rfl <;> rfl

theorem readValue?_emptyArray {blanks : List Char} (h : IsBlank blanks) (fuel : Nat)
    (rest : List Char) :
    readValue? (fuel + 1) ('[' :: (blanks ++ ']' :: rest)) = some (.array [], rest) := by
  have hclose : skipSpace (blanks ++ ']' :: rest) = ']' :: rest := by
    rw [skipSpace_append h, skipSpace_cons (by decide)]
  rw [readValue?, skipSpace_cons (by decide)]
  simp [hclose]

theorem readValue?_emptyObject {blanks : List Char} (h : IsBlank blanks) (fuel : Nat)
    (rest : List Char) :
    readValue? (fuel + 1) ('{' :: (blanks ++ '}' :: rest)) = some (.object [], rest) := by
  have hclose : skipSpace (blanks ++ '}' :: rest) = '}' :: rest := by
    rw [skipSpace_append h, skipSpace_cons (by decide)]
  rw [readValue?, skipSpace_cons (by decide)]
  simp [hclose]

/-- An array is read by its first item and what the others are read as. -/
theorem readValue?_array {fuel : Nat} {cs between rest : List Char} {item : Json}
    {items : List Json} (hitem : readValue? fuel cs = some (item, between))
    (hitems : readItems? fuel between = some (items, rest)) :
    readValue? (fuel + 1) ('[' :: cs) = some (.array (item :: items), rest) := by
  rw [← readValue?_congr (skipSpace_skipSpace cs)] at hitem
  rw [readValue?, skipSpace_cons (by decide)]
  simp only
  split
  · -- an array that is closed at once has no first item
    next tail hclose =>
    rw [hclose, readValue?_closing fuel (.inl rfl)] at hitem
    cases hitem
  · simp [hitem, hitems]

/-- An object is read by its first member and what the others are read as. -/
theorem readValue?_object {fuel : Nat} {cs between rest : List Char} {member : String × Json}
    {members : List (String × Json)} (hmember : readMember? fuel cs = some (member, between))
    (hmembers : readMembers? fuel between = some (members, rest)) :
    readValue? (fuel + 1) ('{' :: cs) = some (.object (member :: members), rest) := by
  rw [← readMember?_congr (skipSpace_skipSpace cs)] at hmember
  rw [readValue?, skipSpace_cons (by decide)]
  simp only
  split
  · next tail hclose =>
    rw [hclose] at hmember
    cases fuel <;> cases hmember
  · simp [hmember, hmembers]

theorem readItems?_cons {fuel : Nat} {cs between rest : List Char} {item : Json}
    {items : List Json} (hitem : readValue? fuel cs = some (item, between))
    (hitems : readItems? fuel between = some (items, rest)) :
    readItems? (fuel + 1) (',' :: cs) = some (item :: items, rest) := by
  rw [readItems?, skipSpace_cons (by decide)]
  simp [hitem, hitems]

theorem readMembers?_cons {fuel : Nat} {cs between rest : List Char} {member : String × Json}
    {members : List (String × Json)} (hmember : readMember? fuel cs = some (member, between))
    (hmembers : readMembers? fuel between = some (members, rest)) :
    readMembers? (fuel + 1) (',' :: cs) = some (member :: members, rest) := by
  rw [readMembers?, skipSpace_cons (by decide)]
  simp [hmember, hmembers]

/-- A member is read by its key and its value. -/
theorem readMember?_key {fuel : Nat} {key between cs rest : List Char} {name : String} {v : Json}
    (hkey : IsString key name) (hbetween : IsBlank between)
    (hvalue : readValue? fuel cs = some (v, rest)) :
    readMember? (fuel + 1) (key ++ (between ++ ':' :: cs)) = some ((name, v), rest) := by
  obtain ⟨body, hbody, hread⟩ := hkey.exists_read (between ++ ':' :: cs)
  have hcolon : skipSpace (between ++ ':' :: cs) = ':' :: cs := by
    rw [skipSpace_append hbetween, skipSpace_cons (by decide)]
  rw [hbody, readMember?, skipSpace_cons (by decide)]
  simp [hread, hcolon, hvalue]

/-! ## Texts are read

By mutual induction on values, items and members. The fuel is counted against the length of the
text, and what follows is left open, because a piece of a text is followed by the rest of it. -/

/-- What is read for a text, whatever follows it, if the fuel suffices. Each character is worth two
calls, for a value and for what goes on behind it. -/
def IsReadAs (cs : List Char) (v : Json) : Prop :=
  ∀ fuel rest, 2 * cs.length ≤ fuel → EndsNumber rest →
    readValue? fuel (cs ++ rest) = some (v, rest)

/-- No value is written as nothing. -/
theorem IsValue.ne_nil {cs : List Char} {v : Json} (h : IsValue cs v) : cs ≠ [] := by
  cases h with
  | null => simp
  | true => simp
  | false => simp
  | int negative ds _ => simp [ds.ne_nil]
  | string h =>
    obtain ⟨parts, -, rfl⟩ := h
    simp
  | emptyArray => simp
  | array => simp
  | emptyObject => simp
  | object => simp

/-- A value takes a character at least, so that there is fuel for it. Each case below may thus take
for granted that there is a call left. -/
theorem IsValue.isReadAs_of_succ {cs : List Char} {v : Json} (h : IsValue cs v)
    (hread : ∀ fuel rest, 2 * cs.length ≤ fuel + 1 → EndsNumber rest →
      readValue? (fuel + 1) (cs ++ rest) = some (v, rest)) : IsReadAs cs v := by
  intro fuel rest hfuel hrest
  have hpos := List.length_pos_iff.mpr h.ne_nil
  cases fuel with
  | zero => omega
  | succ fuel => exact hread fuel rest hfuel hrest

/-- Behind a value with blanks around it, the latter blanks are still to be read. -/
theorem IsItem.exists_read {cs : List Char} {v : Json} (h : IsItem cs v)
    (hvalue : ∀ ds, IsValue ds v → IsReadAs ds v) (fuel : Nat) {rest : List Char}
    (hfuel : 2 * cs.length ≤ fuel) (hrest : EndsNumber rest) :
    ∃ between, readValue? fuel (cs ++ rest) = some (v, between) ∧
      skipSpace between = skipSpace rest := by
  obtain ⟨hbefore, h, hafter⟩ := h
  next before ds after =>
  refine ⟨after ++ rest, ?_, skipSpace_append hafter rest⟩
  have hread := hvalue ds h fuel (after ++ rest)
    (by simp only [List.length_append] at hfuel; omega) (hrest.append hafter)
  rw [List.append_assoc, List.append_assoc, readValue?_congr (skipSpace_append hbefore _)]
  exact hread

/-- Behind a member with blanks around it, too, blanks may be left. -/
theorem IsMember.exists_read {cs : List Char} {member : String × Json} (h : IsMember cs member)
    (hvalue : ∀ ds, IsValue ds member.2 → IsReadAs ds member.2) (fuel : Nat) {rest : List Char}
    (hfuel : 2 * cs.length ≤ fuel) (hrest : EndsNumber rest) :
    ∃ between, readMember? fuel (cs ++ rest) = some (member, between) ∧
      skipSpace between = skipSpace rest := by
  obtain ⟨hbefore, hkey, hbetween, h⟩ := h
  next before key between ds name v =>
  simp only [List.length_append, List.length_cons] at hfuel
  obtain ⟨fuel, rfl⟩ : ∃ n, fuel = n + 1 := ⟨fuel - 1, by omega⟩
  obtain ⟨left, hread, hleft⟩ := h.exists_read hvalue fuel (by omega) hrest
  refine ⟨left, ?_, hleft⟩
  simp only [List.append_assoc, List.cons_append]
  rw [readMember?_congr (skipSpace_append hbefore _)]
  exact readMember?_key hkey hbetween hread

-- by induction on the value: what stands behind an item or a member is a comma or the end of the
-- array or object, so that no number goes on there
mutual

/-- The texts of a value are read as that value, whatever follows that is no number. What is inside
of brackets is shorter than the whole by the brackets, so there is fuel for it. -/
theorem isReadAs_of_isValue : (v : Json) → ∀ cs, IsValue cs v → IsReadAs cs v
  | .null, _, h => h.isReadAs_of_succ fun _ _ _ _ => by
    cases h
    rfl
  | .bool b, _, h => h.isReadAs_of_succ fun _ _ _ _ => by
    cases h <;> rfl
  | .int n, _, h => h.isReadAs_of_succ fun fuel _ _ hrest => by
    cases h with
    | int negative ds _ => exact readValue?_signed negative ds fuel hrest
  | .float x, _, h => nomatch h
  | .string s, _, h => h.isReadAs_of_succ fun fuel rest _ _ => by
    cases h with
    | string h => exact readValue?_string h fuel rest
  | .array items, _, h => h.isReadAs_of_succ fun fuel rest hfuel _ => by
    cases h with
    | emptyArray h =>
      rw [List.cons_append, List.append_assoc]
      exact readValue?_emptyArray h fuel rest
    | array h =>
      simp only [List.length_cons, List.length_append, List.length_nil] at hfuel
      obtain ⟨item, more, between, rfl, hitem, hmore⟩ :=
        readItems?_of_isItems items _ h fuel rest (by omega)
      rw [List.cons_append, List.append_assoc]
      exact readValue?_array hitem hmore
  | .object members, _, h => h.isReadAs_of_succ fun fuel rest hfuel _ => by
    cases h with
    | emptyObject h =>
      rw [List.cons_append, List.append_assoc]
      exact readValue?_emptyObject h fuel rest
    | object h =>
      simp only [List.length_cons, List.length_append, List.length_nil] at hfuel
      obtain ⟨member, more, between, rfl, hmember, hmore⟩ :=
        readMembers?_of_isMembers members _ h fuel rest (by omega)
      rw [List.cons_append, List.append_assoc]
      exact readValue?_object hmember hmore

/-- The items of an array are read up to the bracket. -/
theorem readItems?_of_isItems : (items : List Json) → ∀ cs, IsItems cs items → ∀ fuel rest,
    2 * cs.length + 2 ≤ fuel → ∃ item more between, items = item :: more ∧
      readValue? fuel (cs ++ ']' :: rest) = some (item, between) ∧
      readItems? fuel between = some (more, rest)
  | [], _, h, _, _, _ => nomatch h
  | item :: items, _, h, fuel, rest, hfuel => by
    obtain ⟨fuel, rfl⟩ : ∃ n, fuel = n + 1 := ⟨fuel - 1, by omega⟩
    cases h with
    | one h =>
      obtain ⟨between, hitem, hbetween⟩ := h.exists_read (isReadAs_of_isValue item)
        (fuel + 1) (by omega) (endsNumber_cons (c := ']') rfl rest)
      refine ⟨item, [], between, rfl, hitem, ?_⟩
      rw [readItems?_congr hbetween]
      rfl
    | more h hrest =>
      simp only [List.length_append, List.length_cons] at hfuel
      obtain ⟨next, more, left, rfl, hnext, hmore⟩ :=
        readItems?_of_isItems items _ hrest fuel rest (by omega)
      obtain ⟨between, hitem, hbetween⟩ := h.exists_read (isReadAs_of_isValue item)
        (fuel + 1) (by omega) (endsNumber_cons (c := ',') rfl _)
      refine ⟨item, next :: more, between, rfl, ?_, ?_⟩
      · rw [List.append_assoc]
        exact hitem
      · rw [readItems?_congr hbetween]
        exact readItems?_cons hnext hmore

/-- The members of an object are read up to the brace. -/
theorem readMembers?_of_isMembers : (members : List (String × Json)) → ∀ cs,
    IsMembers cs members → ∀ fuel rest, 2 * cs.length + 2 ≤ fuel →
    ∃ member more between, members = member :: more ∧
      readMember? fuel (cs ++ '}' :: rest) = some (member, between) ∧
      readMembers? fuel between = some (more, rest)
  | [], _, h, _, _, _ => nomatch h
  | (name, v) :: members, _, h, fuel, rest, hfuel => by
    obtain ⟨fuel, rfl⟩ : ∃ n, fuel = n + 1 := ⟨fuel - 1, by omega⟩
    cases h with
    | one h =>
      obtain ⟨between, hmember, hbetween⟩ := h.exists_read (isReadAs_of_isValue v)
        (fuel + 1) (by omega) (endsNumber_cons (c := '}') rfl rest)
      refine ⟨(name, v), [], between, rfl, hmember, ?_⟩
      rw [readMembers?_congr hbetween]
      rfl
    | more h hrest =>
      simp only [List.length_append, List.length_cons] at hfuel
      obtain ⟨next, more, left, rfl, hnext, hmore⟩ :=
        readMembers?_of_isMembers members _ hrest fuel rest (by omega)
      obtain ⟨between, hmember, hbetween⟩ := h.exists_read (isReadAs_of_isValue v)
        (fuel + 1) (by omega) (endsNumber_cons (c := ',') rfl _)
      refine ⟨(name, v), next :: more, between, rfl, ?_, ?_⟩
      · rw [List.append_assoc]
        exact hmember
      · rw [readMembers?_congr hbetween]
        exact readMembers?_cons hnext hmore

end

/-- **Every text of a value is read** as the value that it holds. Nothing is asked of the text but
the grammar, so that other ways to set blanks or to escape characters than those of the writer are
covered. -/
theorem parse?_of_isText {s : String} {v : Json} (h : IsText s v) : parse? s = some v := by
  have hend : EndsNumber [] := fun _ hc => nomatch hc
  obtain ⟨between, hread, hbetween⟩ := IsItem.exists_read h (isReadAs_of_isValue v)
    -- the reader is given fuel for the whole text and one call more
    (2 * s.toList.length + 1) (Nat.le_succ _) hend
  have hrest : skipSpace between = [] := hbetween
  rw [List.append_nil] at hread
  rw [parse?, hread]
  simp [hrest]

/-- A text holds one value at most. -/
theorem IsText.eq {s : String} {v w : Json} (hv : IsText s v) (hw : IsText s w) : v = w :=
  Option.some.inj ((parse?_of_isText hv).symm.trans (parse?_of_isText hw))

end Abacus.Json
