import Abacus.Decimal
import Abacus.Proofs.Number.IntegerText

/-!
# Numerals with a point or a power of ten

The unsigned decimal numerals that are written for numbers that are no integers: digits, then a
point with digits behind it or a power of ten or both. A numeral is given by its parts, and by what
they are it is not a run of digits; `Decimal.Numeral.chars` writes it. Every one of them is read
(`Decimal.readMagnitude?_chars`), and each has a character that no integer has
(`Decimal.Numeral.exists_not_isDigit`), so that it cannot be taken for one.
-/

namespace Abacus
namespace Decimal

/-- An unsigned numeral with a point or a power of ten: without both, it would be an integer text,
which is read in another way. -/
structure Numeral where
  whole : Digits
  fraction? : Option Digits
  /-- Whether the exponent is negative, and its digits. -/
  exponent? : Option (Bool × Digits)
  marked : fraction?.isSome ∨ exponent?.isSome

namespace Numeral

/-- The characters of a point and what follows it. -/
def fractionChars : Option Digits → List Char
  | none => []
  | some ds => '.' :: ds.chars

/-- The digits behind a point. -/
def fractionDigits : Option Digits → List Char
  | none => []
  | some ds => ds.chars

/-- The characters of a power of ten. -/
def powerChars : Option (Bool × Digits) → List Char
  | none => []
  | some (negative, ds) => 'e' :: (if negative then '-' else '+') :: ds.chars

/-- The exponent of a power of ten. -/
def power : Option (Bool × Digits) → Int
  | none => 0
  | some (negative, ds) => if negative then -(ds.value : Int) else ds.value

/-- The characters of a numeral. -/
def chars (n : Numeral) : List Char :=
  n.whole.chars ++ (fractionChars n.fraction? ++ powerChars n.exponent?)

/-- The decimal number of a numeral behind a sign. -/
def decimal (n : Numeral) (negative : Bool) : Decimal where
  negative := negative
  coefficient := digitsValue (n.whole.chars ++ fractionDigits n.fraction?)
  exponent := power n.exponent? - (fractionDigits n.fraction?).length

/-- A numeral is no run of digits. -/
theorem exists_not_isDigit (n : Numeral) : ∃ c ∈ n.chars, c.isDigit = false := by
  rcases n.marked with h | h
  · obtain ⟨ds, hds⟩ := Option.isSome_iff_exists.mp h
    refine ⟨'.', ?_, rfl⟩
    simp [chars, hds, fractionChars]
  · obtain ⟨⟨negative, ds⟩, hds⟩ := Option.isSome_iff_exists.mp h
    refine ⟨'e', ?_, rfl⟩
    simp [chars, hds, powerChars]

/-- The characters that numerals consist of. -/
theorem mem_chars {n : Numeral} {c : Char} (h : c ∈ n.chars) :
    c.isDigit = true ∨ c ∈ ['.', 'e', '+', '-'] := by
  have hfraction : ∀ f, c ∈ fractionChars f → c.isDigit = true ∨ c ∈ ['.', 'e', '+', '-'] := by
    intro f hf
    cases f with
    | none => cases hf
    | some ds =>
      rcases List.mem_cons.mp hf with rfl | hf
      · exact .inr (by simp)
      · exact .inl (ds.isDigit c hf)
  have hpower : ∀ e, c ∈ powerChars e → c.isDigit = true ∨ c ∈ ['.', 'e', '+', '-'] := by
    intro e he
    match e with
    | none => cases he
    | some (negative, ds) =>
      rcases List.mem_cons.mp he with rfl | he
      · exact .inr (by simp)
      rcases List.mem_cons.mp he with rfl | he
      · cases negative <;> exact .inr (by simp)
      · exact .inl (ds.isDigit c he)
  rcases List.mem_append.mp h with h | h
  · exact .inl (n.whole.isDigit c h)
  · exact (List.mem_append.mp h).elim (hfraction _) (hpower _)

end Numeral

/-! ## Reading -/

theorem takeWhile_digits (ds : Digits) {rest : List Char} (h : rest.takeWhile Char.isDigit = []) :
    (ds.chars ++ rest).takeWhile Char.isDigit = ds.chars := by
  rw [List.takeWhile_append_of_pos ds.isDigit, h, List.append_nil]

theorem dropWhile_digits (ds : Digits) {rest : List Char} (h : rest.takeWhile Char.isDigit = []) :
    (ds.chars ++ rest).dropWhile Char.isDigit = rest := by
  have hrest := List.takeWhile_append_dropWhile (p := Char.isDigit) (l := rest)
  rw [h, List.nil_append] at hrest
  rw [List.dropWhile_append_of_pos ds.isDigit, hrest]

theorem takeWhile_powerChars (exponent? : Option (Bool × Digits)) :
    (Numeral.powerChars exponent?).takeWhile Char.isDigit = [] := by
  match exponent? with
  | none => rfl
  | some (_, _) => rfl

theorem takeWhile_fractionChars (fraction? : Option Digits) (exponent? : Option (Bool × Digits)) :
    (Numeral.fractionChars fraction? ++ Numeral.powerChars exponent?).takeWhile Char.isDigit
      = [] := by
  cases fraction? with
  | none => exact takeWhile_powerChars exponent?
  | some ds => rfl

/-- The digits behind a point are told from the power of ten. -/
theorem splitFraction_chars (fraction? : Option Digits) (exponent? : Option (Bool × Digits)) :
    splitFraction (Numeral.fractionChars fraction? ++ Numeral.powerChars exponent?)
      = (Numeral.fractionDigits fraction?, Numeral.powerChars exponent?) := by
  cases fraction? with
  | some ds =>
    show ((ds.chars ++ Numeral.powerChars exponent?).takeWhile Char.isDigit,
      (ds.chars ++ Numeral.powerChars exponent?).dropWhile Char.isDigit) = _
    rw [takeWhile_digits ds (takeWhile_powerChars exponent?),
      dropWhile_digits ds (takeWhile_powerChars exponent?)]
    rfl
  | none =>
    match exponent? with
    | none => rfl
    | some (_, _) => rfl

/-- A power of ten is read with its sign. -/
theorem readExponent?_powerChars (exponent? : Option (Bool × Digits)) :
    readExponent? (Numeral.powerChars exponent?) = some (Numeral.power exponent?) := by
  match exponent? with
  | none => rfl
  | some (negative, ds) =>
    have hall : ds.chars.all Char.isDigit = true := List.all_eq_true.mpr ds.isDigit
    cases negative <;>
      simp [Numeral.powerChars, readExponent?, Text.splitSign, ds.ne_nil, hall, Numeral.power,
        Digits.value, digitsValue]

/-- Every numeral is read. -/
theorem readMagnitude?_chars (n : Numeral) (negative : Bool) :
    readMagnitude? negative n.chars = some (n.decimal negative) := by
  have hrest := takeWhile_fractionChars n.fraction? n.exponent?
  have hne : n.whole.chars ++ Numeral.fractionDigits n.fraction? ≠ [] := by
    simp [n.whole.ne_nil]
  rw [readMagnitude?, Numeral.chars, takeWhile_digits n.whole hrest,
    dropWhile_digits n.whole hrest, splitFraction_chars]
  simp only [if_neg hne, readExponent?_powerChars]
  rfl

end Decimal
end Abacus
