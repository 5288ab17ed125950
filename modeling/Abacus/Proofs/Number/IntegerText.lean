import Abacus.Number.Text
import Mathlib.Algebra.Order.Ring.Int

/-!
# Integers as operands

An operand that is a run of digits with an optional minus is read as the integer that it denotes,
provided that it has no more digits than are read (`Number.ofText_signed`); an integer is written
without leading zeros under the same provision (`Number.integerText_eq_toString`). So an integer
that is written is read back (`Number.ofText_toString`).

`Digits` are runs of digits as a type: they are not empty and have nothing but digits in them, so
that neither has to be shown again where one is written or read. The operands of expressions are
such runs, and the texts of integers are, behind a minus or without one (`Digits.signed`).
-/

namespace Abacus

theorem ne_of_isDigit {c d : Char} (hc : c.isDigit = true) (hd : d.isDigit = false) : c ≠ d := by
  rintro rfl
  exact Bool.false_ne_true (hd.symm.trans hc)

/-- A run of digits that is not empty. Operands, integers and the parts of numerals are made of such
runs, so the proofs are carried along. -/
structure Digits where
  chars : List Char
  ne_nil : chars ≠ []
  isDigit : ∀ c ∈ chars, c.isDigit = true

namespace Digits

/-- Characters that were checked to be a run of digits. -/
def ofChars (cs : List Char) (h : (cs ≠ [] && cs.all Char.isDigit) = true) : Digits where
  chars := cs
  ne_nil := of_decide_eq_true (Bool.and_eq_true_iff.mp h).1
  isDigit := List.all_eq_true.mp (Bool.and_eq_true_iff.mp h).2

/-- The text of a run of digits. -/
def text (ds : Digits) : String :=
  String.ofList ds.chars

/-- The number that a run of digits denotes; leading zeros count for nothing. -/
def value (ds : Digits) : Nat :=
  Nat.ofDigitChars 10 ds.chars 0

/-- The digits of a number without leading zeros. -/
def ofNat (n : Nat) : Digits where
  chars := Nat.toDigits 10 n
  ne_nil := Nat.toDigits_ne_nil
  isDigit _ hc := Nat.isDigit_of_mem_toDigits (by decide) (by decide) hc

/-- Whether there are more digits than an integer that is read or written can have. Leading zeros
count: the limit is on the text. -/
def IsOverlong (ds : Digits) : Prop :=
  Number.maxIntegerDigits < ds.chars.length

instance (ds : Digits) : Decidable ds.IsOverlong :=
  inferInstanceAs (Decidable (_ < _))

/-- Digits behind a minus, or without one. -/
def signed (negative : Bool) (ds : Digits) : String :=
  String.ofList (Binary64.signChars negative ++ ds.chars)

theorem signed_false (ds : Digits) : ds.signed false = ds.text := rfl

theorem value_ofNat (n : Nat) : (ofNat n).value = n :=
  Nat.ofDigitChars_ten_toDigits

/-- Each further digit takes a further power of ten. -/
theorem ofDigitChars_lt {cs : List Char} (h : ∀ c ∈ cs, c.isDigit = true) (init : Nat) :
    Nat.ofDigitChars 10 cs init < 10 ^ cs.length * (init + 1) := by
  induction cs generalizing init with
  | nil => simp
  | cons c cs ih =>
    obtain ⟨hc, hcs⟩ := List.forall_mem_cons.mp h
    obtain ⟨hlower, hupper⟩ : 48 ≤ c.toNat ∧ c.toNat ≤ 57 := Char.isDigit_iff_toNat.mp hc
    rw [Nat.ofDigitChars_cons, List.length_cons, pow_succ, Nat.mul_assoc]
    refine Nat.lt_of_lt_of_le (ih hcs _) (Nat.mul_le_mul_left _ ?_)
    show 10 * init + (c.toNat - 48) + 1 ≤ 10 * (init + 1)
    omega

/-- A number lies below the power of ten that has one digit more. -/
theorem value_lt (ds : Digits) : ds.value < 10 ^ ds.chars.length :=
  Nat.lt_of_lt_of_eq (ofDigitChars_lt ds.isDigit 0) (Nat.mul_one _)

/-- A number has no leading zeros. -/
theorem eq_nil_of_chars_ofNat {n : Nat} {cs : List Char} (h : (ofNat n).chars = '0' :: cs) :
    cs = [] := by
  by_contra hne
  have hdigits : ∀ c ∈ cs, c.isDigit = true :=
    fun c hc => (ofNat n).isDigit c (h ▸ List.mem_cons_of_mem _ hc)
  have hvalue : n = Nat.ofDigitChars 10 cs 0 := by
    rw [← value_ofNat n, value, h, Nat.ofDigitChars_cons]
    rfl
  -- without the zero, the digits would be fewer than the number has
  have hbound : n < 10 ^ cs.length := by
    rw [hvalue]
    exact Nat.lt_of_lt_of_eq (ofDigitChars_lt hdigits 0) (Nat.mul_one _)
  have hlength : (ofNat n).chars.length ≤ cs.length :=
    (Nat.length_toDigits_le_iff (by decide) (List.length_pos_iff.mpr hne)).mpr hbound
  rw [h, List.length_cons] at hlength
  omega

theorem isOverlong_ofNat_iff {n : Nat} :
    (ofNat n).IsOverlong ↔ 10 ^ Number.maxIntegerDigits ≤ n := by
  have hlength := Nat.length_toDigits_le_iff (b := 10) (n := n) (k := Number.maxIntegerDigits)
    (by decide) (by decide)
  rw [← Nat.not_lt, ← hlength]
  exact Nat.not_le.symm

/-- The first of some digits is no minus. -/
theorem head_ne_minus (ds : Digits) {c : Char} {cs : List Char} (h : ds.chars = c :: cs) :
    c ≠ '-' :=
  ne_of_isDigit (ds.isDigit c (h ▸ List.mem_cons_self)) rfl

/-- The decimal numeral of an integer. -/
theorem toString_eq_signed (n : Int) : toString n = (ofNat n.natAbs).signed (n < 0) := by
  cases n with
  | ofNat m =>
    have hneg : ¬ Int.ofNat m < 0 := by simp
    rw [signed, decide_eq_false hneg]
    exact Nat.repr_eq_ofList_toDigits
  | negSucc m =>
    rw [signed, decide_eq_true (Int.negSucc_lt_zero m)]
    refine String.toList_injective ?_
    show ("-" ++ Nat.repr (m + 1)).toList = _
    simp only [String.toList_append, Nat.toList_repr, String.toList_ofList]
    rfl

end Digits

namespace Number

/-! ## Reading -/

/-- The digits of an integer text are found behind its sign. -/
theorem integerDigits?_signed (negative : Bool) (ds : Digits) :
    integerDigits? (ds.signed negative).toList = some (negative, ds.chars) := by
  have hall : ds.chars.all Char.isDigit = true := List.all_eq_true.mpr ds.isDigit
  rw [Digits.signed, String.toList_ofList]
  cases negative with
  | true => simp [Binary64.signChars, integerDigits?, ds.ne_nil, hall]
  | false =>
    cases hchars : ds.chars with
    | nil => exact absurd hchars ds.ne_nil
    | cons c cs =>
      -- the first digit is not taken for a minus
      have hminus := ds.head_ne_minus hchars
      rw [hchars] at hall
      simp [Binary64.signChars, integerDigits?, hminus, hall]

/-- A signed run of digits tells what it consists of. -/
theorem signed_inj {negative negative' : Bool} {ds ds' : Digits}
    (h : ds.signed negative = ds'.signed negative') :
    negative = negative' ∧ ds.chars = ds'.chars := by
  have hdigits := congrArg (fun text => integerDigits? text.toList) h
  simp only [integerDigits?_signed] at hdigits
  exact Prod.mk.inj (Option.some.inj hdigits)

theorem readInteger_eq {ds : Digits} (h : ¬ ds.IsOverlong) (negative : Bool) :
    readInteger negative ds.chars = .ok (Binary64.signed negative ds.value) :=
  if_neg h

/-- Too many digits are refused, and the failure tells how many there are. -/
theorem readInteger_overlong {ds : Digits} (h : ds.IsOverlong) (negative : Bool) :
    readInteger negative ds.chars = .error (.tooLongToRead ds.chars.length) :=
  if_pos h

/-- **An integer text is read** as the integer that it denotes. -/
theorem ofText_signed {ds : Digits} (h : ¬ ds.IsOverlong) (negative : Bool) :
    ofText (ds.signed negative) = .ok (.int (Binary64.signed negative ds.value)) := by
  rw [ofText, integerDigits?_signed]
  show (readInteger negative ds.chars).map Number.int = _
  rw [readInteger_eq h]
  rfl

theorem ofText_overlong {ds : Digits} (h : ds.IsOverlong) (negative : Bool) :
    ofText (ds.signed negative) = .error (.tooLongToRead ds.chars.length) := by
  rw [ofText, integerDigits?_signed]
  show (readInteger negative ds.chars).map Number.int = _
  rw [readInteger_overlong h]
  rfl

/-- An integer text that can be read is read as the integer that it denotes. -/
theorem eq_of_ofText_signed {negative : Bool} {ds : Digits} {v : Number}
    (h : ofText (ds.signed negative) = .ok v) : v = .int (Binary64.signed negative ds.value) := by
  by_cases hlong : ds.IsOverlong
  · rw [ofText_overlong hlong] at h
    cases h
  · rw [ofText_signed hlong] at h
    exact (Except.ok.inj h).symm

/-! ## Writing -/

/-- **An integer is written** as its decimal numeral, if its digits are within the limit. -/
theorem integerText_eq_toString {n : Int} (h : n.natAbs < 10 ^ maxIntegerDigits) :
    integerText n = .ok (toString n) := by
  have hlength : ¬ maxIntegerDigits < (Nat.toDigits 10 n.natAbs).length := by
    intro hlong
    exact Nat.not_le.mpr h (Digits.isOverlong_ofNat_iff.mp hlong)
  rw [integerText, if_neg hlength, Digits.toString_eq_signed]
  rfl

theorem integerText_overlong {n : Int} (h : 10 ^ maxIntegerDigits ≤ n.natAbs) :
    integerText n = .error .tooLongToWrite := by
  have hlength : maxIntegerDigits < (Nat.toDigits 10 n.natAbs).length :=
    Digits.isOverlong_ofNat_iff.mpr h
  rw [integerText, if_pos hlength]

/-- An integer that is written has not too many digits. -/
theorem natAbs_lt_of_integerText {n : Int} {text : String} (h : integerText n = .ok text) :
    n.natAbs < 10 ^ maxIntegerDigits := by
  refine Nat.lt_of_not_le fun hlong => ?_
  rw [integerText_overlong hlong] at h
  cases h

theorem eq_toString_of_integerText {n : Int} {text : String} (h : integerText n = .ok text) :
    text = toString n := by
  rw [integerText_eq_toString (natAbs_lt_of_integerText h)] at h
  exact (Except.ok.inj h).symm

theorem signed_natAbs (n : Int) : Binary64.signed (decide (n < 0)) n.natAbs = n := by
  unfold Binary64.signed
  by_cases hneg : n < 0
  · rw [if_pos (decide_eq_true hneg)]
    omega
  · rw [if_neg (by simpa using hneg)]
    omega

theorem natAbs_signed (negative : Bool) (n : Nat) : (Binary64.signed negative n).natAbs = n := by
  cases negative <;> simp [Binary64.signed]

/-- An integer that is written is read back. -/
theorem ofText_toString {n : Int} (h : n.natAbs < 10 ^ maxIntegerDigits) :
    ofText (toString n) = .ok (.int n) := by
  have hlength : ¬ (Digits.ofNat n.natAbs).IsOverlong := by
    intro hlong
    exact Nat.not_le.mpr h (Digits.isOverlong_ofNat_iff.mp hlong)
  rw [Digits.toString_eq_signed, ofText_signed hlength, Digits.value_ofNat, signed_natAbs]

end Number
end Abacus
