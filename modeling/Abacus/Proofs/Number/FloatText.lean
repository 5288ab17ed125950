import Abacus.Proofs.Binary64.Decimal
import Abacus.Proofs.Number.Numeral
import Mathlib.Data.List.TakeWhile

/-!
# Double precision numbers as operands

A finite number is written as a sign and a numeral with a point or a power of ten, which denotes the
decimal number that was chosen for it (`Decimal.exists_numeral`). So its text is not the text of an
integer, and it is read as the number itself (`Number.ofText_text_float`). Whatever is written for a
number, be it an integer or not, is thus read as a number that is written in the same way
(`Number.exists_ofText_text`).

Writing has two forms (specification §4.3, step 4), and each is shown to be that of a numeral:

- `Decimal.exists_numeral_positional`: the digits with a point among, before or behind them.
- `Decimal.exists_numeral_scientific`: the digits with a power of ten.

Both are about the same digits, the significant ones, but a numeral may have zeros behind them. So a
numeral is said to denote a decimal number up to such zeros (`Decimal.Numeral.Denotes`), which make
no difference to what it is rounded to (`Binary64.ofDecimal_extended`).

Reading admits much more than is written: blanks around a numeral, digits of other scripts, single
underscores, names. What is written has nothing of that, so each of these steps leaves it as it is
(`Binary64.ofText?_numeral`).
-/

namespace Abacus
namespace Decimal

/-! ## Writing

What is written for a decimal number is shown to be a numeral, with the digits and the power of ten
that denote it. There are two forms: with all zeros that are needed, and with a power of ten
(specification §4.3, step 4). -/

/-- A positive number has a significant digit: if all digits were zeros, it would be zero. -/
theorem significantDigits_ne_nil {n : Nat} (h : n ≠ 0) : significantDigits n ≠ [] := by
  intro hnil
  have hzeros : ∀ c ∈ Nat.toDigits 10 n, c = '0' := by
    have hdrop : (Nat.toDigits 10 n).reverse.dropWhile (· = '0') = [] := by
      simpa [significantDigits] using hnil
    intro c hc
    have := List.dropWhile_eq_nil_iff.mp hdrop c (List.mem_reverse.mpr hc)
    simpa using this
  have hvalue := Nat.ofDigitChars_ten_toDigits (n := n)
  rw [List.eq_replicate_of_mem hzeros, Nat.ofDigitChars_replicate_zero, Nat.mul_zero] at hvalue
  exact h hvalue.symm

theorem isDigit_of_mem_significantDigits {n : Nat} {c : Char} (h : c ∈ significantDigits n) :
    c.isDigit = true := by
  have hmem := (List.dropWhile_sublist _).mem (List.mem_reverse.mp h)
  exact Nat.isDigit_of_mem_toDigits (by decide) (by decide) (List.mem_reverse.mp hmem)

theorem isDigit_of_mem_zeros {k : Nat} {c : Char} (h : c ∈ List.replicate k '0') :
    c.isDigit = true := by
  rw [List.eq_of_mem_replicate h]
  rfl

/-- The significant digits of a positive number. -/
def significant (n : Nat) (h : n ≠ 0) : Digits where
  chars := significantDigits n
  ne_nil := significantDigits_ne_nil h
  isDigit _ := isDigit_of_mem_significantDigits

/-- The digits of a number are the significant ones and zeros. -/
theorem exists_toDigits_eq (n : Nat) :
    ∃ k, Nat.toDigits 10 n = significantDigits n ++ List.replicate k '0' := by
  have hsplit := List.takeWhile_append_dropWhile (p := (· = '0')) (l := (Nat.toDigits 10 n).reverse)
  have hzeros : ∀ c ∈ (Nat.toDigits 10 n).reverse.takeWhile (· = '0'), c = '0' :=
    fun c hc => by simpa using List.mem_takeWhile_imp hc
  have hdigits := congrArg List.reverse hsplit
  rw [List.eq_replicate_of_mem hzeros, List.reverse_append, List.reverse_replicate,
    List.reverse_reverse] at hdigits
  exact ⟨_, hdigits.symm⟩

/-- The decimal number `± 0.ds · 10 ^ point`. -/
def fraction (negative : Bool) (ds : Digits) (point : Int) : Decimal where
  negative := negative
  coefficient := ds.value
  exponent := point - ds.chars.length

/-- A decimal number is what its significant digits say, but for the zeros behind them. -/
theorem exists_eq_extended_fraction (d : Decimal) (h : d.coefficient ≠ 0) :
    ∃ k, d = (fraction d.negative (significant d.coefficient h)
      ((Nat.toDigits 10 d.coefficient).length + d.exponent)).extended k := by
  obtain ⟨k, hk⟩ := exists_toDigits_eq d.coefficient
  have hvalue : d.coefficient = (significant d.coefficient h).value * 10 ^ k := by
    have hdigits := Nat.ofDigitChars_ten_toDigits (n := d.coefficient)
    rw [hk, Nat.ofDigitChars_append, Nat.ofDigitChars_replicate_zero, Nat.mul_comm] at hdigits
    exact hdigits.symm
  have hlength : (Nat.toDigits 10 d.coefficient).length
      = (significant d.coefficient h).chars.length + k := by
    rw [hk, List.length_append, List.length_replicate]
    rfl
  refine ⟨k, ?_⟩
  -- the exponent makes up for the zeros that are not significant
  obtain ⟨negative, coefficient, exponent⟩ := d
  rw [extended, fraction, mk.injEq]
  refine ⟨rfl, hvalue, ?_⟩
  dsimp only at hlength ⊢
  omega

/-- Whether a numeral denotes `0.ds · 10 ^ point`, be it with zeros at its end: those are written to
fill up the digits before the point, or the one behind it. -/
def Numeral.Denotes (n : Numeral) (ds : Digits) (point : Int) : Prop :=
  ∃ k, ∀ negative, n.decimal negative = (fraction negative ds point).extended k

theorem Numeral.denotes_of_eq {n : Numeral} {ds : Digits} {point : Int}
    (hvalue : digitsValue (n.whole.chars ++ fractionDigits n.fraction?) = ds.value)
    (hpoint : power n.exponent? - (fractionDigits n.fraction?).length
      = point - ds.chars.length) : n.Denotes ds point := by
  refine ⟨0, fun negative => ?_⟩
  simp [decimal, extended, fraction, hvalue, hpoint]

theorem digitsValue_zeros (k : Nat) (cs : List Char) :
    digitsValue (List.replicate k '0' ++ cs) = digitsValue cs := by
  rw [digitsValue, Nat.ofDigitChars_append, Nat.ofDigitChars_replicate_zero, Nat.mul_zero]
  rfl

/-- Digits with a point among, before or behind them are a numeral. Zeros fill the room between the
digits and the point, and on either side of the point there is at least one digit. -/
theorem exists_numeral_positional (ds : Digits) (point : Int) :
    ∃ n : Numeral, positional ds.chars point = n.chars ∧ n.Denotes ds point := by
  -- the three places of the point, as in the definition
  unfold positional
  split
  · -- the point stands before the digits
    refine ⟨⟨⟨['0'], by simp, by simp⟩,
      some ⟨List.replicate (-point).toNat '0' ++ ds.chars, by simp [ds.ne_nil], ?_⟩, none,
      .inl rfl⟩, ?_, Numeral.denotes_of_eq ?_ ?_⟩
    · intro c hc
      exact (List.mem_append.mp hc).elim isDigit_of_mem_zeros (ds.isDigit c)
    · simp [Numeral.chars, Numeral.fractionChars, Numeral.powerChars]
    · exact (digitsValue_zeros 1 _).trans (digitsValue_zeros _ _)
    · simp [Numeral.fractionDigits, Numeral.power]
      omega
  · split
    · -- behind them
      next hpoint hlength =>
      refine ⟨⟨⟨ds.chars ++ List.replicate (point.toNat - ds.chars.length) '0',
        by simp [ds.ne_nil], ?_⟩, some ⟨['0'], by simp, by simp⟩, none, .inl rfl⟩, ?_,
        point.toNat - ds.chars.length + 1, fun negative => ?_⟩
      · intro c hc
        exact (List.mem_append.mp hc).elim (ds.isDigit c) isDigit_of_mem_zeros
      · simp [Numeral.chars, Numeral.fractionChars, Numeral.powerChars]
      -- the zeros up to the point and the one behind it are those that `Denotes` leaves open
      · rw [Numeral.decimal, extended, fraction, mk.injEq]
        refine ⟨rfl, ?_, ?_⟩
        · show digitsValue (ds.chars ++ List.replicate (point.toNat - ds.chars.length) '0'
            ++ List.replicate 1 '0') = _
          rw [List.append_assoc, List.replicate_append_replicate, digitsValue,
            Nat.ofDigitChars_append, Nat.ofDigitChars_replicate_zero, Nat.mul_comm]
          rfl
        · show (0 - 1 : Int) = _
          push_cast
          omega
    · -- among them, so that there are digits on both sides
      next hpoint hlength =>
      refine ⟨⟨⟨ds.chars.take point.toNat, ?_, ?_⟩, some ⟨ds.chars.drop point.toNat, ?_, ?_⟩, none,
        .inl rfl⟩, ?_, Numeral.denotes_of_eq ?_ ?_⟩
      · simp [ds.ne_nil]
        omega
      · intro c hc
        exact ds.isDigit c (List.mem_of_mem_take hc)
      · simp
        omega
      · intro c hc
        exact ds.isDigit c (List.mem_of_mem_drop hc)
      · simp [Numeral.chars, Numeral.fractionChars, Numeral.powerChars]
      · exact congrArg digitsValue (List.take_append_drop _ _)
      · simp [Numeral.fractionDigits, Numeral.power]
        omega

/-- The digits of an exponent, at least two of them. -/
def exponentDigits (e : Int) : Digits where
  chars :=
    let ds := Nat.toDigits 10 e.natAbs
    if ds.length < 2 then '0' :: ds else ds
  ne_nil := by
    dsimp only
    split
    · simp
    · exact Nat.toDigits_ne_nil
  isDigit c hc := by
    dsimp only at hc
    split at hc
    · rcases List.mem_cons.mp hc with rfl | hc
      · rfl
      · exact Nat.isDigit_of_mem_toDigits (by decide) (by decide) hc
    · exact Nat.isDigit_of_mem_toDigits (by decide) (by decide) hc

theorem exponentChars_eq (e : Int) :
    'e' :: exponentChars e = Numeral.powerChars (some (decide (e < 0), exponentDigits e)) := by
  by_cases h : e < 0 <;> simp [exponentChars, Numeral.powerChars, exponentDigits, h]

/-- The digits of an exponent and its sign say the exponent. -/
theorem power_exponentDigits (e : Int) :
    Numeral.power (some (decide (e < 0), exponentDigits e)) = e := by
  have hvalue : (exponentDigits e).value = e.natAbs := by
    have hdigits := Nat.ofDigitChars_ten_toDigits (n := e.natAbs)
    unfold Digits.value exponentDigits
    dsimp only
    split
    · -- a zero before the digits does not count
      rw [Nat.ofDigitChars_cons]
      exact hdigits
    · exact hdigits
  rw [Numeral.power, hvalue]
  exact Number.signed_natAbs e

/-- Digits with a power of ten are a numeral. -/
theorem exists_numeral_scientific (ds : Digits) (e : Int) :
    ∃ n : Numeral, scientific ds.chars e = n.chars ∧ n.Denotes ds (e + 1) := by
  obtain ⟨chars, hne, hdigits⟩ := ds
  match chars with
  | [] => exact absurd rfl hne
  | [d] =>
    -- no digit follows the first, so there is no point
    refine ⟨⟨⟨[d], by simp, hdigits⟩, none, some (decide (e < 0), exponentDigits e), .inr rfl⟩, ?_,
      Numeral.denotes_of_eq rfl ?_⟩
    · simp [scientific, Numeral.chars, Numeral.fractionChars, exponentChars_eq]
    · simp [Numeral.fractionDigits, power_exponentDigits]
  | d :: c :: rest =>
    refine ⟨⟨⟨[d], by simp, fun x hx => hdigits x (by simp_all)⟩,
      some ⟨c :: rest, by simp, fun x hx => hdigits x (List.mem_cons_of_mem _ hx)⟩,
      some (decide (e < 0), exponentDigits e), .inr rfl⟩, ?_, Numeral.denotes_of_eq rfl ?_⟩
    · simp [scientific, Numeral.chars, Numeral.fractionChars, exponentChars_eq]
    · simp [Numeral.fractionDigits, power_exponentDigits]

/-- **What is written for a decimal number** is a sign and a numeral, which is read as that
number. -/
theorem exists_numeral (d : Decimal) :
    ∃ n : Numeral, d.toChars = Binary64.signChars d.negative ++ n.chars ∧
      Binary64.ofDecimal (n.decimal d.negative) = Binary64.ofDecimal d := by
  have hmagnitude : ∃ n : Numeral, (if d.coefficient = 0 then ['0', '.', '0']
      else magnitudeChars d.coefficient d.exponent) = n.chars ∧
      Binary64.ofDecimal (n.decimal d.negative) = Binary64.ofDecimal d := by
    split
    · next hzero =>
      refine ⟨⟨⟨['0'], by simp, by simp⟩, some ⟨['0'], by simp, by simp⟩, none, .inl rfl⟩, rfl, ?_⟩
      rw [Binary64.ofDecimal_of_coefficient_eq_zero hzero]
      exact Binary64.ofDecimal_of_coefficient_eq_zero rfl
    · next hne =>
      -- a numeral with other zeros at its end is rounded to the same number
      have hread {n : Numeral} (hn : n.Denotes (significant d.coefficient hne)
          ((Nat.toDigits 10 d.coefficient).length + d.exponent)) :
          Binary64.ofDecimal (n.decimal d.negative) = Binary64.ofDecimal d := by
        obtain ⟨k, hk⟩ := hn
        obtain ⟨j, hj⟩ := exists_eq_extended_fraction d hne
        rw [hk, Binary64.ofDecimal_extended]
        conv_rhs => rw [hj, Binary64.ofDecimal_extended]
      rw [magnitudeChars]
      split
      · obtain ⟨n, hn, hdenotes⟩ := exists_numeral_positional (significant d.coefficient hne)
          ((Nat.toDigits 10 d.coefficient).length + d.exponent)
        exact ⟨n, hn, hread hdenotes⟩
      · obtain ⟨n, hn, hdenotes⟩ := exists_numeral_scientific (significant d.coefficient hne)
          ((Nat.toDigits 10 d.coefficient).length + d.exponent - 1)
        rw [Int.sub_add_cancel] at hdenotes
        exact ⟨n, hn, hread hdenotes⟩
  obtain ⟨n, hn, hread⟩ := hmagnitude
  refine ⟨n, ?_, hread⟩
  rw [toChars, hn]
  cases d.negative <;> rfl

end Decimal

namespace Text

/-! ## Reading

A numeral is read as the decimal number that it denotes. Blanks and underscores, which are allowed
in what is read, do not occur in it. -/

/-- Where nothing is blank, nothing is taken away. -/
theorem trimBoth_eq_self {p : Char → Bool} {cs : List Char} (h : ∀ c ∈ cs, p c = false) :
    trimBoth p cs = cs := by
  -- once from the front, and once from the back
  have hdrop : ∀ ds : List Char, (∀ c ∈ ds, p c = false) → ds.dropWhile p = ds := by
    intro ds hds
    cases ds with
    | nil => rfl
    | cons c ds =>
      rw [List.dropWhile_cons_of_neg]
      simp [hds c List.mem_cons_self]
  rw [trimBoth, hdrop cs h, hdrop cs.reverse fun c hc => h c (List.mem_reverse.mp hc),
    List.reverse_reverse]

theorem asciiForm_eq_self {c : Char} (h : c.toNat < 127) : asciiForm c = c :=
  if_pos h

theorem numeralChars_eq_self {cs : List Char} (hascii : ∀ c ∈ cs, c.toNat < 127)
    (hblank : ∀ c ∈ cs, isNumeralBlank c = false) : numeralChars (String.ofList cs) = cs := by
  have hmap : cs.map asciiForm = cs := by
    rw [List.map_congr_left fun c hc => asciiForm_eq_self (hascii c hc), List.map_id']
  rw [numeralChars, String.toList_ofList, hmap, trimBoth_eq_self hblank]

/-- Characters without underscores are left as they are. -/
theorem ungroupedFrom?_eq_self {cs : List Char} (h : '_' ∉ cs) (afterDigit : Bool) :
    ungroupedFrom? afterDigit cs = some cs := by
  induction cs generalizing afterDigit with
  | nil => rfl
  | cons c cs ih =>
    obtain ⟨hc, hcs⟩ := not_or.mp (mt List.mem_cons.mpr h)
    rw [ungroupedFrom?, if_neg (Ne.symm hc), ih hcs]
    · rfl
    · rintro d ds rfl
      exact absurd rfl hc

end Text

namespace Decimal.Numeral

/-- Where the characters of a numeral lie among all characters. -/
theorem bounds_of_mem_chars {n : Numeral} {c : Char} (h : c ∈ n.chars) :
    43 ≤ c.toNat ∧ c.toNat ≤ 101 ∧ c ≠ '_' := by
  rcases mem_chars h with h | h
  · obtain ⟨hlower, hupper⟩ : 48 ≤ c.toNat ∧ c.toNat ≤ 57 := Char.isDigit_iff_toNat.mp h
    exact ⟨by omega, by omega, ne_of_isDigit h rfl⟩
  · simp only [List.mem_cons, List.not_mem_nil, or_false] at h
    rcases h with rfl | rfl | rfl | rfl <;> decide

/-- A numeral starts with a digit. -/
theorem exists_chars_eq_cons (n : Numeral) : ∃ c cs, n.chars = c :: cs ∧ c.isDigit = true := by
  cases hwhole : n.whole.chars with
  | nil => exact absurd hwhole n.whole.ne_nil
  | cons c cs =>
    refine ⟨c, cs ++ (fractionChars n.fraction? ++ powerChars n.exponent?), ?_, ?_⟩
    · rw [chars, hwhole, List.cons_append]
    · exact n.whole.isDigit c (hwhole ▸ List.mem_cons_self)

end Decimal.Numeral

namespace Binary64

/-- A sign in front of a digit is taken off. -/
theorem splitSign_append {c : Char} (h : c.isDigit = true) (negative : Bool) (cs : List Char) :
    Text.splitSign (signChars negative ++ c :: cs) = (negative, c :: cs) := by
  cases negative with
  | true => rfl
  | false =>
    rw [signChars, if_neg Bool.false_ne_true, List.nil_append, Text.splitSign]
    · intro _ heq
      exact ne_of_isDigit h rfl (List.cons.inj heq).1
    · intro _ heq
      exact ne_of_isDigit h rfl (List.cons.inj heq).1

theorem toLower_of_isDigit {c : Char} (h : c.isDigit = true) : c.toLower = c := by
  obtain ⟨-, hupper⟩ : 48 ≤ c.toNat ∧ c.toNat ≤ 57 := Char.isDigit_iff_toNat.mp h
  refine dif_neg ?_
  rintro ⟨hlower, -⟩
  have : 65 ≤ c.toNat := hlower
  omega

/-- A numeral behind a sign is read. -/
theorem ofChars?_numeral (n : Decimal.Numeral) (negative : Bool) :
    ofChars? (signChars negative ++ n.chars) = some (ofDecimal (n.decimal negative)) := by
  obtain ⟨c, cs, hchars, hc⟩ := n.exists_chars_eq_cons
  -- the names of infinities and of no number start with letters
  have hlower := toLower_of_isDigit hc
  have hi : c ≠ 'i' := ne_of_isDigit hc rfl
  have hn : c ≠ 'n' := ne_of_isDigit hc rfl
  have hread := Decimal.readMagnitude?_chars n negative
  rw [hchars] at hread
  rw [ofChars?, hchars, splitSign_append hc]
  simp [hlower, hi, hn, hread]

/-- The text of a numeral behind a sign is read as the nearest number. It has no blanks and no
underscores, so nothing is taken out of it before it is read. -/
theorem ofText?_numeral (n : Decimal.Numeral) (negative : Bool) :
    ofText? (String.ofList (signChars negative ++ n.chars))
      = some (ofDecimal (n.decimal negative)) := by
  -- no blank, no character of another script and no underscore lies in this range
  have hbounds : ∀ c ∈ signChars negative ++ n.chars,
      43 ≤ c.toNat ∧ c.toNat ≤ 101 ∧ c ≠ '_' := by
    intro c hc
    rcases List.mem_append.mp hc with hc | hc
    · cases negative with
      | true =>
        obtain rfl := List.mem_singleton.mp hc
        decide
      | false => cases hc
    · exact Decimal.Numeral.bounds_of_mem_chars hc
  have hascii : ∀ c ∈ signChars negative ++ n.chars, c.toNat < 127 := by
    intro c hc
    have := hbounds c hc
    omega
  have hblank : ∀ c ∈ signChars negative ++ n.chars, Text.isNumeralBlank c = false := by
    intro c hc
    have := hbounds c hc
    have hspace : c ≠ ' ' := by
      rintro rfl
      simp at this
    simp [Text.isNumeralBlank, hspace]
    omega
  have hgroup : '_' ∉ signChars negative ++ n.chars := fun hc => (hbounds _ hc).2.2 rfl
  rw [ofText?, Text.numeralChars_eq_self hascii hblank, Text.ungrouped?,
    Text.ungroupedFrom?_eq_self hgroup]
  exact ofChars?_numeral n negative

end Binary64

namespace Number

/-! ## Numbers -/

/-- A numeral behind a sign is no integer. -/
theorem integerDigits?_numeral (n : Decimal.Numeral) (negative : Bool) :
    integerDigits? (Binary64.signChars negative ++ n.chars) = none := by
  obtain ⟨d, hd, hnot⟩ := n.exists_not_isDigit
  have hall : n.chars.all Char.isDigit = false := List.all_eq_false.mpr ⟨d, hd, by simp [hnot]⟩
  obtain ⟨c, cs, hchars, hc⟩ := n.exists_chars_eq_cons
  have hminus : c ≠ '-' := ne_of_isDigit hc rfl
  rw [hchars] at hall ⊢
  cases negative <;> simp [Binary64.signChars, integerDigits?, hminus, hall]

/-- What is written for a finite number as such is a numeral behind a sign, and the number is the
one that this numeral is rounded to. -/
theorem exists_text_eq {x : Binary64} (h : x.isFinite = true) :
    ∃ (negative : Bool) (n : Decimal.Numeral),
      x.text = String.ofList (Binary64.signChars negative ++ n.chars) ∧
        Binary64.ofDecimal (n.decimal negative) = x := by
  cases x with
  | infinite negative => cases h
  | nan => cases h
  | finite negative r =>
    obtain ⟨n, hn, hread⟩ := Decimal.exists_numeral
      (Binary64.shortest (.finite negative r) (Binary64.exactDecimal negative r))
    refine ⟨_, n, ?_, hread.trans (Binary64.ofDecimal_shortest negative r)⟩
    rw [← hn]
    rfl

/-- **What is written for a finite number as such** is read as that number: what is written is a
decimal number that rounds to it (`Binary64.ofDecimal_shortest`), as a sign and a numeral. -/
theorem ofText_text_float {x : Binary64} (h : x.isFinite = true) :
    ofText x.text = .ok (.float x) := by
  obtain ⟨negative, n, htext, hread⟩ := exists_text_eq h
  rw [htext, ofText, String.toList_ofList, integerDigits?_numeral, Binary64.ofText?_numeral, hread]

/-- The integers that double precision numbers are written as are not too long to be written. -/
theorem natAbs_lt_of_shownInteger? {x : Binary64} {n : Int} (h : shownInteger? x = some n) :
    n.natAbs < 10 ^ maxIntegerDigits := by
  have hbound : n.natAbs < exactIntegerBound := by
    simpa using (Option.filter_eq_some_iff.mp h).2
  exact Nat.lt_trans hbound (by decide +kernel)

/-- A double precision number can always be written. -/
theorem exists_text_float (x : Binary64) : ∃ t, (Number.float x).text = .ok t := by
  cases hshown : shownInteger? x with
  | none => exact ⟨x.text, by rw [text, hshown]⟩
  | some n =>
    refine ⟨toString n, ?_⟩
    rw [text, hshown]
    exact integerText_eq_toString (natAbs_lt_of_shownInteger? hshown)

/-- **What is written for a number** is read as a finite number again, which is written in the same
way; an integral double precision number may be read as an integer. -/
theorem exists_ofText_text {v : Number} (hv : v.isFinite = true) {t : String}
    (h : v.text = .ok t) :
    ∃ w, ofText t = .ok w ∧ w.isFinite = true ∧ w.text = .ok t := by
  -- integers and integral numbers are written alike, and read as integers
  have hinteger : ∀ n : Int, integerText n = .ok t →
      ∃ w, ofText t = .ok w ∧ w.isFinite = true ∧ w.text = .ok t := by
    intro n hn
    have hbound := natAbs_lt_of_integerText hn
    obtain rfl := eq_toString_of_integerText hn
    exact ⟨.int n, ofText_toString hbound, rfl, hn⟩
  cases v with
  | int n => exact hinteger n h
  | float x =>
    have hwritten := h
    cases hshown : shownInteger? x with
    | some n =>
      rw [text, hshown] at h
      exact hinteger n h
    | none =>
      rw [text, hshown] at h
      obtain rfl := Except.ok.inj h
      exact ⟨.float x, ofText_text_float hv, hv, hwritten⟩

end Number
end Abacus
