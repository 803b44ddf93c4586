import Iocost.Proofs.Binary64.Bits
import Iocost.Proofs.Binary64.Nearest
import Iocost.Proofs.Binary64.Reading

/-!
# The notation of numbers

What is written for a finite number is a decimal numeral (`Numeral`) of which the number is the
nearest one. Numbers in the range of the notation without an exponent have digits on both sides of
the point (`Numeral.IsPositional`), the others one digit before it, which is not zero, and an
exponent (`Numeral.IsScientific`). The text is read as the very same number, so different numbers
have different texts (`number_text_reads_back`).
-/

namespace Iocost

/-- A number in decimal notation, as it is written. -/
structure Numeral where
  negative : Bool
  /-- The digits before the point. -/
  whole : List Char
  /-- The digits behind the point. There is no point without them. -/
  part : List Char
  /-- The minus sign and the digits of the exponent. -/
  exponent : Option (Bool × List Char)

namespace Numeral

def exponentText : Option (Bool × List Char) → List Char
  | none => []
  | some (negative, digits) => 'e' :: (if negative then '-' else '+') :: digits

def exponentValue : Option (Bool × List Char) → Int
  | none => 0
  | some (negative, digits) =>
    if negative then -(Nat.ofDigitChars 10 digits 0) else Nat.ofDigitChars 10 digits 0

/-- The text without its sign. -/
def unsignedText (x : Numeral) : List Char :=
  x.whole ++ (if x.part = [] then [] else '.' :: x.part) ++ exponentText x.exponent

def text (x : Numeral) : List Char := Binary64.signText x.negative ++ x.unsignedText

/-- The value without its sign. -/
def decimal (x : Numeral) : Decimal :=
  ⟨Nat.ofDigitChars 10 (x.whole ++ x.part) 0, exponentValue x.exponent - x.part.length⟩

def toRat (x : Numeral) : ℚ := Binary64.signed x.negative x.decimal.toRat

/-- Digits stand where digits belong, at least one of them before the point. -/
structure IsValid (x : Numeral) : Prop where
  whole_ne_nil : x.whole ≠ []
  digits : ∀ c ∈ x.whole ++ x.part, c.isDigit = true
  exponent_digits : ∀ e ∈ x.exponent, e.2 ≠ [] ∧ ∀ c ∈ e.2, c.isDigit = true

/-- There are digits on both sides of a point, and there is no exponent. -/
structure IsPositional (x : Numeral) : Prop extends x.IsValid where
  part_ne_nil : x.part ≠ []
  exponent_eq : x.exponent = none

/-- One digit that is not zero stands before the point, the exponent has at least two digits, and no
zero stands behind the other digits or before those of an exponent that has more than two. -/
structure IsScientific (x : Numeral) : Prop extends x.IsValid where
  whole_eq : ∃ c, x.whole = [c] ∧ c ≠ '0'
  part_last : x.part.getLast? ≠ some '0'
  exponent_eq : ∃ negative digits, x.exponent = some (negative, digits) ∧
    2 ≤ digits.length ∧ (2 < digits.length → digits.head? ≠ some '0')

variable {x : Numeral}

theorem readExponent?_exponentText {e : Option (Bool × List Char)}
    (h : ∀ e' ∈ e, e'.2 ≠ [] ∧ ∀ c ∈ e'.2, c.isDigit = true) :
    Binary64.readExponent? (exponentText e) = some (exponentValue e) := by
  match e with
  | none => rfl
  | some (negative, digits) =>
    obtain ⟨hne, hdigits⟩ := h _ rfl
    have hall : digits ≠ [] ∧ digits.all Char.isDigit = true :=
      ⟨hne, List.all_eq_true.mpr hdigits⟩
    cases negative <;> simp [exponentText, exponentValue, Binary64.readExponent?,
      Binary64.splitSign, hall]

theorem isDigit_of_mem_head?_exponentText (e : Option (Bool × List Char)) :
    ∀ c ∈ (exponentText e).head?, c.isDigit = false := by
  cases e <;> simp [exponentText]

/-- A numeral is read as the decimal that it stands for. -/
theorem IsValid.readDecimal?_unsignedText (h : x.IsValid) :
    Binary64.readDecimal? x.unsignedText = some x.decimal := by
  have hwhole := fun c hc => h.digits c (List.mem_append_left x.part hc)
  have hpart := fun c hc => h.digits c (List.mem_append_right x.whole hc)
  have hexponent := readExponent?_exponentText h.exponent_digits
  have hhead := isDigit_of_mem_head?_exponentText x.exponent
  by_cases hnil : x.part = []
  · have hpoint : (exponentText x.exponent).head? ≠ some '.' := by
      cases x.exponent <;> simp [exponentText]
    have hread := Binary64.readDecimal?_whole hwhole hhead hpoint h.whole_ne_nil hexponent
    simpa [unsignedText, decimal, hnil] using hread
  · simp only [unsignedText, hnil, if_false, List.append_assoc, List.cons_append]
    exact Binary64.readDecimal?_point hwhole hpart hhead h.whole_ne_nil hexponent

/-- A minus sign stands before the digits of a negative numeral only. -/
theorem IsValid.head?_text (h : x.IsValid) : x.text.head? = some '-' ↔ x.negative = true := by
  obtain ⟨c, cs, hcs⟩ := List.exists_cons_of_ne_nil h.whole_ne_nil
  have hdigit : c.isDigit = true := h.digits c (by simp [hcs])
  have hc : c ≠ '-' := by
    rintro rfl
    exact absurd hdigit (by decide)
  cases hneg : x.negative <;> simp [text, unsignedText, Binary64.signText, hneg, hcs, hc]

theorem isPositional_of_digits (negative : Bool) {whole part : List Char} (hwhole : whole ≠ [])
    (hpart : part ≠ []) (hdigits : ∀ c ∈ whole ++ part, c.isDigit = true) :
    (⟨negative, whole, part, none⟩ : Numeral).IsPositional where
  whole_ne_nil := hwhole
  digits := hdigits
  exponent_digits := by simp
  part_ne_nil := hpart
  exponent_eq := rfl

end Numeral

/-! ## Written decimals -/

namespace Decimal

variable {d : Decimal}

theorem head?_toDigits_ne_zero {n : Nat} (hn : 0 < n) : (Nat.toDigits 10 n).head? ≠ some '0' := by
  induction n using Nat.strongRecOn with
  | ind n ih =>
    rcases Nat.lt_or_ge n 10 with hlt | hge
    · rw [Nat.toDigits_of_lt_base hlt]
      intro hhead
      exact Nat.ne_of_gt hn (digitChar_eq_zero hlt (Option.some.inj hhead))
    · rw [Nat.toDigits_of_base_le (by decide) hge,
        List.head?_append_of_ne_nil _ Nat.toDigits_ne_nil]
      exact ih (n / 10) (by omega) (by omega)

/-- The significant digits neither begin nor end with a zero. -/
theorem exists_significant (hd : d.digits ≠ 0) : ∃ c cs, d.significant = c :: cs ∧ c ≠ '0' ∧
    cs.getLast? ≠ some '0' ∧ ∀ c' ∈ c :: cs, c'.isDigit = true := by
  obtain ⟨c, cs, hcs, hc⟩ := Text.exists_toDigits_eq_cons d.digits
  refine ⟨c, cs.rdropWhile (· == '0'), significant_eq_rdropWhile hcs, ?_, ?_, ?_⟩
  · rintro rfl
    exact head?_toDigits_ne_zero (Nat.pos_of_ne_zero hd) (by rw [hcs, List.head?_cons])
  · intro hlast
    obtain ⟨hne, heq⟩ := List.mem_getLast?_eq_getLast hlast
    exact List.rdropWhile_last_not _ _ hne (by rw [← heq]; rfl)
  · intro c' hc'
    rcases List.mem_cons.mp hc' with rfl | hmem
    · exact hc
    · exact Text.isDigit_of_mem_toDigits
        (hcs ▸ List.mem_cons_of_mem c ((List.rdropWhile_prefix _ _).subset hmem))

theorem exists_isPositional (hd : d.digits ≠ 0) (negative : Bool) :
    ∃ x : Numeral, x.negative = negative ∧ x.unsignedText = d.positional ∧ x.IsPositional := by
  obtain ⟨c, cs, hcs, -, -, hdigits⟩ := exists_significant hd
  suffices h : ∃ whole part, d.positional = whole ++ '.' :: part ∧ whole ≠ [] ∧ part ≠ [] ∧
      ∀ c' ∈ whole ++ part, c' ∈ c :: cs ∨ c' = '0' by
    obtain ⟨whole, part, htext, hwhole, hpart, hall⟩ := h
    refine ⟨⟨negative, whole, part, none⟩, rfl, ?_,
      Numeral.isPositional_of_digits negative hwhole hpart fun c' hc' => ?_⟩
    · simp [Numeral.unsignedText, Numeral.exponentText, hpart, htext]
    · rcases hall c' hc' with hmem | rfl
      · exact hdigits c' hmem
      · rfl
  simp only [positional, hcs]
  split
  case h_1 k horder =>
    exact ⟨['0'], List.replicate (k + 1) '0' ++ c :: cs, rfl, by simp, by simp, by simp; tauto⟩
  case h_2 => exact ⟨['0'], c :: cs, rfl, by simp, by simp, by simp; tauto⟩
  case h_3 k hne horder =>
    split
    case isTrue hlt =>
      refine ⟨(c :: cs).take k, (c :: cs).drop k, rfl, ?_, ?_, ?_⟩
      · simpa using fun hzero : k = 0 => hne hzero
      · simpa using hlt
      · rw [List.take_append_drop]
        exact fun _ => .inl
    case isFalse hge =>
      refine ⟨c :: cs ++ List.replicate (k - (c :: cs).length) '0', ['0'], ?_, by simp, by simp, ?_⟩
      · simp
      · simp; tauto

theorem exists_exponentText (e : Int) : ∃ negative digits,
    Numeral.exponentText (some (negative, digits)) = 'e' :: exponentText e ∧
    (∀ c ∈ digits, c.isDigit = true) ∧ 2 ≤ digits.length ∧
    (2 < digits.length → digits.head? ≠ some '0') := by
  refine ⟨decide (e < 0), List.replicate (2 - (Nat.toDigits 10 e.natAbs).length) '0' ++
    Nat.toDigits 10 e.natAbs, by simp [Numeral.exponentText, exponentText],
    fun _ => Text.isDigit_of_mem_replicate_append, ?_, fun hlong => ?_⟩
  · rw [List.length_append, List.length_replicate]
    omega
  · -- nothing is padded, and zero has one digit only
    rw [List.length_append, List.length_replicate] at hlong
    have hlength : 2 < (Nat.toDigits 10 e.natAbs).length := by omega
    have hpos : 0 < e.natAbs := Nat.pos_of_ne_zero fun hzero => by
      rw [hzero, Nat.toDigits_zero] at hlength
      exact absurd hlength (by decide)
    rw [Nat.sub_eq_zero_of_le (by omega), List.replicate_zero, List.nil_append]
    exact head?_toDigits_ne_zero hpos

theorem exists_isScientific (hd : d.digits ≠ 0) (negative : Bool) :
    ∃ x : Numeral, x.negative = negative ∧ x.unsignedText = d.scientific ∧ x.IsScientific := by
  obtain ⟨c, cs, hcs, hc, hlast, hdigits⟩ := exists_significant hd
  obtain ⟨negative', digits, htext, hdigits', hlong, hhead⟩ := exists_exponentText (d.order - 1)
  refine ⟨⟨negative, [c], cs, some (negative', digits)⟩, rfl, ?_, ?_⟩
  · simp only [scientific, hcs]
    cases cs <;> simp [Numeral.unsignedText, htext]
  · refine ⟨⟨by simp, hdigits, ?_⟩, ⟨c, rfl, hc⟩, hlast, negative', digits, rfl, hlong, hhead⟩
    rintro _ ⟨⟩
    exact ⟨by rintro rfl; simp at hlong, hdigits'⟩

end Decimal

/-! ## Written numbers -/

namespace Magnitude

theorem exists_units_of_isFinite {negative : Bool} {d : Decimal}
    (h : (Binary64.ofDecimal negative d).isFinite = true) :
    ∃ k, Binary64.ofDecimal negative d = .finite negative k ∧
      k.units = roundUnits (d.quotient.1 * one) d.quotient.2 := by
  rw [Binary64.ofDecimal_eq_ofUnits] at h ⊢
  obtain ⟨k, hk⟩ := Binary64.exists_of_isFinite_ofUnits h
  exact ⟨k, hk, Binary64.units_of_ofUnits hk⟩

theorem positionalRange_eq : ∃ low high, positionalRange = (.finite false low, .finite false high) ∧
    low.units = roundUnits (1 * one) (10 ^ 4) ∧ high.units = 10 ^ 16 * one := by
  have hlow : (Binary64.ofDecimal false ⟨1, -4⟩).isFinite = true := by decide +kernel
  have hhigh : (Binary64.ofDecimal false ⟨1, 16⟩).isFinite = true := by decide +kernel
  have hexact : roundUnits (10 ^ 16 * one) 1 = 10 ^ 16 * one := by decide +kernel
  obtain ⟨low, hlow, hlowUnits⟩ := exists_units_of_isFinite hlow
  obtain ⟨high, hhigh, hhighUnits⟩ := exists_units_of_isFinite hhigh
  have hquotient : (⟨1, -4⟩ : Decimal).quotient = (1, 10 ^ 4) := rfl
  have hquotient' : (⟨1, 16⟩ : Decimal).quotient = (10 ^ 16, 1) := rfl
  simp only [hquotient] at hlowUnits
  simp only [hquotient', hexact] at hhighUnits
  exact ⟨low, high, by rw [positionalRange, hlow, hhigh], hlowUnits, hhighUnits⟩

variable (m : Magnitude)

/-- The least number that is written without an exponent is above `10 ^ -4`, and no other number is
between the two. -/
theorem roundUnits_le_units_iff :
    roundUnits (1 * one) (10 ^ 4) ≤ m.units ↔ 1 * one ≤ m.units * 10 ^ 4 := by
  have habove : 1 * one ≤ roundUnits (1 * one) (10 ^ 4) * 10 ^ 4 := by decide +kernel
  constructor
  · intro h
    exact Nat.le_trans habove (Nat.mul_le_mul_right _ h)
  · exact roundUnits_le (by decide) m.precise

theorem inPositionalRange_iff :
    (positionalRange.1.le (.finite false m) && Binary64.lt (.finite false m) positionalRange.2) =
        true ↔
      1 / 10 ^ 4 ≤ (m.units / one : ℚ) ∧ (m.units / one : ℚ) < 10 ^ 16 := by
  obtain ⟨low, high, hrange, hlow, hhigh⟩ := positionalRange_eq
  have hone := cast_one_pos
  have hle : positionalRange.1.le (.finite false m) = true ↔ low.units ≤ m.units := by
    simp [hrange, Binary64.le, Binary64.rank?]
  have hlt : Binary64.lt (.finite false m) positionalRange.2 = true ↔ m.units < high.units := by
    simp [hrange, Binary64.lt, Binary64.rank?]
  rw [Bool.and_eq_true, hle, hlt, hlow, hhigh, roundUnits_le_units_iff,
    div_le_div_iff₀ (by norm_num) hone, div_lt_iff₀ hone]
  refine and_congr ?_ ?_
  · rw [← Nat.cast_le (α := ℚ), Nat.cast_mul, Nat.cast_mul, Nat.cast_one, Nat.cast_pow,
      Nat.cast_ofNat]
  · rw [← Nat.cast_lt (α := ℚ), Nat.cast_mul, Nat.cast_pow, Nat.cast_ofNat]

theorem isNearest_of_unsignedText {x : Numeral} (h : x.IsValid)
    (htext : x.unsignedText = magnitudeText m) :
    (Binary64.finite x.negative m).IsNearest x.toRat := by
  obtain ⟨d, ⟨-, d', hread, hvalue⟩, hback⟩ := m.exists_reads_magnitudeText
  rw [← htext, h.readDecimal?_unsignedText, Option.some_inj] at hread
  have hdecimal : Binary64.ofDecimal x.negative x.decimal = .finite x.negative m := by
    rw [hread, hvalue, Binary64.ofDecimal_of_nonnegative hback]
  rw [← hdecimal]
  exact Binary64.isNearest_ofDecimal (by rw [hdecimal]; rfl)

end Magnitude

namespace Binary64

open Magnitude (one)

/-- Zero and the values from `10 ^ -4` to below `10 ^ 16` are written without an exponent. -/
def InPositionalRange (x : ℚ) : Prop := x = 0 ∨ (1 / 10 ^ 4 ≤ |x| ∧ |x| < 10 ^ 16)

theorem toRat_eq_zero_iff {negative : Bool} {m : Magnitude} :
    (Binary64.finite negative m).toRat = 0 ↔ m.units = 0 := by
  rw [toRat_finite, signed_eq_zero_iff, div_eq_zero_iff, or_iff_left Magnitude.cast_one_pos.ne',
    Nat.cast_eq_zero]

theorem abs_toRat (negative : Bool) (m : Magnitude) :
    |(Binary64.finite negative m).toRat| = m.units / one := by
  have hunits : (0 : ℚ) ≤ m.units / one :=
    div_nonneg m.units.cast_nonneg Magnitude.cast_one_pos.le
  rw [toRat_finite, abs_signed, abs_of_nonneg hunits]

theorem exists_numeral (negative : Bool) (m : Magnitude) :
    ∃ x : Numeral, x.negative = negative ∧ x.unsignedText = magnitudeText m ∧
      (InPositionalRange (Binary64.finite negative m).toRat → x.IsPositional) ∧
      (¬InPositionalRange (Binary64.finite negative m).toRat → x.IsScientific) := by
  by_cases hzero : m.units = 0
  · refine ⟨⟨negative, ['0'], ['0'], none⟩, rfl, ?_, fun _ => ?_, fun hrange => ?_⟩
    · rw [magnitudeText, if_pos hzero]
      rfl
    · exact Numeral.isPositional_of_digits negative (by simp) (by simp) (by simp)
    · exact absurd (.inl (toRat_eq_zero_iff.mpr hzero)) hrange
  · have hdigits :=
      Magnitude.digits_ne_zero_of_readsBack hzero (m.readsBack_shortest hzero)
    have hrange : InPositionalRange (Binary64.finite negative m).toRat ↔
        (positionalRange.1.le (.finite false m) &&
          Binary64.lt (.finite false m) positionalRange.2) = true := by
      rw [InPositionalRange, toRat_eq_zero_iff, or_iff_right hzero, abs_toRat,
        m.inPositionalRange_iff]
    rw [hrange, magnitudeText, if_neg hzero]
    split
    case isTrue hpositional =>
      obtain ⟨x, hsign, htext, hx⟩ := Decimal.exists_isPositional hdigits negative
      exact ⟨x, hsign, htext, fun _ => hx, fun hnot => absurd hpositional hnot⟩
    case isFalse hscientific =>
      obtain ⟨x, hsign, htext, hx⟩ := Decimal.exists_isScientific hdigits negative
      exact ⟨x, hsign, htext, fun hyes => absurd hyes hscientific, fun _ => hx⟩

theorem numberText_injective : Function.Injective numberText := by
  intro v w h
  have hread := read_numberText v
  rw [h, read_numberText] at hread
  exact (Except.ok.inj hread).symm

/-- The texts of the other values, and the zero without a point, are not written for a finite
number. -/
theorem numberText_not_mem {v : Binary64} (hv : v.isFinite = true) :
    String.ofList (numberText v) ∉ ["0", "nan", "inf", "-inf"] := by
  have hother {w : Binary64} (hw : w.isFinite = false) : numberText v ≠ numberText w := fun h => by
    rw [numberText_injective h, hw] at hv
    cases hv
  have hzero : numberText v ≠ ['0'] := fun h => by
    have hread := read_numberText v
    rw [h] at hread
    have hvalue : v = zero := (Except.ok.inj hread).symm
    rw [hvalue] at h
    exact absurd h (by decide)
  have hnan : numberText v ≠ ['n', 'a', 'n'] := hother (w := .nan) rfl
  have hinf : numberText v ≠ ['i', 'n', 'f'] := hother (w := .infinite false) rfl
  have hminus : numberText v ≠ ['-', 'i', 'n', 'f'] := hother (w := .infinite true) rfl
  simp only [List.mem_cons, List.not_mem_nil, or_false, ← String.toList_inj, String.toList_ofList]
  exact fun h => h.elim hzero fun h => h.elim hnan fun h => h.elim hinf hminus

end Binary64

open Binary64 in
/-- **The text of a number reads back.** What is written for a finite number is a numeral with the
number as its nearest one, without an exponent exactly in the range of that notation, and with a
minus sign exactly when the first bit is set. Reading it gives all 64 bits back, so numbers with the
same text are the same, and no finite number has one of the texts that stand for something else. -/
theorem number_text_reads_back :
    (∀ bits : UInt64, (ofBits bits).isFinite = true →
      (read (String.ofList (numberText (ofBits bits)))).map toBits = .ok bits ∧
      (∃ x : Numeral, numberText (ofBits bits) = x.text ∧ (ofBits bits).IsNearest x.toRat ∧
        x.negative = bits.toNat.testBit 63 ∧
        (InPositionalRange (ofBits bits).toRat → x.IsPositional) ∧
        (¬InPositionalRange (ofBits bits).toRat → x.IsScientific)) ∧
      ((numberText (ofBits bits)).head? = some '-' ↔ bits.toNat.testBit 63 = true) ∧
      String.ofList (numberText (ofBits bits)) ∉ ["0", "nan", "inf", "-inf"]) ∧
    (∀ bits bits' : UInt64, (ofBits bits).isNaN = false → (ofBits bits').isNaN = false →
      numberText (ofBits bits) = numberText (ofBits bits') → bits = bits') := by
  constructor
  · intro bits hfinite
    have hnumber : (ofBits bits).isNaN = false := by
      cases h : ofBits bits <;> simp_all [isFinite, isNaN]
    have hback : (ofBits bits).toBits = bits := toBits_ofBits hnumber
    obtain ⟨negative, m, hm⟩ := exists_of_isFinite hfinite
    obtain ⟨x, rfl, htext, hpositional, hscientific⟩ := exists_numeral negative m
    have hvalid : x.IsValid := by
      by_cases hrange : InPositionalRange (Binary64.finite x.negative m).toRat
      · exact (hpositional hrange).toIsValid
      · exact (hscientific hrange).toIsValid
    have hwritten : numberText (ofBits bits) = x.text := by
      rw [hm, numberText, Numeral.text, htext]
    have hsign : bits.toNat.testBit 63 = x.negative := negative_of_ofBits hm
    refine ⟨?_, ⟨x, hwritten, ?_, hsign.symm, ?_, ?_⟩, ?_, ?_⟩
    · rw [read_numberText, Except.map, hback]
    · rw [hm]
      exact m.isNearest_of_unsignedText hvalid htext
    · rwa [hm]
    · rwa [hm]
    · rw [hwritten, hvalid.head?_text, hsign]
    · exact numberText_not_mem hfinite
  · intro bits bits' hbits hbits' htext
    rw [← toBits_ofBits hbits, ← toBits_ofBits hbits', numberText_injective htext]

/-- The number next to zero, the least one without an exponent, and the zero with a minus sign. -/
theorem number_text_reads_back_bounds :
    (Binary64.read "5e-324").map Binary64.toBits = .ok 1 ∧
      (Binary64.read "0.0001").map Binary64.toBits = .ok 0x3f1a36e2eb1c432d ∧
      (Binary64.read "-0.0").map Binary64.toBits = .ok 0x8000000000000000 ∧
      Binary64.ofBits 0 ≠ Binary64.ofBits 0x8000000000000000 := by
  have hback {bits : UInt64} {text : String} (hfinite : (Binary64.ofBits bits).isFinite = true)
      (htext : String.ofList (numberText (Binary64.ofBits bits)) = text) :
      (Binary64.read text).map Binary64.toBits = .ok bits :=
    htext ▸ (number_text_reads_back.1 bits hfinite).1
  refine ⟨hback (by decide +kernel) (by decide +kernel),
    hback (by decide +kernel) (by decide +kernel),
    hback (by decide +kernel) (by decide +kernel), fun h => ?_⟩
  have hsame : (0 : UInt64) = 0x8000000000000000 := number_text_reads_back.2 _ _
    (by decide +kernel) (by decide +kernel) (congrArg numberText h)
  exact absurd hsame (by decide)

end Iocost
