import Iocost.Binary64.Literal
import Iocost.Proofs.Binary64.Decimal
import Iocost.Proofs.Text.Integer
import Iocost.Sample.Number
import Mathlib.Data.List.DropRight
import Mathlib.Data.Nat.Factorization.Basic

/-!
# Numbers read back

A decimal that is written with its point in place or with an exponent is read as a decimal for the
same numbers (`Decimal.reads_positional`, `Decimal.reads_scientific`). So the text of a number is
read as that number, its sign included, and all values that are not numbers as one
(`Binary64.read_numberText`).
-/

namespace Iocost

/-! ## Digits without trailing zeros -/

namespace Decimal

theorem significant_eq_rdropWhile {d : Decimal} {c : Char} {cs : List Char}
    (h : Nat.toDigits 10 d.digits = c :: cs) :
    d.significant = c :: cs.rdropWhile (· == '0') := by
  rw [significant, h]
  rfl

theorem digitChar_eq_zero {n : Nat} (hn : n < 10) (h : n.digitChar = '0') : n = 0 := by
  have all : ∀ n < 10, n.digitChar = '0' → n = 0 := by decide
  exact all n hn h

/-- No digit but the first one is a zero at the end, when ten does not divide the number. -/
theorem rdropWhile_of_not_dvd {n : Nat} (hn : ¬10 ∣ n) {c : Char} {cs : List Char}
    (h : Nat.toDigits 10 n = c :: cs) : cs.rdropWhile (· == '0') = cs := by
  rcases Nat.lt_or_ge n 10 with hlt | hge
  · rw [Nat.toDigits_of_lt_base hlt] at h
    cases h
    rfl
  · obtain ⟨c', cs', hinit, -⟩ := Text.exists_toDigits_eq_cons (n / 10)
    rw [Nat.toDigits_of_base_le (by decide) hge, hinit, List.cons_append] at h
    cases h
    refine List.rdropWhile_concat_neg _ _ _ fun hzero => hn ?_
    exact Nat.dvd_of_mod_eq_zero
      (digitChar_eq_zero (Nat.mod_lt n (by decide)) (by simpa using hzero))

theorem rdropWhile_append_replicate (cs : List Char) (j : Nat) :
    (cs ++ List.replicate j '0').rdropWhile (· == '0') = cs.rdropWhile (· == '0') := by
  induction j with
  | zero => rw [List.replicate_zero, List.append_nil]
  | succ j ih =>
    rw [List.replicate_succ', ← List.append_assoc, List.rdropWhile_concat_pos _ _ _ rfl, ih]

/-- The decimal `digits * 10 ^ exponent` whose digits are the significant ones of `d`. -/
structure IsReduced (d : Decimal) (digits : Nat) (exponent : Int) : Prop where
  pos : 0 < digits
  significant_eq : d.significant = Nat.toDigits 10 digits
  order_eq : d.order = (Nat.toDigits 10 digits).length + exponent
  ofDecimal_eq : ∀ negative, Binary64.ofDecimal negative d =
    Binary64.ofDecimal negative ⟨digits, exponent⟩

theorem exists_isReduced {d : Decimal} (hd : d.digits ≠ 0) : ∃ n e, IsReduced d n e := by
  obtain ⟨digits, exponent⟩ := d
  obtain ⟨j, n, hn, rfl⟩ := Nat.exists_eq_pow_mul_and_not_dvd hd 10 (by decide)
  have hpos : 0 < n := Nat.pos_of_ne_zero fun hzero => hn (hzero ▸ Nat.dvd_zero 10)
  obtain ⟨c, cs, hcs, -⟩ := Text.exists_toDigits_eq_cons n
  rw [Nat.mul_comm]
  refine ⟨n, exponent + j, hpos, ?_, order_mul_pow hpos j exponent, fun negative =>
    Binary64.ofDecimal_mul_pow negative n j exponent⟩
  have hdigits : Nat.toDigits 10 (n * 10 ^ j) = c :: (cs ++ List.replicate j '0') := by
    rw [toDigits_mul_pow hpos, hcs, List.cons_append]
  rw [significant_eq_rdropWhile hdigits, rdropWhile_append_replicate,
    rdropWhile_of_not_dvd hn hcs, hcs]

end Decimal

/-! ## Reading digits -/

namespace Binary64

variable {whole part rest : List Char}

theorem readDecimal?_point {e : Int} (hwhole : ∀ c ∈ whole, c.isDigit)
    (hpart : ∀ c ∈ part, c.isDigit) (hrest : ∀ c ∈ rest.head?, c.isDigit = false)
    (hne : whole ≠ []) (he : readExponent? rest = some e) :
    readDecimal? (whole ++ '.' :: (part ++ rest)) =
      some ⟨Nat.ofDigitChars 10 (whole ++ part) 0, e - part.length⟩ := by
  have hpoint : ∀ c ∈ ('.' :: (part ++ rest)).head?, c.isDigit = false := by
    intro c hc
    cases hc
    rfl
  simp only [readDecimal?, Text.takeWhile_isDigit_append hwhole hpoint,
    Text.dropWhile_isDigit_append hwhole hpoint, Text.takeWhile_isDigit_append hpart hrest,
    Text.dropWhile_isDigit_append hpart hrest, hne, false_and, if_false, he, Option.map_some]

theorem readDecimal?_whole {e : Int} (hwhole : ∀ c ∈ whole, c.isDigit)
    (hrest : ∀ c ∈ rest.head?, c.isDigit = false) (hpoint : rest.head? ≠ some '.')
    (hne : whole ≠ []) (he : readExponent? rest = some e) :
    readDecimal? (whole ++ rest) = some ⟨Nat.ofDigitChars 10 whole 0, e⟩ := by
  simp only [readDecimal?, Text.takeWhile_isDigit_append hwhole hrest,
    Text.dropWhile_isDigit_append hwhole hrest]
  cases rest with
  | nil => simp [hne, he]
  | cons c cs =>
    have hc : c ≠ '.' := fun heq => hpoint (by rw [List.head?_cons, heq])
    simp [hc, hne, he]

theorem readDecimal?_exponent {e : Int} (hwhole : ∀ c ∈ whole, c.isDigit) (hne : whole ≠ [])
    (he : readExponent? ('e' :: rest) = some e) :
    readDecimal? (whole ++ 'e' :: rest) = some ⟨Nat.ofDigitChars 10 whole 0, e⟩ :=
  readDecimal?_whole hwhole (by simp) (by simp) hne he

theorem readExponent?_exponentText (e : Int) :
    readExponent? ('e' :: Decimal.exponentText e) = some e := by
  have hdigits (k : Nat) : List.replicate k '0' ++ Nat.toDigits 10 e.natAbs ≠ [] ∧
      (List.replicate k '0' ++ Nat.toDigits 10 e.natAbs).all Char.isDigit = true :=
    ⟨List.append_ne_nil_of_right_ne_nil _ Nat.toDigits_ne_nil,
      List.all_eq_true.mpr fun _ => Text.isDigit_of_mem_replicate_append⟩
  rw [readExponent?, if_pos (.inl rfl), Decimal.exponentText]
  rcases lt_or_ge e 0 with hneg | hneg
  · simp [hneg, splitSign, hdigits, Text.ofDigitChars_replicate_append,
      Int.ofNat_natAbs_of_nonpos (Int.le_of_lt hneg)]
  · simp [Int.not_lt.mpr hneg, splitSign, hdigits, Text.ofDigitChars_replicate_append,
      Int.natAbs_of_nonneg hneg]

end Binary64

/-! ## Written decimals -/

namespace Decimal

/-- The text begins with a digit and is read as a decimal for the numbers that `d` stands for. -/
structure Reads (cs : List Char) (d : Decimal) : Prop where
  digit : ∃ c rest, cs = c :: rest ∧ c.isDigit = true
  value : ∃ d', Binary64.readDecimal? cs = some d' ∧
    ∀ negative, Binary64.ofDecimal negative d' = Binary64.ofDecimal negative d

theorem exists_digit_cons {whole : List Char} (hwhole : ∀ c ∈ whole, c.isDigit) (hne : whole ≠ [])
    (rest : List Char) : ∃ c cs, whole ++ rest = c :: cs ∧ c.isDigit = true := by
  obtain ⟨c, cs, rfl⟩ := List.exists_cons_of_ne_nil hne
  exact ⟨c, cs ++ rest, rfl, hwhole c List.mem_cons_self⟩

variable {d : Decimal} {n j : Nat} {e x : Int} {whole part rest : List Char}

theorem IsReduced.reads (h : d.IsReduced n e) (hwhole : ∀ c ∈ whole, c.isDigit) (hne : whole ≠ [])
    (hcs : Binary64.readDecimal? (whole ++ rest) = some ⟨n * 10 ^ j, x⟩) (hexponent : x + j = e) :
    Reads (whole ++ rest) d := by
  refine ⟨exists_digit_cons hwhole hne rest, _, hcs, fun negative => ?_⟩
  rw [Binary64.ofDecimal_mul_pow, hexponent, h.ofDecimal_eq]

theorem IsReduced.reads_point (h : d.IsReduced n e) (hdigits : ∀ c ∈ whole ++ part, c.isDigit)
    (hrest : ∀ c ∈ rest.head?, c.isDigit = false) (hne : whole ≠ [])
    (hx : Binary64.readExponent? rest = some x)
    (hvalue : Nat.ofDigitChars 10 (whole ++ part) 0 = n * 10 ^ j)
    (hexponent : x - part.length + j = e) : Reads (whole ++ '.' :: (part ++ rest)) d := by
  have hwhole := fun c hc => hdigits c (List.mem_append_left part hc)
  have hpart := fun c hc => hdigits c (List.mem_append_right whole hc)
  have hread := Binary64.readDecimal?_point hwhole hpart hrest hne hx
  rw [hvalue] at hread
  exact h.reads hwhole hne hread hexponent

theorem IsReduced.reads_plain (h : d.IsReduced n e) (whole part : List Char)
    (hdigits : ∀ c ∈ whole ++ part, c.isDigit) (hne : whole ≠ [])
    (hvalue : Nat.ofDigitChars 10 (whole ++ part) 0 = n * 10 ^ j)
    (hexponent : e = j - part.length) : Reads (whole ++ '.' :: part) d := by
  have hend : ∀ c ∈ ([] : List Char).head?, c.isDigit = false := by simp
  have hread := h.reads_point hdigits hend hne rfl hvalue (by omega)
  rwa [List.append_nil] at hread

/-- All digits stand behind the point, with zeros between. -/
theorem IsReduced.reads_behind (h : d.IsReduced n e) {k : Nat} (horder : d.order = -(k : Int)) :
    Reads ('0' :: '.' :: (List.replicate k '0' ++ Nat.toDigits 10 n)) d := by
  have hlength := h.order_eq
  refine h.reads_plain (j := 0) ['0'] (List.replicate k '0' ++ Nat.toDigits 10 n)
    (fun _ => Text.isDigit_of_mem_replicate_append (k := k + 1)) (List.cons_ne_nil _ _) ?_ ?_
  · exact (Text.ofDigitChars_replicate_append (k + 1) n).trans (Nat.mul_one n).symm
  · simp only [List.length_append, List.length_replicate]
    omega

/-- The point stands between two digits. -/
theorem IsReduced.reads_between (h : d.IsReduced n e) {k : Nat} (hpos : 0 < k)
    (hlt : k < (Nat.toDigits 10 n).length) (horder : d.order = k) :
    Reads ((Nat.toDigits 10 n).take k ++ '.' :: (Nat.toDigits 10 n).drop k) d := by
  have hlength := h.order_eq
  refine h.reads_plain (j := 0) _ _ ?_ ?_ ?_ ?_
  · rw [List.take_append_drop]
    exact fun _ => Text.isDigit_of_mem_toDigits
  · rw [← List.length_pos_iff, List.length_take]
    omega
  · rw [List.take_append_drop, Nat.ofDigitChars_ten_toDigits, Nat.pow_zero, Nat.mul_one]
  · rw [List.length_drop]
    omega

/-- All digits stand before the point, with zeros between, and a zero behind it. -/
theorem IsReduced.reads_before (h : d.IsReduced n e) {k : Nat}
    (horder : d.order = (Nat.toDigits 10 n).length + (k : Int)) :
    Reads (Nat.toDigits 10 n ++ List.replicate k '0' ++ ['.', '0']) d := by
  have hlength := h.order_eq
  have hdigits : Nat.toDigits 10 n ++ List.replicate k '0' ++ ['0'] =
      Nat.toDigits 10 (n * 10 ^ (k + 1)) := by
    rw [List.append_assoc, ← List.replicate_succ', toDigits_mul_pow h.pos]
  refine h.reads_plain (j := k + 1) _ ['0'] ?_ ?_ ?_ ?_
  · rw [hdigits]
    exact fun _ => Text.isDigit_of_mem_toDigits
  · exact List.append_ne_nil_of_left_ne_nil Nat.toDigits_ne_nil _
  · rw [hdigits, Nat.ofDigitChars_ten_toDigits]
  · simp only [List.length_singleton]
    omega

theorem reads_positional (hd : d.digits ≠ 0) : Reads d.positional d := by
  obtain ⟨n, e, h⟩ := exists_isReduced hd
  simp only [positional, h.significant_eq]
  split
  case h_1 k horder => exact h.reads_behind (horder.trans (Int.negSucc_eq k))
  case h_2 horder => exact h.reads_behind (k := 0) horder
  case h_3 k hne horder =>
    split
    case isTrue hlt => exact h.reads_between (Nat.pos_of_ne_zero hne) hlt horder
    case isFalse hge =>
      -- the zeros fill up what the order has more than the digits
      refine h.reads_before (horder.trans ?_)
      rw [Int.ofNat_sub (Nat.not_lt.mp hge), Int.ofNat_eq_natCast]
      omega

theorem reads_scientific (hd : d.digits ≠ 0) : Reads d.scientific d := by
  obtain ⟨n, e, h⟩ := exists_isReduced hd
  have horder := h.order_eq
  have hexponent := Binary64.readExponent?_exponentText (d.order - 1)
  have hvalue : Nat.ofDigitChars 10 (Nat.toDigits 10 n) 0 = n * 10 ^ 0 := by
    rw [Nat.ofDigitChars_ten_toDigits, Nat.pow_zero, Nat.mul_one]
  have hdigits : ∀ c ∈ Nat.toDigits 10 n, c.isDigit = true :=
    fun c => Text.isDigit_of_mem_toDigits
  simp only [scientific, h.significant_eq]
  split
  case h_1 hnil => exact absurd hnil Nat.toDigits_ne_nil
  case h_2 c hc =>
    rw [hc] at hvalue hdigits horder
    have hread := Binary64.readDecimal?_exponent hdigits (List.cons_ne_nil c []) hexponent
    rw [hvalue] at hread
    refine h.reads hdigits (List.cons_ne_nil c []) hread ?_
    simp only [List.length_singleton] at horder
    omega
  case h_3 c cs hne hc =>
    rw [hc] at hvalue hdigits horder
    have hletter : ∀ c ∈ ('e' :: exponentText (d.order - 1)).head?, c.isDigit = false := by simp
    refine h.reads_point hdigits hletter (List.cons_ne_nil c []) hexponent hvalue ?_
    simp only [List.length_cons] at horder
    omega

end Decimal

namespace Magnitude

variable {m : Magnitude} {d : Decimal}

theorem eq_zero_of_units (h : m.units = 0) : m = zero := by
  cases m
  cases h
  rfl

theorem digits_ne_zero_of_readsBack (hne : m.units ≠ 0) (h : m.ReadsBack d) : d.digits ≠ 0 := by
  intro hzero
  rw [ReadsBack, Binary64.ofDecimal, if_pos hzero] at h
  cases h
  exact hne rfl

theorem exists_reads_magnitudeText (m : Magnitude) :
    ∃ d, Decimal.Reads (magnitudeText m) d ∧ m.ReadsBack d := by
  by_cases hzero : m.units = 0
  · rw [magnitudeText, if_pos hzero, eq_zero_of_units hzero]
    exact ⟨⟨0, -1⟩, ⟨⟨'0', ['.', '0'], rfl, rfl⟩, ⟨0, -1⟩, rfl, fun _ => rfl⟩, rfl⟩
  · have hback := m.readsBack_shortest hzero
    have hdigits := digits_ne_zero_of_readsBack hzero hback
    refine ⟨m.shortest, ?_, hback⟩
    rw [magnitudeText, if_neg hzero]
    split
    · exact Decimal.reads_positional hdigits
    · exact Decimal.reads_scientific hdigits

end Magnitude

/-! ## Written numbers -/

namespace Binary64

theorem toLower_of_isDigit {c : Char} (h : c.isDigit = true) : c.toLower = c := by
  simp only [Char.isDigit, Bool.and_eq_true, decide_eq_true_eq] at h
  exact dif_neg fun hupper => absurd (UInt32.le_trans hupper.1 h.2) (by decide)

theorem ne_word_of_isDigit {c : Char} (h : c.isDigit = true) (cs : List Char) {word : String}
    {first : Char} (hword : word.toList.head? = some first) (hfirst : first.isDigit = false) :
    String.ofList ((c :: cs).map Char.toLower) ≠ word := by
  rintro rfl
  rw [String.toList_ofList, List.map_cons, toLower_of_isDigit h] at hword
  cases hword
  exact absurd h (Bool.eq_false_iff.mp hfirst)

theorem readUnsigned?_of_isDigit {c : Char} (h : c.isDigit = true) (cs : List Char)
    (negative : Bool) :
    readUnsigned? negative (c :: cs) = (readDecimal? (c :: cs)).map (ofDecimal negative) := by
  have hinf : String.ofList ((c :: cs).map Char.toLower) ≠ "inf" :=
    ne_word_of_isDigit h cs rfl rfl
  have hinfinity : String.ofList ((c :: cs).map Char.toLower) ≠ "infinity" :=
    ne_word_of_isDigit h cs rfl rfl
  have hnan : String.ofList ((c :: cs).map Char.toLower) ≠ "nan" :=
    ne_word_of_isDigit h cs rfl rfl
  simp only [readUnsigned?, hinf, hinfinity, hnan, or_self, if_false]

theorem splitSign_signText_append {c : Char} (h : c.isDigit = true) (cs : List Char)
    (negative : Bool) : splitSign (signText negative ++ c :: cs) = (negative, c :: cs) := by
  cases negative with
  | true => rfl
  | false =>
    rw [signText, if_neg Bool.false_ne_true, List.nil_append]
    unfold splitSign
    split
    case h_1 heq =>
      cases heq
      cases h
    case h_2 heq =>
      cases heq
      cases h
    case h_3 => rfl

theorem read_numberText (v : Binary64) : read (String.ofList (numberText v)) = .ok v := by
  cases v with
  | nan => rfl
  | infinite negative => cases negative <;> rfl
  | finite negative m =>
    obtain ⟨d, ⟨⟨c, cs, hcs, hc⟩, d', hread, hvalue⟩, hback⟩ := m.exists_reads_magnitudeText
    have hsplit := splitSign_signText_append hc cs negative
    have hfinite : readUnsigned? negative (c :: cs) = some (.finite negative m) := by
      rw [readUnsigned?_of_isDigit hc, ← hcs, hread, Option.map_some, hvalue,
        ofDecimal_of_nonnegative hback]
    rw [read, String.toList_ofList, numberText, hcs]
    split
    case h_1 hnil =>
      exact absurd hnil (List.append_ne_nil_of_right_ne_nil _ (List.cons_ne_nil c cs))
    case h_2 => simp only [hsplit, hfinite]

end Binary64

end Iocost
