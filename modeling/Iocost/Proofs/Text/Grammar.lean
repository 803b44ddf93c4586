import Iocost.Proofs.Text.Integer
import Iocost.Proofs.Text.Lines
import Mathlib.Algebra.Ring.Int.Defs
import Mathlib.Algebra.Ring.Nat
import Mathlib.Data.List.DropRight

/-!
# What is read as an integer

The texts that stand for a number are its decimal digits behind any number of zeros
(`isDigits_iff`). So the readers of integers are told by what they accept: digits with a sign or
without it, of a number in their range (`readUnsigned?_eq_some_iff`, `readSigned?_eq_some_iff`),
and, for a text that is nothing but one number, ASCII blanks behind it (`readSingle?_eq_some_iff`).
-/

namespace Iocost.Text

variable {cs : List Char}

/-! ## Digits -/

theorem exists_digitChar_eq {c : Char} (h : c.isDigit = true) :
    ∃ d < 10, c.toNat - '0'.toNat = d ∧ Nat.digitChar d = c := by
  obtain ⟨hlow, hhigh⟩ := Char.isDigit_iff_toNat.mp h
  have hzero : '0'.toNat = 48 := rfl
  have hnine : '9'.toNat = 57 := rfl
  have hlt : c.toNat - '0'.toNat < 10 := by omega
  refine ⟨_, hlt, rfl, Char.toNat_inj.mp ?_⟩
  rw [Nat.toNat_digitChar_of_lt_ten hlt]
  omega

/-- The digits of a number and another one. If the number is zero, its digit is a zero in front. -/
theorem exists_zeros_concat {d : Nat} (hd : d < 10) (zeros n : Nat) :
    ∃ more, List.replicate zeros '0' ++ Nat.toDigits 10 n ++ [Nat.digitChar d] =
      List.replicate more '0' ++ Nat.toDigits 10 (10 * n + d) := by
  rcases Nat.eq_zero_or_pos n with rfl | hpos
  · refine ⟨zeros + 1, ?_⟩
    rw [Nat.mul_zero, Nat.zero_add, Nat.toDigits_zero, Nat.toDigits_of_lt_base hd,
      List.replicate_succ']
  · refine ⟨zeros, ?_⟩
    rw [← Nat.toDigits_append_toDigits (by decide) hpos hd, Nat.toDigits_of_lt_base hd,
      List.append_assoc]

theorem IsDigits.exists_zeros {n : Nat} (h : IsDigits cs n) :
    ∃ zeros, cs = List.replicate zeros '0' ++ Nat.toDigits 10 n := by
  obtain ⟨hne, hdigits, rfl⟩ := h
  induction cs using List.reverseRecOn with
  | nil => exact absurd rfl hne
  | append_singleton cs c ih =>
    obtain ⟨d, hd, hvalue, rfl⟩ := exists_digitChar_eq
      (hdigits c (List.mem_append_right cs (List.mem_singleton_self c)))
    rw [Nat.ofDigitChars_append, Nat.ofDigitChars_cons, Nat.ofDigitChars_nil, hvalue]
    by_cases hcs : cs = []
    · subst hcs
      refine ⟨0, ?_⟩
      rw [Nat.ofDigitChars_nil, Nat.mul_zero, Nat.zero_add, Nat.toDigits_of_lt_base hd]
      rfl
    · obtain ⟨zeros, hzeros⟩ := ih hcs fun c hc => hdigits c (List.mem_append_left _ hc)
      obtain ⟨more, hmore⟩ := exists_zeros_concat hd zeros (Nat.ofDigitChars 10 cs 0)
      rw [← hzeros] at hmore
      exact ⟨more, hmore⟩

/-- The texts of a number are its digits behind any number of zeros. -/
theorem isDigits_iff {n : Nat} :
    IsDigits cs n ↔ ∃ zeros, cs = List.replicate zeros '0' ++ Nat.toDigits 10 n := by
  refine ⟨IsDigits.exists_zeros, ?_⟩
  rintro ⟨zeros, rfl⟩
  refine ⟨?_, fun c => isDigit_of_mem_replicate_append, ofDigitChars_replicate_append zeros n⟩
  exact List.append_ne_nil_of_right_ne_nil _ Nat.toDigits_ne_nil

theorem isDigits_zero_iff : IsDigits cs 0 ↔ ∃ zeros, cs = List.replicate (zeros + 1) '0' := by
  simp only [isDigits_iff, List.replicate_succ', Nat.toDigits_zero]

theorem IsDigits.isAsciiBlank {n : Nat} (h : IsDigits cs n) {c : Char} (hc : c ∈ cs) :
    isAsciiBlank c = false := by
  have hblank := isBlank_of_isDigit (h.isDigit c hc)
  rw [← Bool.not_eq_true] at hblank ⊢
  exact fun hascii => hblank (isBlank_of_isAsciiBlank hascii)

/-! ## Numbers with a sign or without it -/

/-- The text is that integer of 64 bits, with a sign or, where it is not negative, without one. -/
inductive IsSigned : List Char → Int64 → Prop where
  | digits {cs : List Char} {n : Nat} {i : Int64} (h : IsDigits cs n) (hi : i.toInt = n) :
    IsSigned cs i
  | plus {cs : List Char} {n : Nat} {i : Int64} (h : IsDigits cs n) (hi : i.toInt = n) :
    IsSigned ('+' :: cs) i
  | minus {cs : List Char} {n : Nat} {i : Int64} (h : IsDigits cs n) (hi : i.toInt = -n) :
    IsSigned ('-' :: cs) i

theorem exists_isUnsigned_iff :
    (∃ n, IsUnsigned cs n) ↔ ∃ digits n, (cs = digits ∨ cs = '+' :: digits) ∧
      IsDigits digits n ∧ n < 2 ^ 64 := by
  constructor
  · rintro ⟨n, h | h⟩
    · exact ⟨_, _, .inl rfl, h, n.toNat_lt⟩
    · exact ⟨_, _, .inr rfl, h, n.toNat_lt⟩
  · rintro ⟨digits, n, hcs, h, hlt⟩
    rw [← UInt64.toNat_ofNat_of_lt' hlt] at h
    rcases hcs with rfl | rfl
    · exact ⟨_, .digits h⟩
    · exact ⟨_, .plus h⟩

theorem exists_isSigned_iff :
    (∃ i, IsSigned cs i) ↔ ∃ digits n, IsDigits digits n ∧
      ((cs = digits ∨ cs = '+' :: digits) ∧ n < 2 ^ 63 ∨ cs = '-' :: digits ∧ n ≤ 2 ^ 63) := by
  constructor
  · rintro ⟨i, ⟨h, hi⟩ | ⟨h, hi⟩ | ⟨h, hi⟩⟩
    · have := i.toInt_lt
      exact ⟨_, _, h, .inl ⟨.inl rfl, by omega⟩⟩
    · have := i.toInt_lt
      exact ⟨_, _, h, .inl ⟨.inr rfl, by omega⟩⟩
    · have := i.le_toInt
      exact ⟨_, _, h, .inr ⟨rfl, by omega⟩⟩
  · rintro ⟨digits, n, h, ⟨rfl | rfl, hlt⟩ | ⟨rfl, hle⟩⟩
    · exact ⟨.ofInt n, .digits h (Int64.toInt_ofInt_of_le (by omega) (by omega))⟩
    · exact ⟨.ofInt n, .plus h (Int64.toInt_ofInt_of_le (by omega) (by omega))⟩
    · exact ⟨.ofInt (-n), .minus h (Int64.toInt_ofInt_of_le (by omega) (by omega))⟩

/-- Of the integers of 64 bits one has that value if the value is in their range. -/
theorem ofInt_eq_iff {k : Int} {i : Int64} :
    (-2 ^ 63 ≤ k ∧ k < 2 ^ 63) ∧ Int64.ofInt k = i ↔ i.toInt = k := by
  constructor
  · rintro ⟨⟨hlow, hhigh⟩, rfl⟩
    exact Int64.toInt_ofInt_of_le hlow hhigh
  · rintro rfl
    exact ⟨⟨i.le_toInt, i.toInt_lt⟩, Int64.ofInt_toInt i⟩

theorem readSigned?_eq_some_iff {i : Int64} : readSigned? cs = some i ↔ IsSigned cs i := by
  have hminus (n : Nat) : n ≤ negativeCount ∧ Int64.ofInt (-n) = i ↔ i.toInt = -n := by
    rw [← ofInt_eq_iff, negativeCount]
    exact and_congr_left' (by omega)
  have hplus (n : Nat) : n < negativeCount ∧ Int64.ofInt n = i ↔ i.toInt = n := by
    rw [← ofInt_eq_iff, negativeCount]
    exact and_congr_left' (by omega)
  unfold readSigned?
  split
  case h_1 digits =>
    simp only [bind_readDigits?_eq_some_iff, hminus]
    constructor
    · rintro ⟨n, h, hi⟩
      exact .minus h hi
    · rintro (⟨h, -⟩ | - | ⟨h, hi⟩)
      · exact absurd h (not_isDigits_cons rfl _ _)
      · exact ⟨_, h, hi⟩
  case h_2 digits =>
    simp only [bind_readDigits?_eq_some_iff, hplus]
    constructor
    · rintro ⟨n, h, hi⟩
      exact .plus h hi
    · rintro (⟨h, -⟩ | ⟨h, hi⟩ | -)
      · exact absurd h (not_isDigits_cons rfl _ _)
      · exact ⟨_, h, hi⟩
  case h_3 hnoMinus hnoPlus =>
    simp only [bind_readDigits?_eq_some_iff, hplus]
    constructor
    · rintro ⟨n, h, hi⟩
      exact .digits h hi
    · rintro (⟨h, hi⟩ | - | -)
      · exact ⟨_, h, hi⟩
      · exact absurd rfl (hnoPlus _)
      · exact absurd rfl (hnoMinus _)

/-! ## A text that is one number -/

/-- The text is that natural number below `2 ^ 64`, and ASCII blanks behind it. -/
def IsSingle (cs : List Char) (n : UInt64) : Prop :=
  ∃ number blanks, cs = number ++ blanks ∧ IsUnsigned number n ∧
    ∀ c ∈ blanks, isAsciiBlank c = true

/-- The text is one or more zeros, with a plus sign or without it, and ASCII blanks behind them. -/
def IsZeros (cs : List Char) : Prop :=
  ∃ zeros blanks, (cs = List.replicate (zeros + 1) '0' ++ blanks ∨
    cs = '+' :: List.replicate (zeros + 1) '0' ++ blanks) ∧ ∀ c ∈ blanks, isAsciiBlank c = true

theorem IsUnsigned.isAsciiBlank {n : UInt64} (h : IsUnsigned cs n) {c : Char} (hc : c ∈ cs) :
    isAsciiBlank c = false := by
  cases h with
  | digits h => exact h.isAsciiBlank hc
  | plus h =>
    rcases List.mem_cons.mp hc with rfl | hc
    · decide
    · exact h.isAsciiBlank hc

theorem readSingle?_eq_some_iff {n : UInt64} : readSingle? cs = some n ↔ IsSingle cs n := by
  rw [readSingle?, readUnsigned?_eq_some_iff]
  constructor
  · intro h
    refine ⟨_, cs.rtakeWhile isAsciiBlank, ?_, h, fun c => List.mem_rtakeWhile_imp⟩
    exact List.rdropWhile_append_rtakeWhile.symm
  · rintro ⟨number, blanks, rfl, h, hblanks⟩
    have hnumber : dropEnd isAsciiBlank number = number := by
      refine List.rdropWhile_eq_self_iff.mpr fun hne => ?_
      rw [h.isAsciiBlank (List.getLast_mem hne)]
      exact Bool.false_ne_true
    rwa [dropEnd_append hblanks, hnumber]

theorem IsSingle.unique {n n' : UInt64} (h : IsSingle cs n) (h' : IsSingle cs n') : n = n' :=
  Option.some.inj ((readSingle?_eq_some_iff.mpr h).symm.trans (readSingle?_eq_some_iff.mpr h'))

theorem isSingle_zero_iff : IsSingle cs 0 ↔ IsZeros cs := by
  constructor
  · rintro ⟨number, blanks, rfl, h | h, hblanks⟩
    · obtain ⟨zeros, rfl⟩ := isDigits_zero_iff.mp h
      exact ⟨zeros, blanks, .inl rfl, hblanks⟩
    · obtain ⟨zeros, rfl⟩ := isDigits_zero_iff.mp h
      exact ⟨zeros, blanks, .inr rfl, hblanks⟩
  · rintro ⟨zeros, blanks, rfl | rfl, hblanks⟩
    · exact ⟨_, blanks, rfl, .digits (isDigits_zero_iff.mpr ⟨zeros, rfl⟩), hblanks⟩
    · exact ⟨_, blanks, rfl, .plus (isDigits_zero_iff.mpr ⟨zeros, rfl⟩), hblanks⟩

end Iocost.Text
