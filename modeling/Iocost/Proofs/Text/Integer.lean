import Iocost.Keyed.Counters
import Iocost.Text.Integer
import Mathlib.Data.List.Basic

/-!
# Integers read back

The decimal digits of a number are read back as that number, with and without a sign, and none of
them is a blank. What else is read as a counter is said by a grammar (`Text.IsUnsigned`,
`Text.readUnsigned?_eq_some_iff`).
-/

namespace Iocost.Text

theorem isDigit_of_mem_toDigits {c : Char} {n : Nat} (h : c ∈ Nat.toDigits 10 n) :
    c.isDigit = true :=
  Nat.isDigit_of_mem_toDigits (Nat.succ_pos 9) (Nat.le_refl 10) h

theorem readDigits?_toDigits (n : Nat) : readDigits? (Nat.toDigits 10 n) = some n := by
  have hall : (Nat.toDigits 10 n).all Char.isDigit = true :=
    List.all_eq_true.mpr fun c hc => isDigit_of_mem_toDigits hc
  rw [readDigits?, if_pos ⟨Nat.toDigits_ne_nil, hall⟩, Nat.ofDigitChars_ten_toDigits]

theorem exists_toDigits_eq_cons (n : Nat) :
    ∃ c cs, Nat.toDigits 10 n = c :: cs ∧ c.isDigit = true := by
  obtain ⟨c, cs, hcs⟩ := List.exists_cons_of_ne_nil (Nat.toDigits_ne_nil (n := n) (b := 10))
  exact ⟨c, cs, hcs, isDigit_of_mem_toDigits (hcs ▸ List.mem_cons_self)⟩

theorem readUnsigned?_toDigits {n : Nat} (h : n < wordCount) :
    readUnsigned? (Nat.toDigits 10 n) = some (UInt64.ofNat n) := by
  obtain ⟨c, cs, hcs, hc⟩ := exists_toDigits_eq_cons n
  have hread := readDigits?_toDigits n
  unfold readUnsigned?
  rw [hcs] at hread ⊢
  split
  case h_1 rest heq =>
    cases heq
    exact absurd hc (by decide)
  case h_2 =>
    change (readDigits? (c :: cs)).bind _ = _
    rw [hread, Option.bind_some, if_pos h]

theorem readUnsigned?_counterText (n : UInt64) : readUnsigned? (counterText n) = some n := by
  rw [counterText, readUnsigned?_toDigits n.toNat_lt, UInt64.ofNat_toNat]

theorem readSigned?_integer (i : Int64) : readSigned? (integer i.toInt) = some i := by
  have hlow := i.le_toInt
  have hhigh := i.toInt_lt
  have hread := readDigits?_toDigits i.toInt.natAbs
  unfold integer
  split
  case isTrue hneg =>
    have hcount : i.toInt.natAbs ≤ negativeCount := by
      unfold negativeCount
      omega
    have habs : -(i.toInt.natAbs : Int) = i.toInt := by omega
    rw [readSigned?, hread, Option.bind_some, if_pos hcount, habs, Int64.ofInt_toInt]
  case isFalse hneg =>
    have hcount : i.toInt.natAbs < negativeCount := by
      unfold negativeCount
      omega
    have habs : (i.toInt.natAbs : Int) = i.toInt := by omega
    obtain ⟨c, cs, hcs, hc⟩ := exists_toDigits_eq_cons i.toInt.natAbs
    unfold readSigned?
    rw [hcs] at hread ⊢
    split
    case h_1 rest heq =>
      cases heq
      exact absurd hc (by decide)
    case h_2 rest heq =>
      cases heq
      exact absurd hc (by decide)
    case h_3 => rw [hread, Option.bind_some, if_pos hcount, habs, Int64.ofInt_toInt]

theorem readSigned?_flagText (b : Bool) : readSigned? (flagText b) = some (if b then 1 else 0) := by
  cases b <;> rfl

/-! ## Digits -/

theorem toNat_lt_of_isDigit {c : Char} (h : c.isDigit = true) : c.toNat < 128 := by
  simp only [Char.isDigit, Bool.and_eq_true, decide_eq_true_eq] at h
  have hhigh : c.toNat ≤ 57 := h.2
  omega

theorem isBlank_of_isDigit {c : Char} (h : c.isDigit = true) : isBlank c = false := by
  simp only [Char.isDigit, Bool.and_eq_true, decide_eq_true_eq] at h
  have hlow : 48 ≤ c.toNat := h.1
  have hhigh : c.toNat ≤ 57 := h.2
  simp [isBlank, inRanges, blankRanges]
  omega

/-- Different numbers have different digits. -/
theorem toDigits_injective : Function.Injective (Nat.toDigits 10) := by
  intro n n' h
  rw [← Nat.ofDigitChars_ten_toDigits (n := n), h, Nat.ofDigitChars_ten_toDigits]

theorem ofDigitChars_replicate_append (k n : Nat) :
    Nat.ofDigitChars 10 (List.replicate k '0' ++ Nat.toDigits 10 n) 0 = n := by
  rw [Nat.ofDigitChars_append, Nat.ofDigitChars_replicate_zero, Nat.mul_zero,
    Nat.ofDigitChars_ten_toDigits]

theorem isDigit_of_mem_replicate_append {k n : Nat} {c : Char}
    (h : c ∈ List.replicate k '0' ++ Nat.toDigits 10 n) : c.isDigit = true := by
  rcases List.mem_append.mp h with h | h
  · rw [List.eq_of_mem_replicate h]
    rfl
  · exact isDigit_of_mem_toDigits h

section Span

variable {whole rest : List Char} (hwhole : ∀ c ∈ whole, c.isDigit)
  (hrest : ∀ c ∈ rest.head?, c.isDigit = false)
include hwhole hrest

theorem takeWhile_isDigit_append : (whole ++ rest).takeWhile Char.isDigit = whole := by
  rw [List.takeWhile_append_of_pos hwhole]
  cases rest with
  | nil => exact List.append_nil whole
  | cons c cs =>
    rw [List.takeWhile_cons_of_neg (Bool.eq_false_iff.mp (hrest c rfl)), List.append_nil]

theorem dropWhile_isDigit_append : (whole ++ rest).dropWhile Char.isDigit = rest := by
  rw [List.dropWhile_append_of_pos hwhole]
  cases rest with
  | nil => rfl
  | cons c cs => exact List.dropWhile_cons_of_neg (Bool.eq_false_iff.mp (hrest c rfl))

end Span

/-! ## The grammar of counters -/

/-- The text is that natural number in decimal digits, with any number of zeros in front. -/
structure IsDigits (cs : List Char) (n : Nat) : Prop where
  ne_nil : cs ≠ []
  isDigit : ∀ c ∈ cs, c.isDigit = true
  value : Nat.ofDigitChars 10 cs 0 = n

/-- The text is that natural number below `2 ^ 64`, with a plus sign or without it. -/
inductive IsUnsigned : List Char → UInt64 → Prop where
  | digits {cs : List Char} {n : UInt64} (h : IsDigits cs n.toNat) : IsUnsigned cs n
  | plus {cs : List Char} {n : UInt64} (h : IsDigits cs n.toNat) : IsUnsigned ('+' :: cs) n

theorem readDigits?_eq_some_iff {cs : List Char} {n : Nat} :
    readDigits? cs = some n ↔ IsDigits cs n := by
  rw [readDigits?, Option.ite_none_right_eq_some, List.all_eq_true, Option.some_inj]
  exact ⟨fun ⟨⟨hne, hdigits⟩, hvalue⟩ => ⟨hne, hdigits, hvalue⟩,
    fun ⟨hne, hdigits, hvalue⟩ => ⟨⟨hne, hdigits⟩, hvalue⟩⟩

theorem not_isDigits_cons {c : Char} (hc : c.isDigit = false) (cs : List Char) (n : Nat) :
    ¬IsDigits (c :: cs) n := by
  intro h
  rw [h.isDigit c List.mem_cons_self] at hc
  cases hc

/-- Digits of which the number is in range, read as what the number stands for. -/
theorem bind_readDigits?_eq_some_iff {α : Type} {inRange : Nat → Prop} [DecidablePred inRange]
    {f : Nat → α} {cs : List Char} {a : α} :
    ((readDigits? cs).bind fun n => if inRange n then some (f n) else none) = some a ↔
      ∃ n, IsDigits cs n ∧ inRange n ∧ f n = a := by
  simp only [Option.bind_eq_some_iff, readDigits?_eq_some_iff, Option.ite_none_right_eq_some,
    Option.some_inj]

theorem readUnsigned?_eq_some_iff {cs : List Char} {n : UInt64} :
    readUnsigned? cs = some n ↔ IsUnsigned cs n := by
  have hbound (digits : List Char) :
      (∃ k, IsDigits digits k ∧ k < wordCount ∧ UInt64.ofNat k = n) ↔ IsDigits digits n.toNat := by
    constructor
    · rintro ⟨k, h, hlt, rfl⟩
      rwa [UInt64.toNat_ofNat_of_lt' hlt]
    · intro h
      exact ⟨_, h, n.toNat_lt, UInt64.ofNat_toNat⟩
  unfold readUnsigned?
  rw [bind_readDigits?_eq_some_iff, hbound]
  constructor
  · intro h
    split at h
    case h_1 => exact .plus h
    case h_2 => exact .digits h
  · rintro (h | h)
    · -- a plus sign is no digit
      split
      case h_1 => exact absurd h (not_isDigits_cons rfl _ _)
      case h_2 => exact h
    · exact h

end Iocost.Text
