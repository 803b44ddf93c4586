import Iocost.Proofs.Binary64.Scale
import Mathlib.Data.Rat.Floor

/-!
# Numbers brought to integers

A finite number is brought to its ceiling (`Binary64.ceil_eq`) or to the nearest integer, which is
the even one of two that are as near (`Binary64.exists_isNearestInteger`). What comes of it is kept
in the range of 64 bits, so a bound within that range is not passed either
(`Binary64.min_saturate`).
-/

namespace Iocost

/-- The integer is the value rounded to the nearest integer, ties to even. -/
structure IsNearestInteger (i : ℤ) (x : ℚ) : Prop where
  nearest : ∀ j : ℤ, |(i : ℚ) - x| ≤ |(j : ℚ) - x|
  even : ∀ j : ℤ, j ≠ i → |(i : ℚ) - x| = |(j : ℚ) - x| → Even i

variable {n d : Nat}

/-- How far natural numbers are from a quotient. -/
theorem abs_natCast_sub (hd : 0 < d) (k n : Nat) :
    |(k : ℚ) - n / d| = (Nat.dist (k * d) n : Nat) / d := by
  have hd' : (0 : ℚ) < d := Nat.cast_pos.mpr hd
  have hsub : (k : ℚ) - n / d = (k * d - n) / d := by field_simp
  rw [hsub, abs_div, abs_of_pos hd', cast_dist, Nat.cast_mul]

/-- A negative integer is further from a quotient than zero. -/
theorem abs_zero_sub_lt {j : ℤ} (hj : j < 0) (n d : Nat) :
    |((0 : Nat) : ℚ) - n / d| < |(j : ℚ) - n / d| := by
  have hvalue : (0 : ℚ) ≤ n / d := by positivity
  have hneg : (j : ℚ) < 0 := Int.cast_lt_zero.mpr hj
  rw [Nat.cast_zero, zero_sub, abs_neg, abs_of_nonneg hvalue, abs_of_neg (by linarith)]
  linarith

theorem isNearestInteger_divEven (hd : 0 < d) : IsNearestInteger (divEven n d) (n / d) := by
  have hd' : (0 : ℚ) < d := Nat.cast_pos.mpr hd
  have hnatural (k : Nat) : |((divEven n d : Nat) : ℚ) - n / d| ≤ |(k : ℚ) - n / d| := by
    rw [abs_natCast_sub hd, abs_natCast_sub hd]
    exact div_le_div_of_nonneg_right (Nat.cast_le.mpr (dist_divEven_le hd k)) hd'.le
  constructor
  · intro j
    rw [Int.cast_natCast]
    rcases Int.lt_or_le j 0 with hneg | hnonneg
    · exact (hnatural 0).trans (abs_zero_sub_lt hneg n d).le
    · obtain ⟨k, rfl⟩ := Int.eq_ofNat_of_zero_le hnonneg
      exact hnatural k
  · intro j hne heq
    rw [Int.cast_natCast] at heq
    rcases Int.lt_or_le j 0 with hneg | hnonneg
    · exact absurd heq ((hnatural 0).trans_lt (abs_zero_sub_lt hneg n d)).ne
    · obtain ⟨k, rfl⟩ := Int.eq_ofNat_of_zero_le hnonneg
      rw [Int.cast_natCast, abs_natCast_sub hd, abs_natCast_sub hd, div_left_inj' hd'.ne',
        Nat.cast_inj] at heq
      exact (even_divEven_of_dist_eq hd (fun h => hne (congrArg _ h)) heq).natCast

theorem IsNearestInteger.neg {i : ℤ} {x : ℚ} (h : IsNearestInteger i x) :
    IsNearestInteger (-i) (-x) := by
  have hneg (j : ℤ) : |((-j : ℤ) : ℚ) - -x| = |(j : ℚ) - x| := by
    rw [Int.cast_neg, neg_sub_neg, abs_sub_comm]
  constructor
  · intro j
    rw [hneg, ← neg_neg j, hneg]
    exact h.nearest (-j)
  · intro j hne heq
    rw [hneg, ← neg_neg j, hneg] at heq
    exact (h.even (-j) (fun hj => hne (by rw [← hj, neg_neg])) heq).neg

theorem IsNearestInteger.nonneg {i : ℤ} {x : ℚ} (h : IsNearestInteger i x) (hx : 0 ≤ x) :
    0 ≤ i := by
  by_contra hneg
  have hi : (i : ℚ) < 0 := Int.cast_lt_zero.mpr (not_le.mp hneg)
  have hzero := h.nearest 0
  rw [Int.cast_zero, zero_sub, abs_neg, abs_of_nonneg hx, abs_of_neg (by linarith)] at hzero
  linarith

theorem add_sub_one_ediv {d : ℤ} (hd : 0 < d) (n : ℤ) : (n + (d - 1)) / d = -(-n / d) := by
  have hdiv := Int.mul_ediv_add_emod (-n) d
  have hlow := Int.emod_nonneg (-n) hd.ne'
  have hhigh := Int.emod_lt_of_pos (-n) hd
  have hsplit : n + (d - 1) = d - 1 - -n % d + d * -(-n / d) := by linarith
  rw [hsplit, Int.add_mul_ediv_left _ _ hd.ne', Int.ediv_eq_zero_of_lt (by omega) (by omega),
    zero_add]

namespace Binary64

open Magnitude (one)

variable {lo hi cap : ℤ} {v : Binary64}

theorem ceil_eq (h : v.isFinite = true) : v.ceil = saturate ⌈v.toRat⌉ := by
  obtain ⟨negative, m, rfl⟩ := exists_of_isFinite h
  have hpos : (0 : ℤ) < one := Int.natCast_pos.mpr Magnitude.one_pos
  rw [ceil, toInteger, toRat_finite, signed]
  congr 1
  cases negative with
  | true =>
    simp only [↓reduceIte]
    rw [Int.ceil_neg, Rat.floor_natCast_div_natCast]
  | false =>
    simp only [Bool.false_eq_true, ↓reduceIte]
    rw [Rat.ceil_natCast_div_natCast, add_sub_one_ediv hpos]

theorem exists_isNearestInteger (h : v.isFinite = true) :
    ∃ i, IsNearestInteger i v.toRat ∧ v.roundEven = saturate i := by
  obtain ⟨negative, m, rfl⟩ := exists_of_isFinite h
  have hnearest := isNearestInteger_divEven (n := m.units) Magnitude.one_pos
  cases negative with
  | true => exact ⟨_, hnearest.neg, rfl⟩
  | false => exact ⟨_, hnearest, rfl⟩

/-- Keeping an integer in the range of 64 bits makes no difference below a bound in that range. -/
theorem min_saturate {i : ℤ} (hlow : integerRange.1 ≤ i) (hcap : cap ≤ integerRange.2) :
    min (saturate i) cap = min i cap := by
  rw [saturate]
  omega

/-! ## Amounts -/

theorem IsAmount.min_ceil (h : IsAmount lo hi v) (hcap : cap ≤ integerRange.2) :
    min v.ceil cap = min ⌈v.toRat⌉ cap := by
  have hnonneg : 0 ≤ ⌈v.toRat⌉ := Int.ceil_nonneg h.toRat_nonneg
  have hlow : integerRange.1 ≤ ⌈v.toRat⌉ := Int.le_trans (by decide) hnonneg
  rw [ceil_eq h.isFinite, min_saturate hlow hcap]

theorem IsAmount.exists_min_roundEven (h : IsAmount lo hi v) (hcap : cap ≤ integerRange.2) :
    ∃ i, 0 ≤ i ∧ IsNearestInteger i v.toRat ∧ min v.roundEven cap = min i cap := by
  obtain ⟨i, hnearest, hround⟩ := exists_isNearestInteger h.isFinite
  have hnonneg := hnearest.nonneg h.toRat_nonneg
  have hlow : integerRange.1 ≤ i := Int.le_trans (by decide) hnonneg
  exact ⟨i, hnonneg, hnearest, by rw [hround, min_saturate hlow hcap]⟩

/-- A number above zero is not rounded up to zero. -/
theorem IsAmount.ceil_eq_zero_iff (h : IsAmount lo hi v) : ⌈v.toRat⌉ = 0 ↔ v = zero := by
  rcases h with rfl | hscale
  · exact iff_of_true (by rw [zero, toRat_zero, Int.ceil_zero]) rfl
  · exact iff_of_false (Int.ceil_pos.mpr hscale.toRat_pos).ne' hscale.ne_zero

end Binary64

end Iocost
