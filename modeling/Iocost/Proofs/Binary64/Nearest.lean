import Iocost.Proofs.Binary64.Rounding
import Mathlib.Algebra.Order.Field.Basic
import Mathlib.Data.Rat.Cast.Order
import Mathlib.Tactic.FieldSimp
import Mathlib.Tactic.Positivity

/-!
# Values of numbers

A finite number has a rational value. What it is for a number to be a rational number rounded is
said by `Binary64.IsNearest`: no finite number is nearer, and if another one is as near the number
has an even significand. Numbers of units, integers and quotients are rounded so
(`isNearest_ofUnits`, `isNearest_ofInt`, `isNearest_div`).
-/

namespace Iocost

theorem cast_dist (a b : Nat) : ((Nat.dist a b : Nat) : ℚ) = |(a : ℚ) - b| := by
  rcases Nat.le_total a b with h | h
  · have hcast : (a : ℚ) ≤ b := Nat.cast_le.mpr h
    rw [Nat.dist_eq_sub_of_le h, Nat.cast_sub h, abs_of_nonpos (by linarith), neg_sub]
  · have hcast : (b : ℚ) ≤ a := Nat.cast_le.mpr h
    rw [Nat.dist_eq_sub_of_le_right h, Nat.cast_sub h, abs_of_nonneg (by linarith)]

namespace Magnitude

theorem one_pos : 0 < one := by
  unfold one
  generalize 1074 = k
  exact Nat.two_pow_pos k

theorem cast_one_pos : (0 : ℚ) < one := Nat.cast_pos.mpr one_pos

/-- From here on quotients of units are rounded beyond the finite numbers: it is halfway between the
greatest of them and the next power of two. -/
def overflow : Nat := limit - Nat.pow 2 2044

theorem roundUnits_overflow : roundUnits overflow 1 = limit := by decide +kernel

variable {n d : Nat}

theorem lt_overflow (hd : 0 < d) (h : roundUnits n d < limit) : n < overflow * d := by
  by_contra hcontra
  have hmono : roundUnits overflow 1 ≤ roundUnits n d := by
    refine roundUnits_mono Nat.one_pos hd ?_
    rw [Nat.mul_one]
    exact Nat.le_of_not_lt hcontra
  rw [roundUnits_overflow] at hmono
  exact absurd h (Nat.not_lt.mpr hmono)

/-- How far numbers of units are from a quotient. -/
theorem abs_units_sub (hd : 0 < d) (u n : Nat) :
    |(u / one : ℚ) - n / d / one| = (Nat.dist (u * d) n : Nat) / (d * one) := by
  have hd' : (0 : ℚ) < d := Nat.cast_pos.mpr hd
  have hone := cast_one_pos
  have hsub : (u / one : ℚ) - n / d / one = (u * d - n) / (d * one) := by
    field_simp
  rw [hsub, abs_div, abs_of_pos (mul_pos hd' hone), cast_dist, Nat.cast_mul]

end Magnitude

namespace Binary64

open Magnitude (one)

/-- A value with a sign. -/
def signed (negative : Bool) (x : ℚ) : ℚ := if negative then -x else x

/-- The value of a finite number, zero for the others. -/
def toRat : Binary64 → ℚ
  | .finite negative m => signed negative (m.units / one)
  | _ => 0

/-- The last of the 53 bits of the significand is zero. -/
def HasEvenSignificand : Binary64 → Prop
  | .finite _ m => Even (Magnitude.significandOf m.units)
  | _ => False

/-- The number is the value `x` rounded to the nearest number, ties to even. -/
structure IsNearest (v : Binary64) (x : ℚ) : Prop where
  finite : v.isFinite = true
  /-- The value is not rounded beyond the finite numbers. -/
  bounded : |x| * one < Magnitude.overflow
  nearest : ∀ w : Binary64, w.isFinite = true → |v.toRat - x| ≤ |w.toRat - x|
  even : ∀ w : Binary64, w.isFinite = true → w.toRat ≠ v.toRat →
    |v.toRat - x| = |w.toRat - x| → v.HasEvenSignificand

theorem toRat_finite (negative : Bool) (m : Magnitude) :
    (Binary64.finite negative m).toRat = signed negative (m.units / one) := rfl

theorem signed_eq_zero_iff {negative : Bool} {x : ℚ} : signed negative x = 0 ↔ x = 0 := by
  cases negative <;> simp [signed]

theorem signed_div_signed (s t : Bool) (x y : ℚ) :
    signed s x / signed t y = signed (s != t) (x / y) := by
  cases s <;> cases t <;> simp [signed, neg_div, div_neg]

/-- Between values with different signs lie both values. -/
theorem signed_sub_of_ne {s t : Bool} (h : s ≠ t) (x y : ℚ) :
    signed s x - signed t y = signed s (x + y) := by
  cases s <;> cases t <;> simp_all [signed]
  ring

theorem abs_signed (negative : Bool) (x : ℚ) : |signed negative x| = |x| := by
  cases negative with
  | false => rfl
  | true => exact abs_neg x

theorem abs_signed_sub (negative : Bool) (x y : ℚ) :
    |signed negative x - signed negative y| = |x - y| := by
  cases negative with
  | false => rfl
  | true => rw [signed, if_pos rfl, signed, if_pos rfl, neg_sub_neg, abs_sub_comm]

/-- From a value with a sign a number with the other sign is no nearer than zero. -/
theorem exists_same_sign {w : Binary64} (hw : w.isFinite = true) (negative : Bool) {x : ℚ}
    (hx : 0 ≤ x) : ∃ k : Nat, Magnitude.granularity k ∣ k ∧
      |(k / one : ℚ) - x| ≤ |w.toRat - signed negative x| ∧
      (|(k / one : ℚ) - x| = |w.toRat - signed negative x| →
        w.toRat = signed negative (k / one)) := by
  match w, hw with
  | .finite s m, _ =>
    by_cases hs : s = negative
    · subst hs
      exact ⟨m.units, m.precise, (abs_signed_sub s _ _).ge, fun _ => rfl⟩
    · have hunits : (0 : ℚ) ≤ m.units / one :=
        div_nonneg (Nat.cast_nonneg _) Magnitude.cast_one_pos.le
      have hfar : |(Binary64.finite s m).toRat - signed negative x| = m.units / one + x := by
        rw [toRat_finite, signed_sub_of_ne hs, abs_signed, abs_of_nonneg (add_nonneg hunits hx)]
      have hzero : |((0 : Nat) / one : ℚ) - x| = x := by
        rw [Nat.cast_zero, zero_div, zero_sub, abs_neg, abs_of_nonneg hx]
      refine ⟨0, Nat.dvd_zero _, ?_, ?_⟩
      · rw [hfar, hzero]
        linarith
      · rw [hfar, hzero]
        intro heq
        have hvanishes : (m.units / one : ℚ) = 0 := by linarith
        rw [toRat_finite, hvanishes, Nat.cast_zero, zero_div, signed_eq_zero_iff.mpr rfl,
          signed_eq_zero_iff.mpr rfl]

variable {negative : Bool} {n d : Nat} {m : Magnitude}

theorem units_of_ofUnits (h : ofUnits negative n d = .finite negative m) :
    m.units = Magnitude.roundUnits n d := by
  rw [ofUnits_eq, Magnitude.round?] at h
  split at h
  · cases h
    rfl
  · cases h

theorem exists_of_isFinite_ofUnits (h : (ofUnits negative n d).isFinite = true) :
    ∃ m, ofUnits negative n d = .finite negative m := by
  rw [ofUnits_eq] at h ⊢
  cases hround : Magnitude.round? n d with
  | none =>
    rw [hround] at h
    cases h
  | some m => exact ⟨m, rfl⟩

theorem isNearest_ofUnits (hd : 0 < d) (h : (ofUnits negative n d).isFinite = true) :
    (ofUnits negative n d).IsNearest (signed negative (n / d / one)) := by
  obtain ⟨m, hm⟩ := exists_of_isFinite_ofUnits h
  have hunits := units_of_ofUnits hm
  rw [hm]
  have hone := Magnitude.cast_one_pos
  have hd' : (0 : ℚ) < d := Nat.cast_pos.mpr hd
  have hx : (0 : ℚ) ≤ n / d / one := div_nonneg (div_nonneg n.cast_nonneg hd'.le) hone.le
  have hscale : (0 : ℚ) < d * one := mul_pos hd' hone
  have hself : |(Binary64.finite negative m).toRat - signed negative (n / d / one)| =
      (Nat.dist (Magnitude.roundUnits n d * d) n : Nat) / (d * one) := by
    rw [toRat, abs_signed_sub, Magnitude.abs_units_sub hd, hunits]
  have hclosest {k : Nat} (hk : Magnitude.granularity k ∣ k) :
      |(Binary64.finite negative m).toRat - signed negative (n / d / one)| ≤
        |(k / one : ℚ) - n / d / one| := by
    rw [hself, Magnitude.abs_units_sub hd]
    exact div_le_div_of_nonneg_right (Nat.cast_le.mpr (Magnitude.dist_roundUnits_le hd hk))
      hscale.le
  refine ⟨rfl, ?_, fun w hw => ?_, fun w hw hne heq => ?_⟩
  · have hlt := Magnitude.lt_overflow hd (hunits ▸ m.bounded)
    have hcast : (n : ℚ) < Magnitude.overflow * d := by exact_mod_cast hlt
    rw [abs_signed, abs_of_nonneg hx, div_mul_cancel₀ _ hone.ne', div_lt_iff₀ hd']
    exact hcast
  · obtain ⟨k, hk, hle, -⟩ := exists_same_sign hw negative hx
    exact (hclosest hk).trans hle
  · obtain ⟨k, hk, hle, hsame⟩ := exists_same_sign hw negative hx
    have htie := le_antisymm (hclosest hk) (heq ▸ hle)
    have hvalue := hsame (htie ▸ heq)
    rw [hself, Magnitude.abs_units_sub hd, div_left_inj' hscale.ne', Nat.cast_inj] at htie
    have hdiffer : k ≠ Magnitude.roundUnits n d := by
      rintro rfl
      exact hne (by rw [hvalue, toRat, hunits])
    rw [HasEvenSignificand, hunits]
    exact Magnitude.even_significandOf_roundUnits hd hk hdiffer htie

/-! ## Integers and quotients -/

/-- What an integer is in units, as a quotient. -/
theorem value_ofInt (i : Int) : ((i.natAbs * one : Nat) : ℚ) / (1 : Nat) / one = |(i : ℚ)| := by
  rw [Nat.cast_one, div_one, Nat.cast_mul, mul_div_cancel_right₀ _ Magnitude.cast_one_pos.ne',
    Nat.cast_natAbs, Int.cast_abs]

/-- What a quotient of numbers of units is in units. -/
theorem value_div (a b : Nat) : ((a * one : Nat) : ℚ) / b / one = (a / one : ℚ) / (b / one) := by
  have hone := Magnitude.cast_one_pos.ne'
  rw [Nat.cast_mul, mul_div_right_comm, mul_div_cancel_right₀ _ hone,
    div_div_div_cancel_right₀ hone]

theorem isNearest_ofInt {i : Int} (h : (ofInt i).isFinite = true) : (ofInt i).IsNearest i := by
  have hvalue : signed (decide (i < 0)) (((i.natAbs * one : Nat) : ℚ) / (1 : Nat) / one) = i := by
    rw [value_ofInt, signed]
    split
    case isTrue hneg => rw [abs_of_neg (Int.cast_lt_zero.mpr (of_decide_eq_true hneg)), neg_neg]
    case isFalse hneg =>
      have hnonneg : 0 ≤ i := Int.not_lt.mp (of_decide_eq_false (by simpa using hneg))
      exact abs_of_nonneg (Int.cast_nonneg hnonneg)
  rw [← hvalue]
  rw [ofInt] at h ⊢
  exact isNearest_ofUnits Nat.one_pos h

theorem ofInt_natCast (n : Nat) : ofInt n = ofNat n := by
  rw [ofInt, ofNat, Int.natAbs_natCast, decide_eq_false (Int.not_lt.mpr (Int.natCast_nonneg n))]

theorem isNearest_ofNat (h : (ofNat n).isFinite = true) : (ofNat n).IsNearest n := by
  rw [← ofInt_natCast] at h ⊢
  have hnearest := isNearest_ofInt h
  rwa [Int.cast_natCast] at hnearest

theorem exists_of_isFinite {v : Binary64} (h : v.isFinite = true) : ∃ s m, v = .finite s m := by
  cases v with
  | nan => cases h
  | infinite _ => cases h
  | finite s m => exact ⟨s, m, rfl⟩

theorem div_finite (s t : Bool) (m : Magnitude) {k : Magnitude} (hk : k.units ≠ 0) :
    Binary64.finite s m / .finite t k = ofUnits (s != t) (m.units * one) k.units :=
  if_neg hk

theorem toRat_div (s t : Bool) (m k : Magnitude) :
    (Binary64.finite s m).toRat / (Binary64.finite t k).toRat =
      signed (s != t) (((m.units * one : Nat) : ℚ) / k.units / one) := by
  rw [value_div, toRat_finite, toRat_finite, signed_div_signed]

theorem isNearest_div {v w : Binary64} (hv : v.isFinite = true) (hw : w.isFinite = true)
    (hne : w.toRat ≠ 0) (h : (v / w).isFinite = true) : (v / w).IsNearest (v.toRat / w.toRat) := by
  obtain ⟨s, m, rfl⟩ := exists_of_isFinite hv
  obtain ⟨t, k, rfl⟩ := exists_of_isFinite hw
  have hunits : k.units ≠ 0 := by
    intro hzero
    rw [toRat_finite, hzero, Nat.cast_zero, zero_div] at hne
    exact hne (signed_eq_zero_iff.mpr rfl)
  rw [div_finite s t m hunits] at h ⊢
  rw [toRat_div]
  exact isNearest_ofUnits (Nat.pos_of_ne_zero hunits) h

end Binary64

/-! ## Decimals -/

namespace Decimal

variable (d : Decimal)

/-- The value of a decimal. -/
def toRat : ℚ := d.digits * 10 ^ d.exponent

theorem toRat_eq_quotient : d.toRat = d.quotient.1 / d.quotient.2 := by
  obtain ⟨digits, exponent⟩ := d
  cases exponent with
  | ofNat k =>
    simp only [toRat, quotient, Nat.pow_eq, Int.ofNat_eq_natCast, zpow_natCast]
    push_cast
    rw [div_one]
  | negSucc k =>
    simp only [toRat, quotient, Nat.pow_eq, zpow_negSucc]
    push_cast
    rw [div_eq_mul_inv]

theorem toRat_lt : d.toRat < 10 ^ d.order := by
  have hdigits : d.digits < 10 ^ (Nat.toDigits 10 d.digits).length :=
    (Nat.length_toDigits_le_iff (by decide) (List.length_pos_iff.mpr Nat.toDigits_ne_nil)).mp
      (Nat.le_refl _)
  have hcast : (d.digits : ℚ) < 10 ^ (Nat.toDigits 10 d.digits).length := by exact_mod_cast hdigits
  rw [toRat, order, zpow_add₀ (by norm_num), zpow_natCast]
  exact mul_lt_mul_of_pos_right hcast (zpow_pos (by norm_num) _)

theorem le_toRat (hd : d.digits ≠ 0) : 10 ^ (d.order - 1) ≤ d.toRat := by
  have hlength : 0 < (Nat.toDigits 10 d.digits).length :=
    List.length_pos_iff.mpr Nat.toDigits_ne_nil
  have hdigits : 10 ^ ((Nat.toDigits 10 d.digits).length - 1) ≤ d.digits := by
    rcases Nat.eq_zero_or_pos ((Nat.toDigits 10 d.digits).length - 1) with hzero | hpos
    · rw [hzero, Nat.pow_zero]
      exact Nat.pos_of_ne_zero hd
    · rw [← Nat.not_lt, ← Nat.length_toDigits_le_iff (by decide) hpos]
      omega
  have hcast : (10 : ℚ) ^ ((Nat.toDigits 10 d.digits).length - 1) ≤ d.digits := by
    exact_mod_cast hdigits
  have horder : d.order - 1 = ((Nat.toDigits 10 d.digits).length - 1 : Nat) + d.exponent := by
    rw [order]
    omega
  rw [toRat, horder, zpow_add₀ (by norm_num), zpow_natCast]
  exact mul_le_mul_of_nonneg_right hcast (zpow_nonneg (by norm_num) _)

end Decimal

namespace Binary64

open Magnitude (one)

theorem ofUnits_of_two_mul_lt {n d : Nat} (negative : Bool) (h : 2 * n < d) :
    ofUnits negative n d = .finite negative .zero := by
  have hquotient : n / d = 0 := Nat.div_eq_of_lt (by omega)
  have hunits : Magnitude.roundUnits n d = 0 := by
    rw [Magnitude.roundUnits, hquotient, Magnitude.granularity_eq, divEven]
    simp [hquotient, Nat.mod_eq_of_lt (by omega : n < d), h]
  rw [ofUnits_eq, Magnitude.round?, dif_pos (hunits ▸ Magnitude.limit_pos), Option.map_some,
    Option.getD_some]
  simp only [hunits]
  rfl

theorem ofUnits_of_limit_le {n d : Nat} (negative : Bool) (hd : 0 < d)
    (h : Magnitude.limit * d ≤ n) : ofUnits negative n d = .infinite negative := by
  have hunits := Magnitude.le_roundUnits hd Magnitude.granularity_dvd_limit h
  rw [ofUnits_eq, Magnitude.round?, dif_neg (Nat.not_lt.mpr hunits), Option.map_none,
    Option.getD_none]

theorem ofUnits_zero {d : Nat} (negative : Bool) (hd : 0 < d) :
    ofUnits negative 0 d = .finite negative .zero :=
  ofUnits_of_two_mul_lt negative (by omega)

/-- The bounds on the order do not change what a decimal is rounded to. -/
theorem ofDecimal_eq_ofUnits (negative : Bool) (d : Decimal) :
    ofDecimal negative d = ofUnits negative (d.quotient.1 * one) d.quotient.2 := by
  have hpos := d.quotient_pos
  have hpos' : (0 : ℚ) < d.quotient.2 := Nat.cast_pos.mpr hpos
  have hquotient := d.toRat_eq_quotient
  unfold ofDecimal
  split_ifs with hzero hlarge hsmall
  · rw [Decimal.toRat, hzero, Nat.cast_zero, zero_mul, eq_comm, div_eq_zero_iff,
      or_iff_left hpos'.ne', Nat.cast_eq_zero] at hquotient
    rw [hquotient, Nat.zero_mul, ofUnits_zero negative hpos]
  · have hle : ((10 ^ 400 : Nat) : ℚ) ≤ d.toRat := by
      refine le_trans ?_ (d.le_toRat hzero)
      rw [Nat.cast_pow, ← zpow_natCast]
      refine zpow_le_zpow_right₀ (by norm_num) ?_
      rw [Decimal.orderBound] at hlarge
      omega
    rw [hquotient, le_div_iff₀ hpos'] at hle
    have hnat : 10 ^ 400 * d.quotient.2 ≤ d.quotient.1 := by exact_mod_cast hle
    have hlimit : Magnitude.limit ≤ 10 ^ 400 * one := by decide +kernel
    refine (ofUnits_of_limit_le negative hpos ?_).symm
    calc Magnitude.limit * d.quotient.2
        ≤ 10 ^ 400 * one * d.quotient.2 := Nat.mul_le_mul_right _ hlimit
      _ = 10 ^ 400 * d.quotient.2 * one := Nat.mul_right_comm _ _ _
      _ ≤ d.quotient.1 * one := Nat.mul_le_mul_right _ hnat
  · have hlt : d.toRat * (10 ^ 400 : Nat) < 1 := by
      have horder : d.order ≤ -400 := by
        rw [Decimal.orderBound] at hsmall
        omega
      have hle : (10 : ℚ) ^ d.order ≤ 10 ^ (-400 : Int) := zpow_le_zpow_right₀ (by norm_num) horder
      have hinv : ((10 : ℚ) ^ (-400 : Int)) * ((10 ^ 400 : Nat) : ℚ) = 1 := by
        rw [Nat.cast_pow, ← zpow_natCast, Nat.cast_ofNat, zpow_neg]
        exact inv_mul_cancel₀ (zpow_ne_zero _ (by norm_num))
      rw [← hinv]
      have hpos (k : Nat) : (0 : ℚ) < (10 ^ k : Nat) := by positivity
      exact mul_lt_mul_of_pos_right (d.toRat_lt.trans_le hle) (hpos 400)
    rw [hquotient, div_mul_eq_mul_div, div_lt_one hpos'] at hlt
    have hnat : d.quotient.1 * 10 ^ 400 < d.quotient.2 := by exact_mod_cast hlt
    have hone : 2 * one ≤ 10 ^ 400 := by decide +kernel
    refine (ofUnits_of_two_mul_lt negative ?_).symm
    calc 2 * (d.quotient.1 * one) = d.quotient.1 * (2 * one) := Nat.mul_left_comm _ _ _
      _ ≤ d.quotient.1 * 10 ^ 400 := Nat.mul_le_mul_left _ hone
      _ < d.quotient.2 := hnat
  · rfl

theorem isNearest_ofDecimal {negative : Bool} {d : Decimal}
    (h : (ofDecimal negative d).isFinite = true) :
    (ofDecimal negative d).IsNearest (signed negative d.toRat) := by
  rw [ofDecimal_eq_ofUnits] at h ⊢
  have hone := Magnitude.cast_one_pos.ne'
  have hvalue : ((d.quotient.1 * one : Nat) : ℚ) / d.quotient.2 / one = d.toRat := by
    rw [d.toRat_eq_quotient, Nat.cast_mul, mul_div_right_comm, mul_div_cancel_right₀ _ hone]
  rw [← hvalue]
  exact isNearest_ofUnits d.quotient_pos h

end Binary64

end Iocost
