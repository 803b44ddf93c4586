import Iocost.Proofs.Binary64.Nearest
import Iocost.Stats

/-!
# Scales of numbers

Between which powers of two a number lies is known from the scales of the numbers that it is
computed from (`Binary64.HasScale.mul`, `Binary64.HasScale.div`), because rounding does not pass a
power of two. A number with a scale is finite, not zero, and has the sign that the scale says. So
amounts that may be zero stay finite, and quotients keep the sign of an integer
(`Binary64.FollowsSign.div`).
-/

namespace Iocost

namespace Magnitude

theorem units_zero : zero.units = 0 := rfl

theorem cast_one_eq : (one : ℚ) = 2 ^ (1074 : ℤ) := by
  have hpower (k : Nat) : ((Nat.pow 2 k : Nat) : ℚ) = 2 ^ (k : ℤ) := by
    rw [Nat.pow_eq, Nat.cast_pow, Nat.cast_ofNat, zpow_natCast]
  unfold one
  have hexponent : ((1074 : Nat) : ℤ) = 1074 := rfl
  generalize 1074 = k at hexponent ⊢
  rw [← hexponent]
  exact hpower k

/-- A power of two that is not too small is a number of units, and so are those below the first one
that is too large. -/
theorem exists_units_eq_two_zpow {e : ℤ} (h : -1074 ≤ e) :
    ∃ u : Nat, granularity u ∣ u ∧ (u / one : ℚ) = 2 ^ e ∧ (e < 1024 → u < limit) := by
  obtain ⟨p, hp⟩ := Int.eq_ofNat_of_zero_le (by omega : 0 ≤ e + 1074)
  have he : e = p - 1074 := by omega
  refine ⟨2 ^ p, granularity_dvd_two_pow p, ?_, fun hbound => ?_⟩
  · rw [he, zpow_sub₀ (by norm_num), zpow_natCast, cast_one_eq, Nat.cast_pow, Nat.cast_ofNat]
  · have hlt : p < 2098 := by omega
    unfold limit
    generalize 2098 = k at hlt ⊢
    exact Nat.pow_lt_pow_right (by decide) hlt

variable {u n d : Nat}

theorem units_le_quotient_iff (hd : 0 < d) : (u / one : ℚ) ≤ n / d / one ↔ u * d ≤ n := by
  have hd' : (0 : ℚ) < d := Nat.cast_pos.mpr hd
  rw [div_le_div_iff_of_pos_right cast_one_pos, le_div_iff₀ hd', ← Nat.cast_mul, Nat.cast_le]

theorem quotient_le_units_iff (hd : 0 < d) : (n / d / one : ℚ) ≤ u / one ↔ n ≤ u * d := by
  have hd' : (0 : ℚ) < d := Nat.cast_pos.mpr hd
  rw [div_le_div_iff_of_pos_right cast_one_pos, div_le_iff₀ hd', ← Nat.cast_mul, Nat.cast_le]

end Magnitude

namespace Binary64

open Magnitude (one)

/-- The number has that sign and is, but for it, between those powers of two. -/
def HasScale (negative : Bool) (lo hi : ℤ) (v : Binary64) : Prop :=
  ∃ m, v = .finite negative m ∧ 2 ^ lo ≤ (m.units / one : ℚ) ∧ (m.units / one : ℚ) ≤ 2 ^ hi

/-- The number is zero, or it is positive and between those powers of two. -/
def IsAmount (lo hi : ℤ) (v : Binary64) : Prop := v = zero ∨ HasScale false lo hi v

variable {negative s t : Bool} {lo hi lo' hi' : ℤ} {n : Nat} {v w : Binary64}

theorem hasScale_ofUnits {d : Nat} (hd : 0 < d) (hlo : -1074 ≤ lo) (hhi : hi < 1024)
    (hlow : 2 ^ lo ≤ (n / d / one : ℚ)) (hhigh : (n / d / one : ℚ) ≤ 2 ^ hi) :
    HasScale negative lo hi (ofUnits negative n d) := by
  have horder : lo ≤ hi := (zpow_le_zpow_iff_right₀ (by norm_num)).mp (hlow.trans hhigh)
  obtain ⟨a, ha, halow, -⟩ := Magnitude.exists_units_eq_two_zpow hlo
  obtain ⟨b, hb, hbhigh, hbound⟩ := Magnitude.exists_units_eq_two_zpow (hlo.trans horder)
  rw [← halow, Magnitude.units_le_quotient_iff hd] at hlow
  rw [← hbhigh, Magnitude.quotient_le_units_iff hd] at hhigh
  have hge := Magnitude.le_roundUnits hd ha hlow
  have hle := Magnitude.roundUnits_le hd hb hhigh
  have hlt := Nat.lt_of_le_of_lt hle (hbound hhi)
  refine ⟨⟨_, Magnitude.granularity_dvd_roundUnits n d, hlt⟩, ?_, ?_, ?_⟩
  · rw [ofUnits_eq, Magnitude.round?, dif_pos hlt, Option.map_some, Option.getD_some]
  · rw [← halow]
    exact div_le_div_of_nonneg_right (Nat.cast_le.mpr hge) Magnitude.cast_one_pos.le
  · rw [← hbhigh]
    exact div_le_div_of_nonneg_right (Nat.cast_le.mpr hle) Magnitude.cast_one_pos.le

theorem HasScale.isFinite (h : HasScale s lo hi v) : v.isFinite = true := by
  obtain ⟨m, rfl, -⟩ := h
  rfl

theorem two_zpow_pos (e : ℤ) : (0 : ℚ) < 2 ^ e := zpow_pos (by norm_num) e

theorem units_pos_of_le {k : Magnitude} (h : 2 ^ lo ≤ (k.units / one : ℚ)) : 0 < k.units := by
  have hvalue := (two_zpow_pos lo).trans_le h
  rwa [div_pos_iff_of_pos_right Magnitude.cast_one_pos, Nat.cast_pos] at hvalue

theorem HasScale.toRat_pos (h : HasScale false lo hi v) : 0 < v.toRat := by
  obtain ⟨m, rfl, hlow, -⟩ := h
  exact (two_zpow_pos lo).trans_le hlow

theorem HasScale.toRat_neg (h : HasScale true lo hi v) : v.toRat < 0 := by
  obtain ⟨m, rfl, hlow, -⟩ := h
  exact neg_neg_of_pos ((two_zpow_pos lo).trans_le hlow)

/-- An integer that is not zero is at least one. -/
theorem hasScale_ofInt {i : Int} (hne : i ≠ 0) (hhi : hi < 1024) (h : (|i| : ℚ) ≤ 2 ^ hi) :
    HasScale (decide (i < 0)) 0 hi (ofInt i) := by
  rw [ofInt]
  refine hasScale_ofUnits Nat.one_pos (by decide) hhi ?_ ?_
  · rw [value_ofInt, zpow_zero]
    exact_mod_cast Int.one_le_abs hne
  · rwa [value_ofInt]

theorem hasScale_ofNat (hpos : 0 < n) (hhi : hi < 1024) (h : (n : ℚ) ≤ 2 ^ hi) :
    HasScale false 0 hi (ofNat n) := by
  have hscale := hasScale_ofInt (i := n) (by omega) hhi (by simpa using h)
  rwa [ofInt_natCast, decide_eq_false (by omega)] at hscale

theorem mul_finite (s t : Bool) (m k : Magnitude) :
    Binary64.finite s m * .finite t k = ofUnits (s != t) (m.units * k.units) one := by
  change Binary64.mul _ _ = _
  rw [Binary64.mul]

theorem HasScale.mul (hv : HasScale s lo hi v) (hw : HasScale t lo' hi' w)
    (hlow : -1074 ≤ lo + lo') (hhigh : hi + hi' < 1024) :
    HasScale (s != t) (lo + lo') (hi + hi') (v * w) := by
  obtain ⟨m, rfl, hmLow, hmHigh⟩ := hv
  obtain ⟨k, rfl, hkLow, hkHigh⟩ := hw
  have hvalue : ((m.units * k.units : Nat) : ℚ) / one / one =
      m.units / one * (k.units / one) := by
    rw [Nat.cast_mul, div_div, mul_div_mul_comm]
  rw [mul_finite]
  refine hasScale_ofUnits Magnitude.one_pos hlow hhigh ?_ ?_
  · rw [hvalue, zpow_add₀ (by norm_num)]
    exact mul_le_mul hmLow hkLow (two_zpow_pos _).le ((two_zpow_pos _).le.trans hmLow)
  · rw [hvalue, zpow_add₀ (by norm_num)]
    exact mul_le_mul hmHigh hkHigh ((two_zpow_pos _).le.trans hkLow) (two_zpow_pos _).le

theorem HasScale.div (hv : HasScale s lo hi v) (hw : HasScale t lo' hi' w)
    (hlow : -1074 ≤ lo - hi') (hhigh : hi - lo' < 1024) :
    HasScale (s != t) (lo - hi') (hi - lo') (v / w) := by
  obtain ⟨m, rfl, hmLow, hmHigh⟩ := hv
  obtain ⟨k, rfl, hkLow, hkHigh⟩ := hw
  have hkPos : (0 : ℚ) < k.units / one := (two_zpow_pos lo').trans_le hkLow
  have hpos := units_pos_of_le hkLow
  rw [div_finite s t m hpos.ne']
  refine hasScale_ofUnits hpos hlow hhigh ?_ ?_
  · rw [value_div, zpow_sub₀ (by norm_num)]
    exact div_le_div₀ ((two_zpow_pos _).le.trans hmLow) hmLow hkPos hkHigh
  · rw [value_div, zpow_sub₀ (by norm_num)]
    exact div_le_div₀ (two_zpow_pos _).le hmHigh (two_zpow_pos _) hkLow

/-! ## Amounts -/

theorem IsAmount.isFinite (h : IsAmount lo hi v) : v.isFinite = true := by
  rcases h with rfl | hv
  · rfl
  · exact hv.isFinite

theorem toRat_zero (negative : Bool) : (finite negative .zero).toRat = 0 := by
  rw [toRat_finite, Magnitude.units_zero, Nat.cast_zero, zero_div, signed_eq_zero_iff]

theorem HasScale.ne_zero (h : HasScale false lo hi v) : v ≠ zero := by
  rintro rfl
  exact h.toRat_pos.ne' (toRat_zero false)

theorem IsAmount.toRat_nonneg (h : IsAmount lo hi v) : 0 ≤ v.toRat := by
  rcases h with rfl | hv
  · exact (toRat_zero false).ge
  · exact hv.toRat_pos.le

theorem ofNat_zero : ofNat 0 = zero := by
  rw [ofNat, Nat.zero_mul, ofUnits_zero false Nat.one_pos]
  rfl

theorem isAmount_ofNat (hhi : hi < 1024) (h : (n : ℚ) ≤ 2 ^ hi) : IsAmount 0 hi (ofNat n) := by
  rcases Nat.eq_zero_or_pos n with rfl | hpos
  · exact .inl ofNat_zero
  · exact .inr (hasScale_ofNat hpos hhi h)

theorem finite_zero_mul {negative' : Bool} (hw : HasScale t lo hi w)
    (h : (negative != t) = negative') :
    finite negative .zero * w = .finite negative' .zero := by
  obtain ⟨k, rfl, -⟩ := hw
  rw [mul_finite, Magnitude.units_zero, Nat.zero_mul, ofUnits_zero _ Magnitude.one_pos, h]

theorem IsAmount.mul (hv : IsAmount lo hi v) (hw : HasScale false lo' hi' w)
    (hlow : -1074 ≤ lo + lo') (hhigh : hi + hi' < 1024) :
    IsAmount (lo + lo') (hi + hi') (v * w) := by
  rcases hv with rfl | hv
  · exact .inl (finite_zero_mul hw rfl)
  · exact .inr (hv.mul hw hlow hhigh)

theorem finite_zero_div {negative' : Bool} (hw : HasScale t lo hi w)
    (h : (negative != t) = negative') :
    finite negative .zero / w = .finite negative' .zero := by
  obtain ⟨k, rfl, hlow, -⟩ := hw
  have hpos := units_pos_of_le hlow
  rw [div_finite _ _ _ hpos.ne', Magnitude.units_zero, Nat.zero_mul, ofUnits_zero _ hpos, h]

theorem IsAmount.div (hv : IsAmount lo hi v) (hw : HasScale false lo' hi' w)
    (hlow : -1074 ≤ lo - hi') (hhigh : hi - lo' < 1024) :
    IsAmount (lo - hi') (hi - lo') (v / w) := by
  rcases hv with rfl | hv
  · exact .inl (finite_zero_div hw rfl)
  · exact .inr (hv.div hw hlow hhigh)

/-- A quotient of amounts does not underflow. -/
theorem IsAmount.div_eq_zero_iff (hv : IsAmount lo hi v) (hw : HasScale false lo' hi' w)
    (hlow : -1074 ≤ lo - hi') (hhigh : hi - lo' < 1024) : v / w = zero ↔ v = zero := by
  rcases hv with rfl | hv
  · exact iff_of_true (finite_zero_div hw rfl) rfl
  · exact iff_of_false (hv.div hw hlow hhigh).ne_zero hv.ne_zero

/-! ## Amounts with a sign -/

/-- The number has the sign of an integer: it is zero with it, and between those powers of two
otherwise. -/
inductive FollowsSign (i lo hi : ℤ) : Binary64 → Prop where
  | neg {v : Binary64} : i < 0 → HasScale true lo hi v → FollowsSign i lo hi v
  | zero : i = 0 → FollowsSign i lo hi zero
  | pos {v : Binary64} : 0 < i → HasScale false lo hi v → FollowsSign i lo hi v

theorem followsSign_ofInt {i : ℤ} (hhi : hi < 1024) (h : (|i| : ℚ) ≤ 2 ^ hi) :
    FollowsSign i 0 hi (ofInt i) := by
  rcases lt_trichotomy i 0 with hneg | rfl | hpos
  · have hscale := hasScale_ofInt hneg.ne hhi h
    rw [decide_eq_true hneg] at hscale
    exact .neg hneg hscale
  · have hzero : ofInt 0 = Binary64.zero := by
      rw [← Int.natCast_zero, ofInt_natCast, ofNat_zero]
    rw [hzero]
    exact .zero rfl
  · have hscale := hasScale_ofInt hpos.ne' hhi h
    rw [decide_eq_false hpos.not_gt] at hscale
    exact .pos hpos hscale

variable {i : ℤ}

theorem FollowsSign.isFinite (h : FollowsSign i lo hi v) : v.isFinite = true := by
  cases h with
  | neg _ hscale => exact hscale.isFinite
  | zero _ => rfl
  | pos _ hscale => exact hscale.isFinite

theorem FollowsSign.div (hv : FollowsSign i lo hi v) (hw : HasScale false lo' hi' w)
    (hlow : -1074 ≤ lo - hi') (hhigh : hi - lo' < 1024) :
    FollowsSign i (lo - hi') (hi - lo') (v / w) := by
  cases hv with
  | neg hi hscale => exact .neg hi (hscale.div hw hlow hhigh)
  | zero hi =>
    rw [Binary64.zero, finite_zero_div hw rfl]
    exact .zero hi
  | pos hi hscale => exact .pos hi (hscale.div hw hlow hhigh)

theorem FollowsSign.toRat_iff (h : FollowsSign i lo hi v) :
    (v.toRat < 0 ↔ i < 0) ∧ (v.toRat = 0 ↔ i = 0) ∧ (0 < v.toRat ↔ 0 < i) := by
  cases h with
  | neg hi hscale =>
    have hv := hscale.toRat_neg
    exact ⟨iff_of_true hv hi, iff_of_false hv.ne hi.ne, iff_of_false hv.not_gt hi.not_gt⟩
  | zero hi =>
    have hv := toRat_zero false
    exact ⟨iff_of_false hv.not_lt hi.not_lt, iff_of_true hv hi,
      iff_of_false hv.not_gt hi.not_gt⟩
  | pos hi hscale =>
    have hv := hscale.toRat_pos
    exact ⟨iff_of_false hv.not_gt hi.not_gt, iff_of_false hv.ne' hi.ne', iff_of_true hv hi⟩

end Binary64

end Iocost
