import Iocost.Proofs.Binary64.Scale

/-!
# The order of numbers

Numbers that are not NaN are ordered totally (`Binary64.le_trans`, `Binary64.lt_eq_false_iff`), and
amounts that are not below each other are the same (`Binary64.IsAmount.eq_of_le_of_le`). The maximum
of a list, taken from one number to the next, is above all of them (`Binary64.le_foldl_max`).
Rounding never changes an order, so products and quotients of amounts are ordered as their first
factors are (`Binary64.IsAmount.mul_le_mul_right`, `Binary64.IsAmount.div_le_div_right`).
-/

namespace Iocost.Binary64

open Magnitude (one)

variable {a b c v : Binary64}

/-! ## Ranks -/

theorem exists_rank?_eq_some (h : a.isNaN = false) : ∃ x, a.rank? = some x := by
  cases a with
  | nan => cases h
  | infinite _ => exact ⟨_, rfl⟩
  | finite _ _ => exact ⟨_, rfl⟩

theorem le_iff_rank? : a.le b = true ↔ ∃ x y, a.rank? = some x ∧ b.rank? = some y ∧ x ≤ y := by
  unfold le
  cases a.rank? with
  | none => simp
  | some x =>
    cases b.rank? with
    | none => simp
    | some y => simp

theorem le_refl (h : a.isNaN = false) : a.le a = true := by
  obtain ⟨x, hx⟩ := exists_rank?_eq_some h
  exact le_iff_rank?.mpr ⟨x, x, hx, hx, Int.le_refl x⟩

theorem le_trans (hab : a.le b = true) (hbc : b.le c = true) : a.le c = true := by
  obtain ⟨x, y, hx, hy, hxy⟩ := le_iff_rank?.mp hab
  obtain ⟨y', z, hy', hz, hyz⟩ := le_iff_rank?.mp hbc
  obtain rfl : y = y' := Option.some.inj (hy.symm.trans hy')
  exact le_iff_rank?.mpr ⟨x, z, hx, hz, Int.le_trans hxy hyz⟩

theorem lt_eq_false_iff (ha : a.isNaN = false) (hb : b.isNaN = false) :
    a.lt b = false ↔ b.le a = true := by
  obtain ⟨x, hx⟩ := exists_rank?_eq_some ha
  obtain ⟨y, hy⟩ := exists_rank?_eq_some hb
  simp [lt, le, hx, hy]

theorem le_of_lt (h : a.lt b = true) : a.le b = true := by
  unfold lt at h
  split at h
  case h_1 x y hx hy => exact le_iff_rank?.mpr ⟨x, y, hx, hy, (of_decide_eq_true h).le⟩
  case h_2 => cases h

/-! ## The greatest of several numbers -/

theorem max_eq_or (a b : Binary64) : max a b = a ∨ max a b = b := by
  unfold max
  split_ifs
  · exact .inr rfl
  · exact .inr rfl
  · exact .inl rfl

theorem foldl_max_mem (v : Binary64) (vs : List Binary64) : vs.foldl max v ∈ v :: vs := by
  induction vs generalizing v with
  | nil => exact List.mem_cons_self
  | cons w vs ih =>
    rcases List.mem_cons.mp (ih (max v w)) with heq | hmem
    · rw [List.foldl_cons, heq]
      rcases max_eq_or v w with h | h <;> simp [h]
    · exact List.mem_cons_of_mem v (List.mem_cons_of_mem w hmem)

theorem isNaN_max (ha : a.isNaN = false) (hb : b.isNaN = false) : (max a b).isNaN = false := by
  rcases max_eq_or a b with h | h <;> rwa [h]

theorem le_max_left (ha : a.isNaN = false) : a.le (max a b) = true := by
  unfold max
  rw [ha, if_neg Bool.false_ne_true]
  split
  case isTrue hlt => exact le_of_lt hlt
  case isFalse => exact le_refl ha

theorem le_max_right (ha : a.isNaN = false) (hb : b.isNaN = false) : b.le (max a b) = true := by
  unfold max
  rw [ha, if_neg Bool.false_ne_true]
  split
  case isTrue => exact le_refl hb
  case isFalse hlt => exact (lt_eq_false_iff ha hb).mp (Bool.eq_false_iff.mpr hlt)

theorem le_foldl_max {vs : List Binary64} (h : ∀ w ∈ v :: vs, w.isNaN = false) :
    ∀ w ∈ v :: vs, w.le (vs.foldl max v) = true := by
  induction vs generalizing v with
  | nil =>
    intro w hw
    obtain rfl := List.mem_singleton.mp hw
    exact le_refl (h w hw)
  | cons u vs ih =>
    obtain ⟨hv, hu, hvs⟩ := List.forall_mem_cons.mp h |>.imp_right List.forall_mem_cons.mp
    have habove := ih (List.forall_mem_cons.mpr ⟨isNaN_max hv hu, hvs⟩)
    obtain ⟨hmax, hrest⟩ := List.forall_mem_cons.mp habove
    rw [List.foldl_cons]
    intro w hw
    rcases List.mem_cons.mp hw with rfl | hw
    · exact le_trans (le_max_left hv) hmax
    · rcases List.mem_cons.mp hw with rfl | hw
      · exact le_trans (le_max_right hv hu) hmax
      · exact hrest w hw

/-! ## Rounded numbers -/

theorem rank?_ofUnits (n d : Nat) :
    (ofUnits false n d).rank? = some (min (Magnitude.roundUnits n d) Magnitude.limit : Nat) := by
  rw [ofUnits_eq, Magnitude.round?]
  split
  case isTrue h =>
    rw [Nat.min_eq_left h.le]
    rfl
  case isFalse h =>
    rw [Nat.min_eq_right (Nat.le_of_not_lt h)]
    rfl

theorem ofUnits_le_ofUnits {n d n' d' : Nat} (hd : 0 < d) (hd' : 0 < d') (h : n * d' ≤ n' * d) :
    (ofUnits false n d).le (ofUnits false n' d') = true := by
  refine le_iff_rank?.mpr ⟨_, _, rank?_ofUnits n d, rank?_ofUnits n' d', ?_⟩
  exact_mod_cast min_le_min_right _ (Magnitude.roundUnits_mono hd hd' h)

theorem ofNat_le_ofNat {n n' : Nat} (h : n ≤ n') : (ofNat n).le (ofNat n') = true :=
  ofUnits_le_ofUnits Nat.one_pos Nat.one_pos
    (Nat.mul_le_mul_right 1 (Nat.mul_le_mul_right one h))

theorem finite_le_finite_iff {m k : Magnitude} :
    (finite false m).le (finite false k) = true ↔ m.units ≤ k.units := by
  change decide ((m.units : ℤ) ≤ k.units) = true ↔ _
  rw [decide_eq_true_iff, Int.ofNat_le]

/-! ## Amounts -/

variable {lo hi lo' hi' : ℤ}

theorem IsAmount.exists_eq_finite (h : IsAmount lo hi a) : ∃ m, a = finite false m := by
  rcases h with rfl | ⟨m, rfl, -⟩
  · exact ⟨_, rfl⟩
  · exact ⟨m, rfl⟩

theorem IsAmount.isNaN (h : IsAmount lo hi a) : a.isNaN = false := by
  obtain ⟨m, rfl⟩ := h.exists_eq_finite
  rfl

theorem IsAmount.eq_of_le_of_le (ha : IsAmount lo hi a) (hb : IsAmount lo' hi' b)
    (hab : a.le b = true) (hba : b.le a = true) : a = b := by
  obtain ⟨⟨units, _, _⟩, rfl⟩ := ha.exists_eq_finite
  obtain ⟨⟨units', _, _⟩, rfl⟩ := hb.exists_eq_finite
  obtain rfl : units = units' :=
    Nat.le_antisymm (finite_le_finite_iff.mp hab) (finite_le_finite_iff.mp hba)
  rfl

theorem IsAmount.mul_le_mul_right (ha : IsAmount lo hi a) (hb : IsAmount lo' hi' b)
    {lo'' hi'' : ℤ} (hc : HasScale false lo'' hi'' c) (h : a.le b = true) :
    (a * c).le (b * c) = true := by
  obtain ⟨m, rfl⟩ := ha.exists_eq_finite
  obtain ⟨k, rfl⟩ := hb.exists_eq_finite
  obtain ⟨d, rfl, -⟩ := hc
  rw [mul_finite, mul_finite]
  exact ofUnits_le_ofUnits Magnitude.one_pos Magnitude.one_pos
    (Nat.mul_le_mul_right one (Nat.mul_le_mul_right d.units (finite_le_finite_iff.mp h)))

theorem IsAmount.div_le_div_right (ha : IsAmount lo hi a) (hb : IsAmount lo' hi' b)
    {lo'' hi'' : ℤ} (hc : HasScale false lo'' hi'' c) (h : a.le b = true) :
    (a / c).le (b / c) = true := by
  obtain ⟨m, rfl⟩ := ha.exists_eq_finite
  obtain ⟨k, rfl⟩ := hb.exists_eq_finite
  obtain ⟨d, rfl, hlow, -⟩ := hc
  have hpos := units_pos_of_le hlow
  rw [div_finite false false m hpos.ne', div_finite false false k hpos.ne']
  exact ofUnits_le_ofUnits hpos hpos
    (Nat.mul_le_mul_right d.units (Nat.mul_le_mul_right one (finite_le_finite_iff.mp h)))

theorem HasScale.isPositive (h : HasScale false lo hi a) : a.isPositive = true := by
  obtain ⟨m, rfl, hlow, -⟩ := h
  exact decide_eq_true (Int.natCast_pos.mpr (units_pos_of_le hlow))

end Iocost.Binary64
