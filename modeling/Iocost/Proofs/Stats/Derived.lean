import Iocost.Proofs.Binary64.Order

/-!
# Derived statistics

The numbers derived from counters are finite, whatever the counters and the constants are, and only
the virtual time in flight can be negative. It is the quotient of two exact integers, each rounded
once, and keeps the sign of the difference of the counters (`derived_numbers_finite`).
-/

namespace Iocost

namespace Binary64

variable {t : Bool} {lo hi lo' hi' : ℤ} {v w : Binary64}

theorem cast_counter_le (n : UInt64) : (n.toNat : ℚ) ≤ 2 ^ (64 : ℤ) := by
  have hlt : n.toNat < 2 ^ 64 := n.toNat_lt
  exact_mod_cast hlt.le

theorem isAmount_ofCounter (n : UInt64) : IsAmount 0 64 (ofCounter n) :=
  isAmount_ofNat (by decide) (cast_counter_le n)

theorem ofCounter_zero : ofCounter 0 = zero := ofNat_zero

theorem hasScale_ofCounter (h : n ≠ 0) : HasScale false 0 64 (ofCounter n) :=
  hasScale_ofNat (Nat.pos_of_ne_zero fun hzero => h (UInt64.toNat_inj.mp hzero)) (by decide)
    (cast_counter_le n)

theorem ofCounter_eq_zero_iff {n : UInt64} : ofCounter n = zero ↔ n = 0 := by
  constructor
  · intro h
    by_contra hne
    exact (hasScale_ofCounter hne).ne_zero h
  · rintro rfl
    exact ofCounter_zero

theorem ratio_of_hasScale (v : Binary64) (hw : HasScale t lo hi w) : ratio v w = v / w := by
  obtain ⟨m, rfl, hm, -⟩ := hw
  exact if_neg (units_pos_of_le hm).ne'

/-- The divisor is zero, or the quotient has its scale. -/
theorem IsAmount.ratio (hv : IsAmount lo hi v) (hw : IsAmount lo' hi' w)
    (hlow : -1074 ≤ lo - hi') (hhigh : hi - lo' < 1024) :
    IsAmount (lo - hi') (hi - lo') (Binary64.ratio v w) := by
  rcases hw with rfl | hw
  · exact .inl rfl
  · rw [ratio_of_hasScale v hw]
    exact hv.div hw hlow hhigh

theorem ratio_eq_zero_iff {n d : UInt64} :
    ratio (ofCounter n) (ofCounter d) = zero ↔ n = 0 ∨ d = 0 := by
  by_cases hd : d = 0
  · refine iff_of_true ?_ (.inr hd)
    rw [hd, ofCounter_zero]
    rfl
  · have hscale := hasScale_ofCounter hd
    rw [ratio_of_hasScale _ hscale,
      (isAmount_ofCounter n).div_eq_zero_iff hscale (by decide) (by decide), ofCounter_eq_zero_iff]
    exact (or_iff_left hd).symm

theorem hasScale_hundred : HasScale false 0 7 (ofNat 100) :=
  hasScale_ofNat (by decide) (by decide) (by norm_num)

theorem hasScale_thousand : HasScale false 0 10 (ofNat 1000) :=
  hasScale_ofNat (by decide) (by decide) (by norm_num)

theorem hasScale_million : HasScale false 0 20 (ofNat 1000000) :=
  hasScale_ofNat (by decide) (by decide) (by norm_num)

theorem isAmount_percent (n : UInt64) (hw : IsAmount 0 64 w) : IsAmount (-64) 71 (percent n w) := by
  have hproduct := (isAmount_ofCounter n).mul hasScale_hundred (by decide) (by decide)
  exact hproduct.ratio hw (by decide) (by decide)

end Binary64

/-- The numbers that are derived for a controller. -/
def ControllerStats.amounts (s : ControllerStats) : List Binary64 :=
  [s.period, s.periodAt, s.vperiodAt, s.vrate]

/-- The numbers that are derived for a node, but for the virtual time in flight. -/
def NodeStats.amounts (s : NodeStats) : List Binary64 :=
  [s.hweightActive, s.hweightInuse, s.debt, s.delay] ++ s.usages ++ s.usage.toList

/-- Virtual time issued and not yet done. -/
def NodeCounters.pending (raw : NodeCounters) : ℤ := raw.vtime.toNat - raw.doneVtime.toNat

/-- Virtual time in a period. -/
def ControllerCounters.periodVtime (raw : ControllerCounters) : ℕ :=
  raw.period.toNat * raw.vtimeRate.toNat

section Amounts

variable {controller : ControllerCounters} {constants : Constants} {v : Binary64}

open Binary64

theorem ControllerStats.isAmount_of_mem
    (hv : v ∈ (ControllerStats.derive controller constants).amounts) :
    ∃ lo hi, IsAmount lo hi v := by
  simp only [amounts, derive, List.mem_cons, List.not_mem_nil, or_false] at hv
  rcases hv with hv | hv | hv | hv <;> rw [hv]
  · exact ⟨_, _, (isAmount_ofCounter _).div hasScale_thousand (by decide) (by decide)⟩
  · exact ⟨_, _, (isAmount_ofCounter _).div hasScale_million (by decide) (by decide)⟩
  · exact ⟨_, _, (isAmount_ofCounter _).ratio (isAmount_ofCounter _) (by decide) (by decide)⟩
  · exact ⟨_, _, isAmount_percent _ (isAmount_ofCounter _)⟩

variable {raw : NodeCounters}

theorem NodeStats.isAmount_of_mem_usages
    (hv : v ∈ (NodeStats.derive raw controller constants).usages) : IsAmount (-64) 71 v := by
  obtain ⟨n, -, rfl⟩ := List.mem_map.mp hv
  exact isAmount_percent n (isAmount_ofCounter _)

theorem NodeStats.mem_filter_of_greatest? {vs : List Binary64} (hv : greatest? vs = some v) :
    v ∈ vs.filter isPositive := by
  unfold greatest? at hv
  split at hv
  case h_1 => cases hv
  case h_2 w rest hfilter =>
    cases hv
    exact hfilter ▸ foldl_max_mem w rest

theorem NodeStats.mem_of_greatest? {vs : List Binary64} (hv : greatest? vs = some v) : v ∈ vs :=
  List.mem_of_mem_filter (mem_filter_of_greatest? hv)

theorem NodeStats.isAmount_debt (raw : NodeCounters) (controller : ControllerCounters)
    (constants : Constants) : IsAmount (-74) 64 (derive raw controller constants).debt :=
  ((isAmount_ofCounter _).ratio (isAmount_ofCounter _) (by decide) (by decide)).div
    hasScale_thousand (by decide) (by decide)

theorem NodeStats.isAmount_delay (raw : NodeCounters) (controller : ControllerCounters)
    (constants : Constants) : IsAmount (-20) 64 (derive raw controller constants).delay :=
  (isAmount_ofCounter _).div hasScale_million (by decide) (by decide)

theorem NodeStats.debt_eq_zero_iff : (derive raw controller constants).debt = zero ↔
    raw.debt = 0 ∨ constants.vtimePerMicrosecond = 0 := by
  rw [← ratio_eq_zero_iff]
  exact ((isAmount_ofCounter _).ratio (isAmount_ofCounter _) (by decide)
    (by decide)).div_eq_zero_iff hasScale_thousand (by decide) (by decide)

theorem NodeStats.delay_eq_zero_iff :
    (derive raw controller constants).delay = zero ↔ raw.delay = 0 := by
  rw [← ofCounter_eq_zero_iff]
  exact (isAmount_ofCounter _).div_eq_zero_iff hasScale_million (by decide) (by decide)

theorem NodeStats.isAmount_of_mem
    (hv : v ∈ (NodeStats.derive raw controller constants).amounts) : ∃ lo hi, IsAmount lo hi v := by
  simp only [amounts, List.mem_append, List.mem_cons, List.not_mem_nil, or_false,
    Option.mem_toList] at hv
  rcases hv with (hv | husage) | hgreatest
  · simp only [derive] at hv
    rcases hv with hv | hv | hv | hv <;> rw [hv]
    · exact ⟨_, _, isAmount_percent _ (isAmount_ofCounter _)⟩
    · exact ⟨_, _, isAmount_percent _ (isAmount_ofCounter _)⟩
    · exact ⟨_, _, isAmount_debt raw controller constants⟩
    · exact ⟨_, _, isAmount_delay raw controller constants⟩
  · exact ⟨_, _, isAmount_of_mem_usages husage⟩
  · have hmem : v ∈ (derive raw controller constants).usages := mem_of_greatest? hgreatest
    exact ⟨_, _, isAmount_of_mem_usages hmem⟩

end Amounts

/-! ## Virtual time in flight -/

theorem NodeCounters.abs_pending_lt (raw : NodeCounters) : |raw.pending| < 2 ^ 64 := by
  have hvtime := raw.vtime.toNat_lt
  have hdone := raw.doneVtime.toNat_lt
  rw [abs_lt, pending]
  omega

theorem NodeCounters.cast_pending_mul (raw : NodeCounters) :
    ((raw.pending * 100 : ℤ) : ℚ) = 100 * (raw.vtime.toNat - raw.doneVtime.toNat) := by
  rw [pending]
  push_cast
  ring

theorem ControllerCounters.periodVtime_lt (raw : ControllerCounters) :
    raw.periodVtime < 2 ^ 128 := by
  have hlt := Nat.mul_lt_mul'' raw.period.toNat_lt raw.vtimeRate.toNat_lt
  rwa [← Nat.pow_add] at hlt

theorem ControllerCounters.periodVtime_eq_zero (raw : ControllerCounters) :
    raw.periodVtime = 0 ↔ raw.period = 0 ∨ raw.vtimeRate = 0 := by
  rw [periodVtime, Nat.mul_eq_zero]
  refine or_congr ?_ ?_ <;> exact ⟨fun h => UInt64.toNat_inj.mp h, fun h => h ▸ rfl⟩

namespace NodeStats

open Binary64

variable {raw : NodeCounters} {controller : ControllerCounters}

theorem inflightOf_eq : inflightOf raw controller =
    if controller.periodVtime = 0 then none
    else some (.ofInt (raw.pending * 100) / .ofNat controller.periodVtime) := rfl

theorem followsSign_pending (raw : NodeCounters) :
    FollowsSign (raw.pending * 100) 0 71 (.ofInt (raw.pending * 100)) := by
  obtain ⟨hlow, hhigh⟩ := abs_lt.mp raw.abs_pending_lt
  have habs : |raw.pending * 100| ≤ 2 ^ 71 := abs_le.mpr ⟨by omega, by omega⟩
  refine followsSign_ofInt (by decide) ?_
  exact_mod_cast habs

theorem hasScale_periodVtime (h : controller.periodVtime ≠ 0) :
    HasScale false 0 128 (.ofNat controller.periodVtime) := by
  refine hasScale_ofNat (Nat.pos_of_ne_zero h) (by decide) ?_
  exact_mod_cast controller.periodVtime_lt.le

/-- The quotient keeps the sign, so it does not underflow. -/
theorem followsSign_inflight (raw : NodeCounters) (h : controller.periodVtime ≠ 0) :
    FollowsSign (raw.pending * 100) (-128) 71
      (.ofInt (raw.pending * 100) / .ofNat controller.periodVtime) :=
  (followsSign_pending raw).div (hasScale_periodVtime h) (by decide) (by decide)

end NodeStats

open Binary64 in
/-- **Derived numbers are finite.** But for the virtual time in flight they are not negative either.
There is virtual time in flight unless the period is empty. It is the rounded quotient of two
rounded integers that 128 bits hold, and it has the sign of the difference of the counters. -/
theorem derived_numbers_finite (raw : NodeCounters) (controller : ControllerCounters)
    (constants : Constants) :
    (∀ v ∈ (ControllerStats.derive controller constants).amounts ++
        (NodeStats.derive raw controller constants).amounts,
      v.isFinite = true ∧ 0 ≤ v.toRat) ∧
    ((NodeStats.derive raw controller constants).inflight = none ↔
      controller.period = 0 ∨ controller.vtimeRate = 0) ∧
    (∀ v, (NodeStats.derive raw controller constants).inflight = some v →
      ∃ n d : Binary64, n.IsNearest (100 * (raw.vtime.toNat - raw.doneVtime.toNat)) ∧
        d.IsNearest (controller.period.toNat * controller.vtimeRate.toNat) ∧
        v = n / d ∧ v.IsNearest (n.toRat / d.toRat) ∧
        (v.toRat < 0 ↔ raw.vtime < raw.doneVtime) ∧
        (v.toRat = 0 ↔ raw.vtime = raw.doneVtime) ∧
        (0 < v.toRat ↔ raw.doneVtime < raw.vtime)) ∧
    (∀ i ∈ [raw.pending, raw.pending * 100], -2 ^ 127 ≤ i ∧ i < 2 ^ 127) ∧
    controller.periodVtime < 2 ^ 128 := by
  refine ⟨fun v hv => ?_, ?_, fun v hv => ?_, ?_, controller.periodVtime_lt⟩
  · have hamount : ∃ lo hi, IsAmount lo hi v := by
      rcases List.mem_append.mp hv with hv | hv
      · exact ControllerStats.isAmount_of_mem hv
      · exact NodeStats.isAmount_of_mem hv
    obtain ⟨lo, hi, hamount⟩ := hamount
    exact ⟨hamount.isFinite, hamount.toRat_nonneg⟩
  · rw [← controller.periodVtime_eq_zero, NodeStats.derive, NodeStats.inflightOf_eq]
    simp
  · rw [NodeStats.derive, NodeStats.inflightOf_eq] at hv
    split at hv
    case isTrue => cases hv
    case isFalse hperiod =>
      have hquotient := (Option.some.inj hv).symm
      have hissued := NodeStats.followsSign_pending raw
      have hscale := NodeStats.hasScale_periodVtime hperiod
      have hinflight := NodeStats.followsSign_inflight raw hperiod
      have hnearest := isNearest_div hissued.isFinite hscale.isFinite hscale.toRat_pos.ne'
        hinflight.isFinite
      rw [← hquotient] at hinflight hnearest
      refine ⟨_, _, ?_, ?_, hquotient, hnearest, ?_⟩
      · rw [← raw.cast_pending_mul]
        exact isNearest_ofInt hissued.isFinite
      · rw [← Nat.cast_mul]
        exact isNearest_ofNat hscale.isFinite
      · obtain ⟨hneg, hzero, hpos⟩ := hinflight.toRat_iff
        rw [hneg, hzero, hpos, UInt64.lt_iff_toNat_lt, UInt64.lt_iff_toNat_lt,
          ← UInt64.toNat_inj, NodeCounters.pending]
        omega
  · obtain ⟨hlow, hhigh⟩ := abs_lt.mp raw.abs_pending_lt
    simp only [List.mem_cons, List.not_mem_nil, or_false]
    rintro i (rfl | rfl) <;> omega

/-- The counters that are furthest apart, over the longest period, with constants that are zero. -/
theorem derived_numbers_finite_extremes :
    ∃ v, (NodeStats.derive { vtime := 0, doneVtime := 0xffffffffffffffff }
        { period := 0xffffffffffffffff, vtimeRate := 0xffffffffffffffff }
        ⟨0, 0, 0, 0, 0, 0, 0, 0, 0⟩).inflight = some v ∧ v.isFinite = true ∧ v.toRat < 0 := by
  obtain ⟨-, hnone, hsome, -⟩ := derived_numbers_finite
    { vtime := 0, doneVtime := 0xffffffffffffffff }
    { period := 0xffffffffffffffff, vtimeRate := 0xffffffffffffffff } ⟨0, 0, 0, 0, 0, 0, 0, 0, 0⟩
  obtain ⟨v, hv⟩ := Option.ne_none_iff_exists'.mp (mt hnone.mp (by decide))
  obtain ⟨n, d, -, -, -, hnearest, hless, -⟩ := hsome v hv
  exact ⟨v, hv, hnearest.finite, hless.mpr (by decide)⟩

end Iocost
