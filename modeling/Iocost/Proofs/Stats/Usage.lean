import Iocost.Proofs.Stats.Derived
import Iocost.Proofs.Stats.History
import Mathlib.Data.Finset.Max

/-!
# The usage of a node

The usage of a node is the greatest of the percentages in its usage history. Percentages of a whole
are ordered as the counters are that they come from (`Binary64.percent_le_percent`), and they vanish
only with the counter or the whole (`Binary64.isPositive_percent_iff`). So the usage comes from the
largest slot, wherever it is in the ring (`usage_of_largest_slot`).
-/

namespace Iocost

namespace Binary64

variable {n n' whole : UInt64}

theorem hasScale_percent (hn : n ≠ 0) (hwhole : whole ≠ 0) :
    HasScale false (-64) 71 (percent n (ofCounter whole)) := by
  have hproduct := (hasScale_ofCounter hn).mul hasScale_hundred (by decide) (by decide)
  rw [percent, ratio_of_hasScale _ (hasScale_ofCounter hwhole)]
  exact hproduct.div (hasScale_ofCounter hwhole) (by decide) (by decide)

theorem percent_of_whole_zero (n : UInt64) : percent n (ofCounter 0) = zero := by
  rw [ofCounter_zero]
  rfl

theorem percent_zero (whole : UInt64) : percent 0 (ofCounter whole) = zero := by
  by_cases hwhole : whole = 0
  · rw [hwhole, percent_of_whole_zero]
  · have hscale := hasScale_ofCounter hwhole
    rw [percent, ofCounter_zero, zero, finite_zero_mul hasScale_hundred rfl,
      ratio_of_hasScale _ hscale]
    exact finite_zero_div hscale rfl

theorem isPositive_percent_iff :
    (percent n (ofCounter whole)).isPositive = true ↔ n ≠ 0 ∧ whole ≠ 0 := by
  constructor
  · intro h
    constructor
    · rintro rfl
      rw [percent_zero] at h
      cases h
    · rintro rfl
      rw [percent_of_whole_zero] at h
      cases h
  · rintro ⟨hn, hwhole⟩
    exact (hasScale_percent hn hwhole).isPositive

/-- Each of the three roundings keeps the order. -/
theorem percent_le_percent (h : n ≤ n') :
    (percent n (ofCounter whole)).le (percent n' (ofCounter whole)) = true := by
  by_cases hwhole : whole = 0
  · rw [hwhole, percent_of_whole_zero, percent_of_whole_zero]
    exact le_refl rfl
  · have hproduct (n : UInt64) :=
      (isAmount_ofCounter n).mul hasScale_hundred (by decide) (by decide)
    have hscale := hasScale_ofCounter hwhole
    rw [percent, percent, ratio_of_hasScale _ hscale, ratio_of_hasScale _ hscale]
    refine (hproduct n).div_le_div_right (hproduct n') hscale ?_
    refine (isAmount_ofCounter n).mul_le_mul_right (isAmount_ofCounter n') hasScale_hundred ?_
    exact ofNat_le_ofNat (UInt64.le_iff_toNat_le.mp h)

end Binary64

namespace NodeStats

open Binary64

variable {vs : List Binary64} {v : Binary64}

theorem greatest?_eq_none_iff : greatest? vs = none ↔ ∀ w ∈ vs, w.isPositive = false := by
  have hfilter : vs.filter isPositive = [] ↔ ∀ w ∈ vs, w.isPositive = false := by
    rw [List.filter_eq_nil_iff]
    simp only [Bool.not_eq_true]
  rw [← hfilter, greatest?]
  cases vs.filter isPositive <;> simp

/-- The greatest number is above those that are not positive, too. -/
theorem le_of_greatest? (hnumber : ∀ w ∈ vs, w.isNaN = false) (h : greatest? vs = some v) :
    ∀ w ∈ vs, w.le v = true := by
  intro w hw
  unfold greatest? at h
  split at h
  case h_1 => cases h
  case h_2 u rest hfilter =>
    cases h
    have hpositive : ∀ x ∈ u :: rest, x ∈ vs ∧ x.isPositive = true := fun x hx =>
      List.mem_filter.mp (hfilter ▸ hx)
    have habove := le_foldl_max fun x hx => hnumber x (hpositive x hx).1
    cases hsign : w.isPositive with
    | true => exact habove w (hfilter ▸ List.mem_filter.mpr ⟨hw, hsign⟩)
    | false =>
      have hzero : w.le zero = true := (lt_eq_false_iff rfl (hnumber w hw)).mp hsign
      have hfirst : zero.le u = true := le_of_lt (hpositive u List.mem_cons_self).2
      exact le_trans hzero (le_trans hfirst (habove u List.mem_cons_self))

variable {raw : NodeCounters} {controller : ControllerCounters} {constants : Constants}

theorem usage_derive : (derive raw controller constants).usage =
    greatest? (derive raw controller constants).usages := rfl

theorem usages_derive : (derive raw controller constants).usages =
    (ringInOrder raw.usages raw.usageIndex.toNat).map
      (percent · (ofCounter constants.wholeWeight)) := rfl

theorem mem_usages_derive_iff :
    v ∈ (derive raw controller constants).usages ↔
      ∃ slot ∈ raw.usages, percent slot (ofCounter constants.wholeWeight) = v := by
  rw [usages_derive, List.mem_map]
  simp only [ringInOrder_eq_rotate, List.mem_rotate]

/-- The usage comes from the largest slot, although others may have the same percentage. -/
theorem eq_percent_of_usage {largest : UInt64} (hmem : largest ∈ raw.usages)
    (hlargest : ∀ slot ∈ raw.usages, slot ≤ largest)
    (h : (derive raw controller constants).usage = some v) :
    v = percent largest (ofCounter constants.wholeWeight) := by
  rw [usage_derive] at h
  obtain ⟨slot, hslot, rfl⟩ := mem_usages_derive_iff.mp (mem_of_greatest? h)
  have habove := le_of_greatest? (fun w hw => (isAmount_of_mem_usages hw).isNaN) h _
    (mem_usages_derive_iff.mpr ⟨largest, hmem, rfl⟩)
  have hamount (n : UInt64) := isAmount_percent n (isAmount_ofCounter constants.wholeWeight)
  exact (hamount slot).eq_of_le_of_le (hamount largest) (percent_le_percent (hlargest slot hslot))
    habove

theorem exists_largest {slots : List UInt64} (hne : slots ≠ []) :
    ∃ largest ∈ slots, ∀ slot ∈ slots, slot ≤ largest := by
  obtain ⟨largest, hmem, hle⟩ := slots.toFinset.exists_max_image UInt64.toNat
    (List.toFinset_nonempty_iff slots |>.mpr hne)
  simp only [List.mem_toFinset] at hmem hle
  exact ⟨largest, hmem, hle⟩

theorem usage_eq_some_iff :
    (derive raw controller constants).usage = some v ↔ v.isPositive = true ∧
      ∃ largest ∈ raw.usages, (∀ slot ∈ raw.usages, slot ≤ largest) ∧
        v = percent largest (ofCounter constants.wholeWeight) := by
  constructor
  · intro h
    have husage := h
    rw [usage_derive] at husage
    obtain ⟨hmem, hpositive⟩ := List.mem_filter.mp (mem_filter_of_greatest? husage)
    obtain ⟨slot, hslot, -⟩ := mem_usages_derive_iff.mp hmem
    obtain ⟨largest, hlargest, hle⟩ := exists_largest (List.ne_nil_of_mem hslot)
    exact ⟨hpositive, largest, hlargest, hle, eq_percent_of_usage hlargest hle h⟩
  · rintro ⟨hpositive, largest, hmem, hle, heq⟩
    rw [heq] at hpositive ⊢
    cases husage : (derive raw controller constants).usage with
    | none =>
      rw [usage_derive, greatest?_eq_none_iff] at husage
      have hzero := husage _ (mem_usages_derive_iff.mpr ⟨largest, hmem, rfl⟩)
      exact absurd hpositive (Bool.eq_false_iff.mp hzero)
    | some usage => exact congrArg some (eq_percent_of_usage hmem hle husage)

theorem usage_eq_none_iff :
    (derive raw controller constants).usage = none ↔
      constants.wholeWeight = 0 ∨ ∀ slot ∈ raw.usages, slot = 0 := by
  have hsign (slot : UInt64) :
      (percent slot (ofCounter constants.wholeWeight)).isPositive = false ↔
        constants.wholeWeight = 0 ∨ slot = 0 := by
    rw [← Bool.not_eq_true, isPositive_percent_iff]
    tauto
  rw [usage_derive, greatest?_eq_none_iff]
  constructor
  · intro h
    by_cases hwhole : constants.wholeWeight = 0
    · exact .inl hwhole
    · refine .inr fun slot hslot => ?_
      have hzero := h _ (mem_usages_derive_iff.mpr ⟨slot, hslot, rfl⟩)
      exact ((hsign slot).mp hzero).resolve_left hwhole
  · intro h w hw
    obtain ⟨slot, hslot, rfl⟩ := mem_usages_derive_iff.mp hw
    exact (hsign slot).mpr (h.imp_right fun hslots => hslots slot hslot)

end NodeStats

open Binary64 in
/-- **The usage of a node comes from the largest slot.** There is none exactly if the whole or all
slots are zero. Otherwise it is the percentage of the largest slot, which stands in the usage
history and is not below any other there. The cursor of the ring makes no difference to it. -/
theorem usage_of_largest_slot (raw : NodeCounters) (controller : ControllerCounters)
    (constants : Constants) :
    let stats := NodeStats.derive raw controller constants
    (stats.usage = none ↔ constants.wholeWeight = 0 ∨ ∀ slot ∈ raw.usages, slot = 0) ∧
    (∀ usage, stats.usage = some usage →
      (∃ largest ∈ raw.usages, (∀ slot ∈ raw.usages, slot ≤ largest) ∧
        usage = percent largest (ofCounter constants.wholeWeight)) ∧
      usage ∈ stats.usages ∧ ∀ other ∈ stats.usages, other.le usage = true) ∧
    ∀ index, (NodeStats.derive { raw with usageIndex := index } controller constants).usage =
      stats.usage := by
  refine ⟨NodeStats.usage_eq_none_iff, fun usage h => ⟨?_, NodeStats.mem_of_greatest? h, ?_⟩,
    fun index => Option.ext fun usage => ?_⟩
  · exact (NodeStats.usage_eq_some_iff.mp h).2
  · exact NodeStats.le_of_greatest? (fun w hw => (NodeStats.isAmount_of_mem_usages hw).isNaN) h
  · rw [NodeStats.usage_eq_some_iff, NodeStats.usage_eq_some_iff]

/-- Two slots that differ by one have the same percentage; the cursor is between them. -/
theorem usage_of_largest_slot_equalShares :
    let raw : NodeCounters := { usages := [0xfffffffffffffffe, 0, 0xffffffffffffffff] }
    let share (slot : UInt64) := Binary64.percent slot (.ofCounter 65536)
    share 0xfffffffffffffffe = share 0xffffffffffffffff ∧
    ∃ usage, (NodeStats.derive { raw with usageIndex := 2 } {} {}).usage = some usage ∧
      (NodeStats.derive raw {} {}).usage = some usage ∧ usage = share 0xffffffffffffffff := by
  intro raw share
  obtain ⟨hnone, hsome, hindex⟩ := usage_of_largest_slot raw {} {}
  have hused : ¬((65536 : UInt64) = 0 ∨ ∀ slot ∈ raw.usages, slot = 0) := by
    rintro (hwhole | hslots)
    · exact absurd hwhole (by decide)
    · exact absurd (hslots _ List.mem_cons_self) (by decide)
  obtain ⟨usage, husage⟩ := Option.ne_none_iff_exists'.mp (mt hnone.mp hused)
  obtain ⟨⟨largest, hmem, hle, hshare⟩, -⟩ := hsome usage husage
  have hgreatest : largest ≤ 0xffffffffffffffff :=
    UInt64.le_iff_toNat_le.mpr (Nat.le_of_lt_succ largest.toNat_lt)
  obtain rfl := UInt64.le_antisymm hgreatest (hle _ (by decide))
  exact ⟨by decide +kernel, usage, (hindex 2).trans husage, husage, hshare⟩

end Iocost
