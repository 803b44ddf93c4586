import Iocost.Proofs.Binary64.Integers
import Iocost.Proofs.Sample.PathTail
import Iocost.Proofs.Stats.History
import Iocost.Proofs.Stats.Usage
import Iocost.Proofs.Text.Integer
import Mathlib.Data.List.Forall2

/-!
# The columns of a row

A row has its path in a column of fixed width and the numbers of a node behind it. The column of the
path keeps its width with any path (`Table.path_column`). Debt, delay and usages keep theirs with
any counters, since they are capped, and debt and delay are rounded up, so that they are not shown
as zero unless they are (`Table.row_derive`).
-/

namespace Iocost

namespace Text

variable {i : ℤ} {cs : List Char}

/-- The text is an integer in three decimal digits. -/
structure IsThreeDigits (i : ℤ) (cs : List Char) : Prop where
  length : cs.length = 3
  isDigit : ∀ c ∈ cs, c.isDigit = true
  value : (Nat.ofDigitChars 10 cs 0 : ℤ) = i

theorem length_toDigits_le_three {n : Nat} (h : n ≤ 999) : (Nat.toDigits 10 n).length ≤ 3 :=
  (Nat.length_toDigits_le_iff (by decide) (by decide)).mpr (Nat.lt_succ_of_le h)

theorem isThreeDigits_zeroPadded (hnonneg : 0 ≤ i) (hle : i ≤ 999) :
    IsThreeDigits i (zeroPadded 3 i) := by
  obtain ⟨n, rfl⟩ := Int.eq_ofNat_of_zero_le hnonneg
  have hlength := length_toDigits_le_three (Int.ofNat_le.mp hle)
  rw [zeroPadded, if_neg hnonneg.not_gt, Int.natAbs_natCast]
  refine ⟨?_, fun c hc => isDigit_of_mem_replicate_append hc,
    congrArg _ (ofDigitChars_replicate_append _ n)⟩
  rw [List.length_append, List.length_replicate]
  omega

theorem zeroPadded_eq_zeros_iff (hnonneg : 0 ≤ i) (hle : i ≤ 999) :
    zeroPadded 3 i = ['0', '0', '0'] ↔ i = 0 := by
  constructor
  · intro h
    rw [← (isThreeDigits_zeroPadded hnonneg hle).value, h]
    rfl
  · rintro rfl
    rfl

theorem length_integer_le_three (hnonneg : 0 ≤ i) (hle : i ≤ 999) : (integer i).length ≤ 3 := by
  rw [integer, if_neg hnonneg.not_gt]
  exact length_toDigits_le_three (by omega)

theorem integer_eq_zero_iff : integer i = ['0'] ↔ i = 0 := by
  constructor
  · intro h
    unfold integer at h
    split at h
    case isTrue => cases h
    case isFalse => exact Int.natAbs_eq_zero.mp (toDigits_injective h)
  · rintro rfl
    rfl

/-- Three characters for each text, and one more between two of them. -/
theorem length_intercalate_three {c : Char} {groups : List (List Char)}
    (h : ∀ g ∈ groups, g.length = 3) :
    (List.intercalate [c] groups).length = 4 * groups.length - 1 := by
  induction groups with
  | nil => rfl
  | cons g groups ih =>
    obtain ⟨hg, hgroups⟩ := List.forall_mem_cons.mp h
    cases groups with
    | nil => rw [List.intercalate_singleton, hg, List.length_singleton]
    | cons g' groups =>
      rw [List.intercalate_cons_cons, List.length_append, List.length_append, ih hgroups, hg]
      simp only [List.length_cons, List.length_nil]
      omega

end Text

/-! ## Rows -/

namespace Table

open Text Binary64

/-- The columns of a row between its path and its debt. -/
def countColumns (s : NodeStats) : List Char :=
  (if s.isActive then '*' else ' ') :: ' ' ::
    (counterColumn 5 s.inuse ++ "/".toList ++ counterColumn 5 s.active ++ " ".toList ++
      padLeft 6 (s.hweightInuse.fixed 2) ++ "/".toList ++ padLeft 6 (s.hweightActive.fixed 2) ++
      " ".toList ++ padLeft 6 ((s.inflight.getD .zero).fixed 2))

theorem row_eq (path : String) (s : NodeStats) :
    row path s = padRight pathWidth (pathTail path pathWidth).toList ++ ' ' :: countColumns s ++
      ' ' :: padLeft 3 (integer (ceilCapped s.debt maxDebt)) ++
      ' ' :: padLeft 2 (integer (min s.useDelay.toInt maxUseDelay)) ++
      '*' :: zeroPadded 3 (ceilCapped s.delay maxDelay) ++
      ' ' :: List.intercalate [':'] (s.usages.map usageText) := by
  simp [row, columns, countColumns]

/-- **The path keeps to its column.** The column has the last characters of the path, as many as
fit, filled up with blanks, and a blank behind it; the path makes no difference to the columns that
follow. The path is cut between two of its characters. -/
theorem path_column (path : String) (s : NodeStats) :
    ∃ front tail : String, path = front ++ tail ∧ tail.length = min 28 path.length ∧
      pathTail path 28 = tail ∧
      (row path s).take 28 = tail.toList ++ List.replicate (28 - tail.length) ' ' ∧
      (row path s)[28]? = some ' ' ∧
      ∀ other, (row other s).drop 29 = (row path s).drop 29 := by
  have hwidth (path : String) : (padRight 28 (pathTail path 28).toList).length = 28 := by
    rw [length_padRight, toList_pathTail, length_tail (by decide)]
    omega
  refine ⟨.ofList (path.toList.take (path.length - 28)), pathTail path 28, ?_, ?_, rfl, ?_, ?_,
    fun other => ?_⟩
  · rw [← String.toList_inj, String.toList_append, String.toList_ofList, toList_pathTail,
      Text.tail, if_neg (by decide), String.length_toList, List.take_append_drop]
  · rw [← String.length_toList, toList_pathTail, length_tail (by decide), String.length_toList]
  · rw [row, pathWidth, List.take_left' (hwidth path), padRight, String.length_toList]
  · rw [row, pathWidth, List.getElem?_append_right (hwidth path).le, hwidth, Nat.sub_self]
    rfl
  · have hdrop (path : String) : (row path s).drop 29 = columns s := by
      rw [row, pathWidth, List.drop_append, hwidth,
        List.drop_eq_nil_of_le ((hwidth path).le.trans (by decide))]
      rfl
    rw [hdrop, hdrop]

/-! ## Capped columns -/

section Amounts

variable {lo hi : ℤ} {v : Binary64}

theorem ceilCapped_eq (h : IsAmount lo hi v) : ceilCapped v 999 = min ⌈v.toRat⌉ 999 :=
  h.min_ceil (by decide)

/-- The cap is above zero, so it makes no difference to what is shown as zero. -/
theorem min_ceil_eq_zero_iff (h : IsAmount lo hi v) : min ⌈v.toRat⌉ 999 = 0 ↔ v = zero := by
  rw [← h.ceil_eq_zero_iff]
  omega

theorem min_ceil_bounds (h : IsAmount lo hi v) :
    0 ≤ min ⌈v.toRat⌉ 999 ∧ min ⌈v.toRat⌉ 999 ≤ 999 := by
  have hnonneg : 0 ≤ ⌈v.toRat⌉ := Int.ceil_nonneg h.toRat_nonneg
  exact ⟨by omega, by omega⟩

/-- The text shows a slot of the usage history: its percentage rounded to the nearest integer, at
most 999, in three digits. -/
def ShowsUsage (whole slot : UInt64) (group : List Char) : Prop :=
  let usage := percent slot (ofCounter whole)
  usage.isFinite = true ∧ ∃ i, IsNearestInteger i usage.toRat ∧ IsThreeDigits (min i 999) group

theorem exists_isThreeDigits_usageText (h : IsAmount lo hi v) :
    ∃ i, IsNearestInteger i v.toRat ∧ IsThreeDigits (min i 999) (usageText v) := by
  have hcap : maxUsage ≤ integerRange.2 := by decide
  obtain ⟨i, hnonneg, hnearest, hround⟩ := h.exists_min_roundEven hcap
  refine ⟨i, hnearest, ?_⟩
  rw [usageText, hround, maxUsage]
  exact isThreeDigits_zeroPadded (by omega) (by omega)

theorem showsUsage_usageText (whole slot : UInt64) :
    ShowsUsage whole slot (usageText (percent slot (ofCounter whole))) := by
  have husage := isAmount_percent slot (isAmount_ofCounter whole)
  exact ⟨husage.isFinite, exists_isThreeDigits_usageText husage⟩

theorem ShowsUsage.length {whole slot : UInt64} {group : List Char}
    (h : ShowsUsage whole slot group) : group.length = 3 := by
  obtain ⟨-, i, -, hdigits⟩ := h
  exact hdigits.length

end Amounts

/-- **Debt, delay and usages keep to their columns.** Debt and delay are rounded up and usages are
rounded to the nearest integer, and each is shown as 999 at most: the debt in at most three
characters, the delay and each usage in three digits. Debt and delay are zero only if their counters
are, or the debt has no unit. -/
theorem row_derive (path : String) (raw : NodeCounters) (controller : ControllerCounters)
    (constants : Constants) :
    let stats := NodeStats.derive raw controller constants
    ∃ (debt delay : List Char) (usages : List (List Char)),
      row path stats = padRight 28 (pathTail path 28).toList ++
        ' ' :: countColumns stats ++ ' ' :: padLeft 3 debt ++
        ' ' :: padLeft 2 (integer (min raw.useDelay.toInt 99)) ++ '*' :: delay ++
        ' ' :: List.intercalate [':'] usages ∧
      (stats.debt.isFinite = true ∧ debt = integer (min ⌈stats.debt.toRat⌉ 999) ∧
        debt.length ≤ 3 ∧ (debt = ['0'] ↔ raw.debt = 0 ∨ constants.vtimePerMicrosecond = 0)) ∧
      (stats.delay.isFinite = true ∧ IsThreeDigits (min ⌈stats.delay.toRat⌉ 999) delay ∧
        (delay = ['0', '0', '0'] ↔ raw.delay = 0)) ∧
      List.Forall₂ (ShowsUsage constants.wholeWeight)
        (ringInOrder raw.usages raw.usageIndex.toNat) usages ∧
      usages.length = raw.usages.length ∧
      (List.intercalate [':'] usages).length = 4 * raw.usages.length - 1 := by
  intro stats
  have hdebt := NodeStats.isAmount_debt raw controller constants
  have hdelay := NodeStats.isAmount_delay raw controller constants
  obtain ⟨hdebtNonneg, hdebtLe⟩ := min_ceil_bounds hdebt
  obtain ⟨hdelayNonneg, hdelayLe⟩ := min_ceil_bounds hdelay
  have hgroups : List.Forall₂ (ShowsUsage constants.wholeWeight)
      (ringInOrder raw.usages raw.usageIndex.toNat) (stats.usages.map usageText) := by
    rw [NodeStats.usages_derive, List.forall₂_map_right_iff, List.forall₂_map_right_iff,
      List.forall₂_same]
    exact fun slot _ => showsUsage_usageText constants.wholeWeight slot
  have hlength := hgroups.length_eq.symm.trans (length_ringInOrder raw.usages raw.usageIndex.toNat)
  have hthree : ∀ group ∈ stats.usages.map usageText, group.length = 3 := by
    rw [List.forall_mem_map, NodeStats.usages_derive, List.forall_mem_map]
    exact fun slot _ => (showsUsage_usageText constants.wholeWeight slot).length
  have hrow := row_eq path stats
  rw [maxDebt, maxDelay, ceilCapped_eq hdebt, ceilCapped_eq hdelay] at hrow
  refine ⟨_, _, _, hrow, ⟨hdebt.isFinite, rfl, ?_, ?_⟩, ⟨hdelay.isFinite, ?_, ?_⟩, hgroups, hlength,
    ?_⟩
  · exact length_integer_le_three hdebtNonneg hdebtLe
  · rw [integer_eq_zero_iff, min_ceil_eq_zero_iff hdebt, NodeStats.debt_eq_zero_iff]
  · exact isThreeDigits_zeroPadded hdelayNonneg hdelayLe
  · rw [zeroPadded_eq_zeros_iff hdelayNonneg hdelayLe, min_ceil_eq_zero_iff hdelay,
      NodeStats.delay_eq_zero_iff]
  · rw [length_intercalate_three hthree, hlength]

/-- All ones in each counter, in units of one. -/
example : row "/" (NodeStats.derive
      { debt := 0xffffffffffffffff, delay := 0xffffffffffffffff,
        usages := [0, 0xffffffffffffffff] } {}
      { wholeWeight := 1, vtimePerMicrosecond := 1 }) =
    padRight 28 ['/'] ++ "       0/    0   0.00/  0.00   0.00 999  0*999 000:999".toList := by
  decide +kernel

end Table

end Iocost
