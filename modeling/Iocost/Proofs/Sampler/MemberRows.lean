import Iocost.Proofs.Sampler.Selection
import Iocost.Proofs.Walk.Pruning

/-!
# The rows of members

Each row of a sample shows the node of a member (`Sampler.memberRows`), and what a source says about
a member decides about the rows of that member only. So samples of two sources have the same rows of
all members about which the sources agree (`Sampler.filter_memberRows_congr`).
-/

namespace Iocost

variable {Member Node Controller : Type}

namespace Source

theorem ends (source : Source Member Node Controller) (member : Member) :
    Acc source.IsChild member := source.descends.apply member

/-- The members at and below a member, each with its path. -/
def members (source : Source Member Node Controller) (root : Member) : List (Member × String) :=
  Hierarchy.preorder ⟨root, "", source.ends root⟩

theorem members_eq_filter {source source' : Source Member Node Controller} {kept : Member → Prop}
    [DecidablePred kept] (hprunes : source.Prunes source'.toHierarchy kept) {root : Member}
    (hroot : kept root ∨ source.IsCut source'.toHierarchy kept root) :
    source'.members root = (source.members root).filter fun m => decide (kept m.1) :=
  hprunes.preorder_eq_filter source.ends source'.ends _ _ rfl rfl hroot

/-- Two sources agree about the state of a member and about its node for a queue. -/
structure AgreeOn (source source' : Source Member Node Controller) (queue : Queue)
    (member : Member) : Prop where
  isOnline : source'.isOnline member = source.isOnline member
  node? : source'.node? member queue = source.node? member queue
  readNode {node : Node} :
    source.node? member queue = .ok (some node) → source'.readNode node = source.readNode node

end Source

namespace Sampler

variable (s : Sampler Member Controller) (source : Source Member Node Controller)

/-- The row that an entry is shown as, with the member that it is of. -/
def memberRow? (controller : ControllerCounters) (entry : Entry Member Node) :
    Option (Member × Row) :=
  (s.row? source controller entry).map fun row => (entry.member, row)

/-- The rows of a sample, each with the member that it is of. -/
def memberRows : List (Member × Row) :=
  match source.readController s.binding.controller with
  | .error _ => []
  | .ok controller => (s.entries source).filterMap (s.memberRow? source controller)

/-- The rows of a member with a path. -/
def ownRows (controller : ControllerCounters) (member : Member × String) : List (Member × Row) :=
  (source.ownEntry s.binding.queue s.settings.includeDying member.1 member.2).filterMap
    (s.memberRow? source controller)

variable {s : Sampler Member Controller} {source source' : Source Member Node Controller}
  {controller : ControllerCounters}

theorem sample_eq_ok {timestamp : Binary64} {sample : Sample}
    (h : s.sample source timestamp = .ok sample) :
    (∃ controller, source.readController s.binding.controller = .ok controller) ∧
      sample.rows = (s.memberRows source).map Prod.snd := by
  unfold Sampler.sample at h
  unfold memberRows
  cases hread : source.readController s.binding.controller with
  | error f =>
    rw [hread] at h
    cases h
  | ok controller =>
    rw [hread] at h
    cases h
    refine ⟨⟨controller, rfl⟩, ?_⟩
    simp only [List.map_filterMap, memberRow?, Option.map_map, Function.comp_def, Option.map_id']

/-- A row is of an entry whose node could be read. -/
theorem exists_entry_of_mem_memberRows {row : Member × Row} (h : row ∈ s.memberRows source) :
    ∃ entry ∈ s.entries source, ∃ controller counters,
      source.readNode entry.node = .ok counters ∧
        row = (entry.member, source.row controller (entry, counters)) := by
  unfold memberRows at h
  cases hcontroller : source.readController s.binding.controller with
  | error f =>
    rw [hcontroller] at h
    cases h
  | ok controller =>
    rw [hcontroller] at h
    obtain ⟨entry, hentry, hrow⟩ := List.mem_filterMap.mp h
    obtain ⟨shown, hshown, rfl⟩ := Option.map_eq_some_iff.mp hrow
    cases hread : source.readNode entry.node with
    | error f => simp [row?, hread] at hshown
    | ok counters =>
      rw [row?_of_readNode hread] at hshown
      obtain ⟨-, hrow⟩ := Option.ite_none_right_eq_some.mp hshown
      obtain rfl := Option.some.inj hrow
      exact ⟨entry, hentry, controller, counters, hread, rfl⟩

/-- All but the rows is the same in a sample of a source with the same constants and counters of the
controller. -/
theorem sample_eq_with_rows {timestamp : Binary64} {sample : Sample}
    (h : s.sample source timestamp = .ok sample)
    (hconstants : source'.constants = source.constants)
    (hread : source'.readController s.binding.controller =
      source.readController s.binding.controller) :
    s.sample source' timestamp =
      .ok { sample with rows := (s.memberRows source').map Prod.snd } := by
  obtain ⟨⟨controller, hcontroller⟩, -⟩ := sample_eq_ok h
  have h' : s.sample source' timestamp = .ok
      { device := s.settings.device
        timestamp := timestamp
        controller := .derive controller source'.constants
        rows := (s.entries source').filterMap (s.row? source' controller) } := by
    simp only [Sampler.sample, hread, hcontroller]
  rw [h', ← (sample_eq_ok h').2, hconstants]
  simp only [Sampler.sample, hcontroller] at h
  cases h
  rfl

/-! ## Rows member by member -/

theorem path_of_row? {entry : Entry Member Node} {row : Row}
    (h : s.row? source controller entry = some row) : row.path = entry.path := by
  cases hread : source.readNode entry.node with
  | error f => simp [row?, hread] at h
  | ok counters =>
    rw [row?_of_readNode hread] at h
    obtain ⟨-, hrow⟩ := Option.ite_none_right_eq_some.mp h
    exact congrArg Row.path (Option.some.inj hrow).symm

theorem mem_ownRows {member : Member × String} {row : Member × Row}
    (h : row ∈ s.ownRows source controller member) :
    row.1 = member.1 ∧ row.2.path = shownPath member.2 := by
  obtain ⟨entry, hentry, hrow⟩ := List.mem_filterMap.mp h
  obtain ⟨node, -, rfl⟩ := Hierarchy.eq_of_mem_ownEntry hentry
  obtain ⟨shown, hshown, rfl⟩ := Option.map_eq_some_iff.mp hrow
  exact ⟨rfl, path_of_row? hshown⟩

theorem memberRows_eq_flatMap
    (hread : source.readController s.binding.controller = .ok controller) :
    s.memberRows source =
      (source.members s.binding.root).flatMap (s.ownRows source controller) := by
  simp only [memberRows, hread, entries, Source.walk, Hierarchy.walk_eq_listing,
    Hierarchy.listing_eq_flatMap_preorder, List.filterMap_flatMap]
  rfl

theorem exists_member_of_mem_memberRows {row : Member × Row} (h : row ∈ s.memberRows source) :
    ∃ path, (row.1, path) ∈ source.members s.binding.root ∧ row.2.path = shownPath path := by
  cases hread : source.readController s.binding.controller with
  | error f => simp [memberRows, hread] at h
  | ok controller =>
    rw [memberRows_eq_flatMap hread] at h
    obtain ⟨⟨member, path⟩, hmember, hrow⟩ := List.mem_flatMap.mp h
    obtain ⟨rfl, hpath⟩ := mem_ownRows hrow
    exact ⟨path, hmember, hpath⟩

theorem map_fst_ownRows_sublist (member : Member × String) :
    ((s.ownRows source controller member).map Prod.fst).Sublist [member.1] := by
  rw [ownRows, Hierarchy.ownEntry_eq]
  split
  case isFalse => exact List.nil_sublist _
  case isTrue =>
    cases (source.node? member.1 s.binding.queue).toOption.join with
    | none => exact List.nil_sublist _
    | some node =>
      simp only [Option.map_some, Option.toList_some, List.filterMap_cons, List.filterMap_nil,
        memberRow?]
      cases s.row? source controller ⟨member.1, shownPath member.2, node⟩ with
      | none => exact List.nil_sublist _
      | some row => exact List.Sublist.refl _

/-- A member has no more rows than it is met in a walk. -/
theorem map_fst_memberRows_sublist :
    ((s.memberRows source).map Prod.fst).Sublist
      ((source.members s.binding.root).map Prod.fst) := by
  cases hread : source.readController s.binding.controller with
  | error f => simp only [memberRows, hread, List.map_nil, List.nil_sublist]
  | ok controller =>
    rw [memberRows_eq_flatMap hread]
    exact Hierarchy.map_flatMap_sublist map_fst_ownRows_sublist _

theorem filter_memberRows (keep : Member → Bool)
    (hread : source.readController s.binding.controller = .ok controller) :
    ((s.memberRows source).filter fun row => keep row.1) =
      ((source.members s.binding.root).filter fun member => keep member.1).flatMap
        (s.ownRows source controller) := by
  rw [memberRows_eq_flatMap hread, List.filter_flatMap]
  generalize source.members s.binding.root = members
  induction members with
  | nil => rfl
  | cons member members ih =>
    rw [List.flatMap_cons, ih]
    cases hkeep : keep member.1 with
    | true =>
      rw [List.filter_cons_of_pos (p := fun m : Member × String => keep m.1) hkeep,
        List.flatMap_cons, List.filter_eq_self.mpr]
      intro row hrow
      rw [(mem_ownRows hrow).1, hkeep]
    | false =>
      rw [List.filter_cons_of_neg (p := fun m : Member × String => keep m.1)
        (Bool.eq_false_iff.mp hkeep), List.filter_eq_nil_iff.mpr, List.nil_append]
      intro row hrow
      rw [(mem_ownRows hrow).1, hkeep]
      exact Bool.false_ne_true

theorem ownRows_congr {member : Member × String}
    (hagree : source.AgreeOn source' s.binding.queue member.1)
    (hconstants : source'.constants = source.constants) :
    s.ownRows source' controller member = s.ownRows source controller member := by
  have hown : source'.ownEntry s.binding.queue s.settings.includeDying member.1 member.2 =
      source.ownEntry s.binding.queue s.settings.includeDying member.1 member.2 := by
    rw [Hierarchy.ownEntry_eq, Hierarchy.ownEntry_eq, Hierarchy.isVisible_eq,
      Hierarchy.isVisible_eq, hagree.isOnline, hagree.node?]
  rw [ownRows, hown, ownRows]
  refine List.filterMap_congr fun entry hentry => ?_
  have hread : source'.readNode entry.node = source.readNode entry.node := by
    obtain ⟨node, hnode, rfl⟩ := Hierarchy.eq_of_mem_ownEntry hentry
    exact hagree.readNode hnode
  simp only [memberRow?, row?, hread, hconstants]

theorem filter_memberRows_congr (keep : Member → Bool)
    (hconstants : source'.constants = source.constants)
    (hread : source'.readController s.binding.controller =
      source.readController s.binding.controller)
    (hmembers : ((source'.members s.binding.root).filter fun member => keep member.1) =
      (source.members s.binding.root).filter fun member => keep member.1)
    (hagree : ∀ member ∈ source.members s.binding.root, keep member.1 = true →
      source.AgreeOn source' s.binding.queue member.1) :
    ((s.memberRows source').filter fun row => keep row.1) =
      (s.memberRows source).filter fun row => keep row.1 := by
  cases hcontroller : source.readController s.binding.controller with
  | error f => simp only [memberRows, hread, hcontroller]
  | ok controller =>
    rw [filter_memberRows keep hcontroller, filter_memberRows keep (hread.trans hcontroller),
      hmembers]
    refine List.flatMap_congr fun member hmember => ?_
    obtain ⟨hmem, hkeep⟩ := List.mem_filter.mp hmember
    exact ownRows_congr (hagree member hmem hkeep) hconstants

end Sampler

end Iocost
