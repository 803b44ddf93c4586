import Iocost.Proofs.Memory.Answers
import Iocost.Proofs.Sampler

/-!
# A hierarchy and its snapshot agree

Whatever changes bring a hierarchy about, the snapshot that it writes says what it says itself: it
can be opened, knows the same devices, and samples of it show the same rows, those of the members
below a member being ordered by their names (`writeTreeBy_agrees`).
-/

namespace Iocost.MemoryHierarchy

variable {h : MemoryHierarchy} {root : FilePath} {inodeOf : FilePath → UInt64} {t : FileTree}
  {loc : Location}

/-- The directory of each member answers as the member does. -/
theorem IsWrittenAt.simulates (hwritten : h.IsWrittenAt root inodeOf t loc) (hfits : h.Fits root)
    (hw : h.IsWritable) (queue : Queue) :
    h.sortedHierarchy.Simulates ((snapshot root).hierarchy t) queue (h.IsDirectoryOf root)
      (h.IsFileOf root) where
  name := by
    rintro member _ ⟨names, hleads, rfl⟩
    obtain ⟨m, hm⟩ := hleads.exists_member
    have hname : h.sortedHierarchy.name member = .ok (h.nameOf member) := by
      simp only [sortedHierarchy, MemoryData.hierarchy, member_eq_ok hw hm, nameOf, hm, Except.map,
        Option.map_some, Option.getD_some]
    exact congrArg Except.toOption (hname.trans (memberName_eq root hleads).symm)
  isOnline := by
    rintro member _ ⟨names, hleads, rfl⟩
    obtain ⟨m, hm⟩ := hleads.exists_member
    have honline : h.sortedHierarchy.isOnline member = .ok m.isOnline := by
      simp only [sortedHierarchy, MemoryData.hierarchy, member_eq_ok hw hm, Except.map]
    exact congrArg Except.toOption (honline.trans (hwritten.isOnline_eq hfits hleads hm).symm)
  node? := by
    rintro member _ ⟨names, hleads, rfl⟩
    obtain ⟨m, hm⟩ := hleads.exists_member
    have hnode : h.sortedHierarchy.node? member queue =
        .ok ((h.nodes.lookup (member, queue)).map fun _ => (member, queue)) := by
      simp only [sortedHierarchy, MemoryData.hierarchy, MemoryData.node?, member_eq_ok hw hm,
        Except.map]
    have hfile : ((snapshot root).hierarchy t).node? (root.descend names) queue = _ :=
      hwritten.node?_eq hfits hleads queue
    rw [hnode, hfile]
    cases hlookup : h.nodes.lookup (member, queue) with
    | none => exact .none
    | some counters => exact .some ⟨⟨counters, hlookup⟩, names, hleads, rfl⟩
  children := by
    rintro member _ ⟨names, hleads, rfl⟩
    obtain ⟨m, hm⟩ := hleads.exists_member
    have hchildren : h.sortedHierarchy.childList member = h.sortByName (h.childrenOf member) := by
      rw [childList_sortedHierarchy, MemoryData.childList_of_member_ok (member_eq_ok hw hm)]
    rw [hchildren]
    exact hwritten.forall₂_children hfits hw hleads

/-- Samples of a device show the same but for what tells a node from others. -/
theorem IsWrittenAt.sample_eq (hwritten : h.IsWrittenAt root inodeOf t loc) (hfits : h.Fits root)
    (hw : h.IsWritable) {settings : Settings} {binding : Binding Nat Queue}
    (hbinding : h.resolve settings.device = .ok binding) (timestamp : Binary64) :
    ((⟨settings, binding⟩ : Sampler Nat Queue).sample h.sortedSource timestamp).map
        Sample.withoutIds =
      ((⟨settings, snapshotBinding root binding⟩ : Sampler FilePath FilePath).sample
        ((snapshot root).source t) timestamp).map Sample.withoutIds := by
  obtain ⟨heq, counters, hread⟩ := exists_readController_of_resolve hw hbinding
  have hcontroller : h.sortedSource.readController binding.controller = .ok counters := by
    rw [heq]
    exact hread
  have hroot : h.IsDirectoryOf root binding.root root := by
    rw [heq]
    exact ⟨[], .root, root.descend_nil.symm⟩
  refine Sampler.sample_congr (S := h.IsFileOf root) (by rfl) hw.constants hcontroller
    (hwritten.readController_eq hfits hread) ?_ ?_ timestamp
  · exact (hwritten.simulates hfits hw binding.queue).forall₂_walk hroot _ _
  · rintro ⟨member, queue⟩ _ ⟨⟨node, hnode⟩, names, hleads, rfl⟩
    have hmemory : h.sortedSource.readNode (member, queue) = .ok node := by
      change h.readNode (member, queue) = .ok node
      rw [MemoryData.readNode, hnode]
    have hfile := hwritten.readNode_eq hfits hw hleads hnode
    rw [hmemory]
    exact (congrArg (fun r => r.toOption.map NodeCounters.withoutId) hfile).symm

/-- **A hierarchy and its snapshot agree.** A hierarchy that is written below an empty directory is
opened there, finds each device with the same queue or misses it for the same reason, and samples of
any device show the same, up to what tells nodes from others. -/
theorem writeTreeBy_agrees (hw : h.IsWritable) {start : FileTree}
    (hempty : start.nodeAt root = .ok (.directory [])) (hfits : h.Fits root) :
    ∃ t, h.writeTreeBy root inodeOf start = .ok t ∧
      Snapshot.ofDirectory t root = .ok (snapshot root) ∧
      (∀ device, ((snapshot root).resolve t device).map Binding.queue =
        (h.resolve device).map Binding.queue) ∧
      ∀ settings timestamp,
        (((snapshot root).source t).sampleAt settings timestamp).map (·.map Sample.withoutIds) =
          (h.sortedSource.sampleAt settings timestamp).map (·.map Sample.withoutIds) := by
  obtain ⟨t, loc, hwrite, hwritten, -⟩ := exists_writeTreeBy inodeOf hw hempty
  refine ⟨t, hwrite, hwritten.ofDirectory_eq hfits, fun device => ?_, fun settings timestamp => ?_⟩
  · rw [hwritten.resolve_eq hfits hw]
    cases h.resolve device <;> rfl
  · have hresolve : ((snapshot root).source t).resolve settings.device = _ :=
      hwritten.resolve_eq hfits hw settings.device
    have hresolve' : h.sortedSource.resolve settings.device = h.resolve settings.device := rfl
    simp only [Source.sampleAt, Sampler.ofSettings, hresolve, hresolve']
    cases hbinding : h.resolve settings.device with
    | error f => rfl
    | ok binding =>
      exact congrArg Except.ok (hwritten.sample_eq hfits hw hbinding timestamp).symm

/-- A member `b`, and one `a` that was added later and is offline, with a member `c` below it. -/
def outOfOrder : MemoryHierarchy :=
  let members := ((new.addMember 0 "b" Nat.one_pos).addMember 0 "a" Nat.two_pos).addMember 2 "c"
    (by decide)
  (((members.setOnline 2 false).addDevice "sda" 8 (some {})).addDevice "sdb" 9 none).setNode 3 8
    { usages := List.replicate 8 0 }

theorem isWritable_outOfOrder : outOfOrder.IsWritable where
  healthy := by decide
  constants := rfl
  deviceNames := by decide
  queues := by decide
  slots := by decide
  names parent child hchild := by
    have hlt := (outOfOrder.lt_of_mem_childrenOf hchild).2
    have hzero := Nat.zero_lt_of_lt (outOfOrder.lt_of_mem_childrenOf hchild).1
    have hnames : ∀ child < 4, 0 < child →
        isFileName (Text.encode (outOfOrder.nameOf child)) = true ∧
        (Text.encode (outOfOrder.nameOf child)).take 4 ∉ SnapshotFile.stems := by decide
    exact isMemberName_of_stem (hnames child hlt hzero).1 (hnames child hlt hzero).2
  siblings parent := by
    by_cases hparent : parent < 4
    · revert parent
      decide
    · rw [childrenOf_eq_nil (Nat.le_of_not_lt hparent)]
      exact .nil

theorem nodeAt_empty : ({} : FileTree).nodeAt (.ofString "/") = .ok (.directory []) :=
  FileTree.nodeAt_slash rfl

theorem fits_outOfOrder : outOfOrder.Fits (.ofString "/") :=
  fits_of_length_le (by decide)

theorem writeTreeBy_agrees_outOfOrder :
    let root : FilePath := .ofString "/"
    outOfOrder.IsWritable ∧
      ({} : FileTree).nodeAt root = .ok (.directory []) ∧ outOfOrder.Fits root ∧
      ∃ t, outOfOrder.writeTreeBy root (fun _ => 1) {} = .ok t ∧
        Snapshot.ofDirectory t root = .ok (snapshot root) ∧
        ((snapshot root).resolve t "sda").map Binding.queue = .ok 8 ∧
        ((snapshot root).resolve t "sdb").map Binding.queue = .error (.noController "sdb") := by
  intro root
  obtain ⟨t, hwrite, hopen, hresolve, -⟩ :=
    writeTreeBy_agrees isWritable_outOfOrder nodeAt_empty fits_outOfOrder
  exact ⟨isWritable_outOfOrder, nodeAt_empty, fits_outOfOrder, t, hwrite, hopen,
    hresolve "sda", hresolve "sdb"⟩

end Iocost.MemoryHierarchy
