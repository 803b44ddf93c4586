import Iocost.Proofs.Files.Directories
import Iocost.Proofs.Memory.Layout
import Mathlib.Data.List.Forall2
import Mathlib.Data.List.Sort

/-!
# A hierarchy with its children by name

A hierarchy in memory lists the members below a member as they were added. Here they come by
increasing names instead (`sortedSource`); all else is as before.
-/

namespace Iocost.MemoryHierarchy

variable {h : MemoryHierarchy}

/-- Members by the bytes of their names. -/
def sortByName (h : MemoryHierarchy) (members : List Nat) : List Nat :=
  members.mergeSort fun a b => decide (Text.encode (h.nameOf a) ≤ Text.encode (h.nameOf b))

/-- The members as a hierarchy, with the children of each by their names. -/
def sortedHierarchy (h : MemoryHierarchy) : Hierarchy Nat (Nat × Queue) :=
  { h.hierarchy with children := fun member => (h.hierarchy.children member).map h.sortByName }

theorem childList_sortedHierarchy (h : MemoryHierarchy) (member : Nat) :
    h.sortedHierarchy.childList member = h.sortByName (h.hierarchy.childList member) := by
  simp only [Hierarchy.childList, sortedHierarchy]
  cases h.hierarchy.children member with
  | error f => exact (List.mergeSort_nil).symm
  | ok children => rfl

theorem isChild_sortedHierarchy {child member : Nat} :
    h.sortedHierarchy.IsChild child member ↔ h.hierarchy.IsChild child member := by
  rw [Hierarchy.IsChild, childList_sortedHierarchy, sortByName, List.mem_mergeSort]
  rfl

/-- The hierarchy as a source of counters, with the children of each member by their names. -/
def sortedSource (h : MemoryHierarchy) : Source Nat (Nat × Queue) Queue :=
  { h.source with
    toHierarchy := h.sortedHierarchy
    descends := Subrelation.wf (fun hchild => isChild_sortedHierarchy.mp hchild) h.source.descends }

/-- The names of members in order, when no two of them are the same. -/
theorem pairwise_sortByName {members : List Nat} (hnodup : (members.map h.nameOf).Nodup) :
    ((h.sortByName members).map fun m => Text.encode (h.nameOf m)).Pairwise (· < ·) := by
  have hle : ((h.sortByName members).map fun m => Text.encode (h.nameOf m)).Pairwise (· ≤ ·) := by
    rw [List.pairwise_map]
    refine (List.pairwise_mergeSort (fun a b c hab hbc => ?_) (fun a b => ?_) members).imp
      of_decide_eq_true
    · exact decide_eq_true (List.le_trans (of_decide_eq_true hab) (of_decide_eq_true hbc))
    · rw [Bool.or_eq_true, decide_eq_true_eq, decide_eq_true_eq]
      exact List.le_total _ _
  have hne : ((h.sortByName members).map fun m => Text.encode (h.nameOf m)).Nodup := by
    have hperm := (List.mergeSort_perm members fun a b =>
      decide (Text.encode (h.nameOf a) ≤ Text.encode (h.nameOf b))).map h.nameOf
    have hmap := (hperm.nodup_iff.mpr hnodup).map Text.encode_injective
    rwa [List.map_map] at hmap
  exact (hle.and hne).imp fun ⟨hle, hne⟩ => (List.le_iff_lt_or_eq.mp hle).resolve_right hne

/-- Names in order that are those of some members are the names of these by name. -/
theorem forall₂_sortByName {members : List Nat} {names : List FileName}
    (hnodup : (members.map h.nameOf).Nodup) (hnames : names.Pairwise FileName.Before)
    (hmem : ∀ bytes, (∃ name ∈ names, name.bytes = bytes) ↔
      ∃ member ∈ members, Text.encode (h.nameOf member) = bytes) :
    List.Forall₂ (fun member name => member ∈ members ∧
      name.bytes = Text.encode (h.nameOf member)) (h.sortByName members) names := by
  have hbytes : (h.sortByName members).map (fun m => Text.encode (h.nameOf m)) =
      names.map FileName.bytes := by
    refine (pairwise_sortByName hnodup).eq_of_mem_iff (List.pairwise_map.mpr hnames) fun bytes => ?_
    rw [List.mem_map, List.mem_map, hmem]
    simp only [sortByName, List.mem_mergeSort]
  refine (List.forall₂_and_left _ _).mpr ⟨fun m hm => List.mem_mergeSort.mp hm, ?_⟩
  have hsame : List.Forall₂ Eq ((h.sortByName members).map fun m => Text.encode (h.nameOf m))
      (names.map FileName.bytes) := hbytes ▸ List.forall₂_same.mpr fun _ _ => rfl
  rw [List.forall₂_map_left_iff, List.forall₂_map_right_iff] at hsame
  exact hsame.imp fun _ _ heq => heq.symm

end Iocost.MemoryHierarchy
