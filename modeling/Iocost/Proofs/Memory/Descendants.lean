import Iocost.Proofs.Memory.Built
import Iocost.Proofs.Walk.Pruning
import Mathlib.Logic.Relation

/-!
# Members below a member in memory

A member stands below one other member at most (`eq_of_mem_childrenOf`). So the members that two
members have below them are the same ones or have nothing in common, and a walk meets each member
once (`nodup_preorder`).
-/

namespace Iocost.MemoryHierarchy

open Hierarchy

variable {h : MemoryHierarchy} {a b c : Nat}

theorem eq_of_mem_childrenOf (ha : c ∈ h.childrenOf a) (hb : c ∈ h.childrenOf b) : a = b :=
  h.isBuilt.isTree.eq_of_mem_childrenOf ha hb

/-- The second member is the first one or stands below it. -/
def IsBelow (h : MemoryHierarchy) (above below : Nat) : Prop :=
  Relation.ReflTransGen (fun a b => b ∈ h.childrenOf a) above below

theorem IsBelow.refl (member : Nat) : h.IsBelow member member := Relation.ReflTransGen.refl

theorem IsBelow.child (hbelow : h.IsBelow a b) (hchild : c ∈ h.childrenOf b) : h.IsBelow a c :=
  hbelow.tail hchild

theorem IsBelow.parent (hbelow : h.IsBelow a c) (hne : c ≠ a) (hchild : c ∈ h.childrenOf b) :
    h.IsBelow a b := by
  rcases hbelow.cases_tail with heq | ⟨parent, hparent, hchild'⟩
  · exact absurd heq hne
  · exact eq_of_mem_childrenOf hchild' hchild ▸ hparent

theorem IsBelow.le (hbelow : h.IsBelow a b) : a ≤ b := by
  induction hbelow with
  | refl => exact Nat.le_refl a
  | tail _ hchild ih => exact ih.trans (Nat.le_of_lt (h.lt_of_mem_childrenOf hchild).1)

/-- Of two members above a third one, one stands below the other. -/
theorem IsBelow.total (ha : h.IsBelow a c) (hb : h.IsBelow b c) :
    h.IsBelow a b ∨ h.IsBelow b a := by
  induction ha with
  | refl => exact .inr hb
  | @tail parent c _ hchild ih =>
    by_cases hne : c = b
    · subst hne
      exact .inl (.tail ‹_› hchild)
    · exact ih (hb.parent hne hchild)

/-- No member stands below another child of the member above it. -/
theorem IsBelow.eq_of_siblings (hbelow : h.IsBelow a b) (ha : a ∈ h.childrenOf c)
    (hb : b ∈ h.childrenOf c) : a = b := by
  by_contra hne
  have hparent := hbelow.parent (fun heq => hne heq.symm) hb
  exact absurd hparent.le (Nat.not_le.mpr (h.lt_of_mem_childrenOf ha).1)

theorem isBelow_of_reaches {parent path : String} (hreach : h.hierarchy.Reaches a parent b path) :
    h.IsBelow a b :=
  hreach.of_closed (P := h.IsBelow a)
    (fun _ hbelow _ hchild => hbelow.child (MemoryData.mem_childrenOf_of_isChild hchild)) (.refl a)

theorem isBelow_of_mem_preorder {p : h.hierarchy.Pending}
    (hmem : b ∈ (preorder p).map Prod.fst) : h.IsBelow p.member b := by
  obtain ⟨m, hm, rfl⟩ := List.mem_map.mp hmem
  exact isBelow_of_reaches (mem_preorder.mp hm)

theorem nodup_childList (h : MemoryHierarchy) (member : Nat) :
    (h.hierarchy.childList member).Nodup := by
  cases hmember : h.member member with
  | error f =>
    rw [MemoryData.childList_of_member_error hmember]
    exact List.nodup_nil
  | ok m =>
    rw [MemoryData.childList_of_member_ok hmember]
    exact (h.isBuilt.isTree.sorted member).imp Nat.ne_of_lt

/-- A walk meets each member once. -/
theorem nodup_preorder (p : h.hierarchy.Pending) : ((preorder p).map Prod.fst).Nodup := by
  induction p using Pending.induct with
  | step p ih =>
    cases hname : h.hierarchy.name p.member with
    | error f =>
      rw [preorder_of_name_error hname]
      exact List.nodup_nil
    | ok name =>
      have ends : ∀ member, Acc h.hierarchy.IsChild member := h.source.descends.apply
      rw [preorder_of_name_ok hname, List.map_cons, List.map_flatMap, flatMap_below ends,
        List.nodup_cons, List.nodup_flatMap]
      refine ⟨fun hmem => ?_, fun child hchild => ?_, ?_⟩
      · obtain ⟨child, hchild, hmem⟩ := List.mem_flatMap.mp hmem
        have hlt := (h.lt_of_mem_childrenOf (MemoryData.mem_childrenOf_of_isChild hchild)).1
        exact absurd (isBelow_of_mem_preorder hmem).le (Nat.not_le.mpr hlt)
      · exact ih _ _ (mem_below hchild _)
      · refine (h.nodup_childList p.member).imp_of_mem fun ha hb hne => ?_
        have ha := MemoryData.mem_childrenOf_of_isChild ha
        have hb := MemoryData.mem_childrenOf_of_isChild hb
        refine List.disjoint_left.mpr fun member hma hmb => ?_
        rcases (isBelow_of_mem_preorder hma).total (isBelow_of_mem_preorder hmb) with
          hbelow | hbelow
        · exact hne (hbelow.eq_of_siblings ha hb)
        · exact hne (hbelow.eq_of_siblings hb ha).symm

end Iocost.MemoryHierarchy
