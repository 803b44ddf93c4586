import Iocost.Proofs.Memory.Agreement
import Iocost.Proofs.Memory.MemberChange

/-!
# A walk misses no member in memory

Whatever changes bring a hierarchy about, its members form a tree, so a walk ends and meets none of
them twice. From the root of a hierarchy in which nothing is broken it meets every member
(`MemoryData.Built.walk_covers_members`).
-/

namespace Iocost

/-- What is reached leads on to its children that have names. -/
theorem Hierarchy.Reaches.toChild {Member Node : Type} {h : Hierarchy Member Node}
    {start member child : Member} {parent path name : String}
    (hreach : h.Reaches start parent member path) (hchild : h.IsChild child member)
    (hname : h.name child = .ok name) : h.Reaches start parent child (pathBelow path name) := by
  induction hreach with
  | here hstart => exact .child hstart hchild (.here hname)
  | child hstart hfirst _ ih => exact .child hstart hfirst (ih hchild)

/-- No two entries of a walk are of one member. -/
theorem MemoryHierarchy.nodup_member_walk (h : MemoryHierarchy) (start : Nat) (queue : Queue)
    (includeDying : Bool) :
    ((h.source.walk start queue includeDying).map Entry.member).Nodup :=
  (nodup_preorder _).sublist (Hierarchy.map_member_walk_sublist _)

namespace MemoryData

open Hierarchy

variable {data : MemoryData}

theorem node?_eq_ok {member : Nat} {queue : Queue} {node : Nat × Queue} :
    data.node? member queue = .ok (some node) ↔
      (∃ m, data.member member = .ok m) ∧ (data.nodes.lookup (member, queue)).isSome ∧
        node = (member, queue) := by
  unfold node?
  cases data.member member with
  | error f => exact ⟨nofun, fun ⟨⟨_, hm⟩, _⟩ => nomatch hm⟩
  | ok m =>
    cases data.nodes.lookup (member, queue) with
    | none => exact ⟨nofun, fun ⟨_, hlookup, _⟩ => nomatch hlookup⟩
    | some counters =>
      simp only [Except.map, Option.map_some, Except.ok.injEq, Option.some.injEq, exists_eq',
        Option.isSome_some, true_and]
      exact eq_comm

theorem lt_of_member_eq_ok {member : Nat} {m : MemoryMember} (hm : data.member member = .ok m) :
    member < data.members.length := by
  unfold MemoryData.member at hm
  split at hm
  case h_1 hget => exact (List.getElem?_eq_some_iff.mp hget).1
  case h_2 => cases hm

/-- The members of a hierarchy in which nothing is broken are met in a walk from the root. -/
theorem exists_reaches_of_lt (htree : data.IsTree)
    (hhealthy : ∀ m ∈ data.members, m.isBroken = false) {member : Nat}
    (hlt : member < data.members.length) :
    (∃ m, data.member member = .ok m) ∧ ∃ path, data.hierarchy.Reaches 0 "" member path := by
  have hok : ∀ other < data.members.length, ∃ m, data.member other = .ok m := by
    intro other hother
    refine ⟨data.members[other], ?_⟩
    have hsound := hhealthy _ (List.getElem_mem hother)
    simp only [MemoryData.member, List.getElem?_eq_getElem hother, hsound,
      Bool.false_eq_true, ↓reduceIte]
  have hname : ∀ other < data.members.length, ∃ name, data.hierarchy.name other = .ok name := by
    intro other hother
    obtain ⟨m, hm⟩ := hok other hother
    exact ⟨m.name, congrArg (Except.map MemoryMember.name) hm⟩
  refine ⟨hok member hlt, ?_⟩
  -- down the tree: the parent of a member is older and so has been met
  induction member using Nat.strong_induction_on with
  | _ member ih =>
    obtain ⟨name, hmember⟩ := hname member hlt
    rcases Nat.eq_zero_or_pos member with rfl | hpos
    · exact ⟨_, .here hmember⟩
    · have hmem : member ∈ data.allChildren :=
        List.count_pos_iff.mp (by rw [htree.count_eq_one hpos hlt]; exact Nat.one_pos)
      obtain ⟨parent, hchild⟩ := mem_allChildren.mp hmem
      have hparent := (htree.between hchild).1
      obtain ⟨path, hreach⟩ := ih parent hparent (hparent.trans hlt)
      obtain ⟨m, hm⟩ := hok parent (hparent.trans hlt)
      have hischild : data.hierarchy.IsChild member parent := by
        rw [Hierarchy.IsChild, childList_of_member_ok hm]
        exact hchild
      exact ⟨_, hreach.toChild hischild hmember⟩

theorem exists_mem_walk_iff (hbuilt : data.Built)
    (hhealthy : ∀ m ∈ data.members, m.isBroken = false) (queue : Queue) (member : Nat) :
    (∃ entry ∈ (MemoryHierarchy.mk data hbuilt).source.walk 0 queue true, entry.member = member) ↔
      member < data.members.length ∧ (data.nodes.lookup (member, queue)).isSome := by
  rw [Source.walk, walk_eq_listing]
  constructor
  · rintro ⟨entry, hentry, rfl⟩
    obtain ⟨member, path, -, hown⟩ := mem_listing.mp hentry
    obtain ⟨node, hnode, rfl⟩ := eq_of_mem_ownEntry hown
    obtain ⟨⟨m, hm⟩, hlookup, -⟩ := node?_eq_ok.mp hnode
    exact ⟨lt_of_member_eq_ok hm, hlookup⟩
  · rintro ⟨hlt, hlookup⟩
    obtain ⟨hm, path, hreach⟩ := exists_reaches_of_lt hbuilt.isTree hhealthy hlt
    refine ⟨⟨member, shownPath path, (member, queue)⟩, ?_, rfl⟩
    refine mem_listing.mpr ⟨member, path, hreach, ?_⟩
    have hvisible : data.hierarchy.isVisible true member = true := rfl
    have hnode : data.hierarchy.node? member queue = .ok (some (member, queue)) :=
      node?_eq_ok.mpr ⟨hm, hlookup, rfl⟩
    change _ ∈ data.hierarchy.ownEntry queue true member path
    rw [ownEntry, if_pos hvisible, hnode]
    exact List.mem_singleton_self _

/-- **A walk covers the members.** Changes bring about a tree of members, a walk of which ends
without meeting any of them twice; from the root it meets all that have a node, if none is
broken. -/
theorem Built.walk_covers_members (hbuilt : data.Built) :
    let source := (MemoryHierarchy.mk data hbuilt).source
    data.IsTree ∧
      (∀ start queue includeDying,
        (∃ turns, (data.hierarchy.turn queue includeDying)^[turns] { stack := [(start, "")] } =
          ⟨[], source.walk start queue includeDying⟩) ∧
        ((source.walk start queue includeDying).map Entry.member).Nodup) ∧
      ((∀ m ∈ data.members, m.isBroken = false) → ∀ queue member,
        (∃ entry ∈ source.walk 0 queue true, entry.member = member) ↔
          member < data.members.length ∧ (data.nodes.lookup (member, queue)).isSome) := by
  refine ⟨hbuilt.isTree, fun start queue includeDying => ⟨?_, ?_⟩, exists_mem_walk_iff hbuilt⟩
  · exact exists_iterate_turn
      [⟨start, "", (MemoryHierarchy.mk data hbuilt).source.descends.apply start⟩] []
  · exact (MemoryHierarchy.mk data hbuilt).nodup_member_walk start queue includeDying

theorem walk_covers_members_outOfOrder :
    let h := MemoryHierarchy.outOfOrder
    h.Built ∧ (∀ m ∈ h.members, m.isBroken = false) ∧ h.allChildren = [1, 2, 3] ∧
      h.allChildren.count 3 = 1 ∧
      (∃ entry ∈ h.source.walk 0 8 true, entry.member = 3) ∧
      ¬∃ entry ∈ h.source.walk 0 8 true, entry.member = 2 := by
  intro h
  have hhealthy : ∀ m ∈ h.members, m.isBroken = false := by decide
  obtain ⟨htree, -, hcovers⟩ := h.isBuilt.walk_covers_members
  refine ⟨h.isBuilt, hhealthy, by decide, htree.count_eq_one (by decide) (by decide), ?_, ?_⟩
  · exact (hcovers hhealthy 8 3).mpr (by decide)
  · exact fun hentry => absurd ((hcovers hhealthy 8 2).mp hentry) (by decide)

end MemoryData

end Iocost
