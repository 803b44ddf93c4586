import Iocost.Memory.Built
import Iocost.Proofs.Association
import Mathlib.Data.List.Nodup

/-!
# What changes of a hierarchy in memory keep

Whatever changes bring a hierarchy about, its root has no name and no key of its maps is repeated
(`Built.isSound`), and its members form a tree (`Built.isTree`): each number but that of the root
stands once in the lists of children, below a smaller one, and each list is in order. A new member
comes behind its siblings, and no other change touches a list.
-/

namespace Iocost.MemoryData

variable {data : MemoryData}

/-! ## Names and keys -/

/-- The root has no name, and no key is repeated. -/
structure IsSound (data : MemoryData) : Prop where
  root : data.members[0]?.map MemoryMember.name = some ""
  devices : (data.devices.map Prod.fst).Nodup
  nodes : (data.nodes.map Prod.fst).Nodup

theorem isSound_new : IsSound {} := ⟨rfl, .nil, .nil⟩

theorem IsSound.modifyMember (hsound : data.IsSound) (member : Nat)
    {f : MemoryMember → MemoryMember} (hname : ∀ m, (f m).name = m.name) :
    (data.modifyMember member f).IsSound := by
  refine ⟨?_, hsound.devices, hsound.nodes⟩
  have hmap : (data.modifyMember member f).members[0]?.map MemoryMember.name =
      data.members[0]?.map MemoryMember.name := by
    rw [MemoryData.modifyMember, List.getElem?_modify]
    cases data.members[0]? with
    | none => rfl
    | some m =>
      simp only [Option.map_some]
      split
      case isTrue => exact congrArg some (hname m)
      case isFalse => rfl
  exact hmap.trans hsound.root

theorem IsSound.addMember (hsound : data.IsSound) {parent : Nat} (name : String)
    (hparent : parent < data.members.length) : (data.addMember parent name).IsSound := by
  have hadded : IsSound { data with members := data.members ++ [{ name := name }] } := by
    refine ⟨?_, hsound.devices, hsound.nodes⟩
    rw [List.getElem?_append_left (Nat.zero_lt_of_lt hparent)]
    exact hsound.root
  exact hadded.modifyMember parent fun _ => rfl

theorem IsSound.setController (hsound : data.IsSound) (queue : Queue)
    (controller? : Option ControllerCounters) : (data.setController queue controller?).IsSound := by
  refine ⟨hsound.root, ?_, hsound.nodes⟩
  rw [MemoryData.setController, List.map_map]
  exact hsound.devices

theorem IsSound.reorder {devices : List (String × MemoryDevice)}
    {nodes : List ((Nat × Queue) × NodeCounters)} (hsound : data.IsSound)
    (hdevices : devices.Perm data.devices) (hnodes : nodes.Perm data.nodes) :
    IsSound { data with devices := devices, nodes := nodes } where
  root := hsound.root
  devices := (hdevices.map Prod.fst).nodup_iff.mpr hsound.devices
  nodes := (hnodes.map Prod.fst).nodup_iff.mpr hsound.nodes

theorem Built.isSound (hbuilt : data.Built) : data.IsSound := by
  induction hbuilt with
  | new => exact isSound_new
  | setConstants _ _ ih => exact ⟨ih.root, ih.devices, ih.nodes⟩
  | addMember name _ hparent ih => exact ih.addMember name hparent
  | setOnline member _ _ ih => exact ih.modifyMember member fun _ => rfl
  | setBroken member _ _ ih => exact ih.modifyMember member fun _ => rfl
  | addDevice _ _ _ _ ih => exact ⟨ih.root, Association.nodup_put ih.devices, ih.nodes⟩
  | setController queue controller? _ ih => exact ih.setController queue controller?
  | setNode _ _ _ _ ih => exact ⟨ih.root, ih.devices, Association.nodup_put ih.nodes⟩
  | removeNode _ _ _ ih => exact ⟨ih.root, ih.devices, Association.nodup_erase ih.nodes⟩
  | reorder _ hdevices hnodes ih => exact ih.reorder hdevices hnodes

/-! ## The tree of members -/

/-- The lists of children of all members, one after the other. -/
def allChildren (data : MemoryData) : List Nat := data.members.flatMap MemoryMember.children

/-- The members form a tree with the root 0: every other one stands once in the lists of children,
below a member that is older, and siblings stand in the order of their age. -/
structure IsTree (data : MemoryData) : Prop where
  root_lt : 0 < data.members.length
  count_eq_one {member : Nat} :
    0 < member → member < data.members.length → data.allChildren.count member = 1
  zero_not_mem : 0 ∉ data.allChildren
  between {parent child : Nat} :
    child ∈ data.childrenOf parent → parent < child ∧ child < data.members.length
  sorted (parent : Nat) : (data.childrenOf parent).Pairwise (· < ·)

theorem mem_childrenOf {child parent : Nat} :
    child ∈ data.childrenOf parent ↔ ∃ m, data.members[parent]? = some m ∧ child ∈ m.children := by
  unfold childrenOf
  cases data.members[parent]? <;> simp

theorem mem_allChildren {child : Nat} :
    child ∈ data.allChildren ↔ ∃ parent, child ∈ data.childrenOf parent := by
  rw [allChildren, List.mem_flatMap]
  constructor
  · rintro ⟨m, hm, hchild⟩
    obtain ⟨parent, hparent⟩ := List.mem_iff_getElem?.mp hm
    exact ⟨parent, mem_childrenOf.mpr ⟨m, hparent, hchild⟩⟩
  · rintro ⟨parent, hchild⟩
    obtain ⟨m, hparent, hchild⟩ := mem_childrenOf.mp hchild
    exact ⟨m, List.mem_of_getElem? hparent, hchild⟩

theorem isTree_new : IsTree {} where
  root_lt := Nat.one_pos
  count_eq_one hpos hlt := absurd (Nat.lt_one_iff.mp hlt) (Nat.ne_of_gt hpos)
  zero_not_mem := List.not_mem_nil
  between {parent child} hchild := isOrdered_new parent child hchild
  sorted parent := by cases parent <;> exact .nil

theorem perm_flatMap_children_modify {members : List MemoryMember} {parent : Nat} (number : Nat)
    (hparent : parent < members.length) :
    ((members.modify parent fun m => { m with children := m.children ++ [number] }).flatMap
      MemoryMember.children).Perm (members.flatMap MemoryMember.children ++ [number]) := by
  induction members generalizing parent with
  | nil => cases hparent
  | cons m members ih =>
    cases parent with
    | zero =>
      simp only [List.modify_zero_cons, List.flatMap_cons, List.append_assoc]
      exact List.perm_append_comm.append_left m.children
    | succ parent =>
      simp only [List.modify_succ_cons, List.flatMap_cons, List.append_assoc]
      exact (ih (Nat.lt_of_succ_lt_succ hparent)).append_left m.children

/-- The number of a new member comes to the lists of children, once. -/
theorem perm_allChildren_addMember {parent : Nat} (name : String)
    (hparent : parent < data.members.length) :
    (data.addMember parent name).allChildren.Perm (data.allChildren ++ [data.members.length]) := by
  let added : MemoryMember := { name := name }
  have hlt : parent < (data.members ++ [added]).length := by
    rw [List.length_append]
    exact Nat.lt_add_right _ hparent
  have hperm := perm_flatMap_children_modify data.members.length hlt
  rwa [List.flatMap_append, List.flatMap_singleton, List.append_nil] at hperm

theorem IsTree.addMember (htree : data.IsTree) {parent : Nat} (name : String)
    (hparent : parent < data.members.length) : (data.addMember parent name).IsTree where
  root_lt := by
    rw [length_addMember]
    exact Nat.succ_pos _
  count_eq_one {member} hpos hlt := by
    rw [length_addMember] at hlt
    rw [(perm_allChildren_addMember name hparent).count_eq, List.count_append,
      List.count_singleton]
    rcases Nat.lt_succ_iff_lt_or_eq.mp hlt with hold | rfl
    · rw [htree.count_eq_one hpos hold, if_neg fun heq => Nat.ne_of_gt hold (beq_iff_eq.mp heq)]
    · have hnew : data.members.length ∉ data.allChildren := by
        intro hmem
        obtain ⟨above, habove⟩ := mem_allChildren.mp hmem
        exact Nat.lt_irrefl _ (htree.between habove).2
      rw [List.count_eq_zero_of_not_mem hnew, if_pos (beq_self_eq_true _)]
  zero_not_mem := by
    rw [(perm_allChildren_addMember name hparent).mem_iff, List.mem_append, List.mem_singleton]
    rintro (hzero | hzero)
    · exact htree.zero_not_mem hzero
    · exact Nat.ne_of_lt htree.root_lt hzero
  between {above child} hchild :=
    IsOrdered.addMember (fun _ _ => htree.between) name hparent above child hchild
  sorted other := by
    rw [childrenOf_addMember name hparent]
    split
    case isTrue =>
      refine List.pairwise_append.mpr ⟨htree.sorted other, List.pairwise_singleton _ _, ?_⟩
      intro child hchild _ hnew
      rw [List.mem_singleton.mp hnew]
      exact (htree.between hchild).2
    case isFalse => exact htree.sorted other

/-- What keeps the lists of children keeps the tree. -/
theorem IsTree.congr {data' : MemoryData} (htree : data.IsTree)
    (hchildren : data'.members.map MemoryMember.children =
      data.members.map MemoryMember.children) : data'.IsTree := by
  have hlength : data'.members.length = data.members.length := by
    rw [← List.length_map MemoryMember.children, hchildren, List.length_map]
  have hall : data'.allChildren = data.allChildren := by
    rw [allChildren, allChildren, List.flatMap_def, List.flatMap_def, hchildren]
  have hbelow := childrenOf_congr hchildren
  refine ⟨hlength ▸ htree.root_lt, fun hpos hlt => ?_, hall ▸ htree.zero_not_mem, ?_, ?_⟩
  · rw [hall]
    exact htree.count_eq_one hpos (hlength ▸ hlt)
  · intro parent child hchild
    rw [hlength]
    exact htree.between (hbelow parent ▸ hchild)
  · intro parent
    rw [hbelow]
    exact htree.sorted parent

theorem Built.isTree (hbuilt : data.Built) : data.IsTree := by
  induction hbuilt with
  | new => exact isTree_new
  | addMember name _ hparent ih => exact ih.addMember name hparent
  | setOnline member _ _ ih => exact ih.congr (map_children_modifyMember member fun _ => rfl)
  | setBroken member _ _ ih => exact ih.congr (map_children_modifyMember member fun _ => rfl)
  | setConstants _ _ ih => exact ih.congr rfl
  | addDevice _ _ _ _ ih => exact ih.congr rfl
  | setController _ _ _ ih => exact ih.congr rfl
  | setNode _ _ _ _ ih => exact ih.congr rfl
  | removeNode _ _ _ ih => exact ih.congr rfl
  | reorder _ _ _ ih => exact ih.congr rfl

theorem IsTree.nodup_allChildren (htree : data.IsTree) : data.allChildren.Nodup := by
  refine List.nodup_iff_count_le_one.mpr fun member => ?_
  by_cases hmem : member ∈ data.allChildren
  · obtain ⟨parent, hchild⟩ := mem_allChildren.mp hmem
    obtain ⟨hparent, hlt⟩ := htree.between hchild
    exact Nat.le_of_eq (htree.count_eq_one (Nat.zero_lt_of_lt hparent) hlt)
  · rw [List.count_eq_zero_of_not_mem hmem]
    exact Nat.zero_le 1

/-- A member stands below one other member at most. -/
theorem IsTree.eq_of_mem_childrenOf (htree : data.IsTree) {a b child : Nat}
    (ha : child ∈ data.childrenOf a) (hb : child ∈ data.childrenOf b) : a = b := by
  have hdisjoint := (List.nodup_flatMap.mp htree.nodup_allChildren).2
  -- of two lists with the child the first one is that of the smaller member
  have hle : ∀ {a b : Nat}, child ∈ data.childrenOf a → child ∈ data.childrenOf b → b ≤ a := by
    intro a b ha hb
    obtain ⟨m, hm, hchild⟩ := mem_childrenOf.mp ha
    obtain ⟨m', hm', hchild'⟩ := mem_childrenOf.mp hb
    obtain ⟨hlt, rfl⟩ := List.getElem?_eq_some_iff.mp hm
    obtain ⟨hlt', rfl⟩ := List.getElem?_eq_some_iff.mp hm'
    refine Nat.le_of_not_lt fun hab => ?_
    exact List.pairwise_iff_getElem.mp hdisjoint a b hlt hlt' hab hchild hchild'
  exact Nat.le_antisymm (hle hb ha) (hle ha hb)

end Iocost.MemoryData
