import Iocost.Memory.Basic

/-!
Hierarchies in memory are what changes bring about, one after the other (`MemoryData.Built`). All of
them list a member below an older one (`MemoryData.Built.isOrdered`), so every descent through their
children ends.
-/

namespace Iocost

namespace MemoryData

/-- What changes bring about, one after the other. The maps keep no order of their own, so any order
of their entries may come about. -/
inductive Built : MemoryData → Prop where
  | new : Built {}
  | setConstants {data : MemoryData} (constants : Constants) :
    Built data → Built { data with constants := constants }
  | addMember {data : MemoryData} {parent : Nat} (name : String) :
    Built data → parent < data.members.length → Built (data.addMember parent name)
  | setOnline {data : MemoryData} (member : Nat) (online : Bool) :
    Built data → Built (data.setOnline member online)
  | setBroken {data : MemoryData} (member : Nat) (broken : Bool) :
    Built data → Built (data.setBroken member broken)
  | addDevice {data : MemoryData} (name : String) (queue : Queue)
    (controller? : Option ControllerCounters) :
    Built data → Built (data.addDevice name queue controller?)
  | setController {data : MemoryData} (queue : Queue) (controller? : Option ControllerCounters) :
    Built data → Built (data.setController queue controller?)
  | setNode {data : MemoryData} (member : Nat) (queue : Queue) (counters : NodeCounters) :
    Built data → Built (data.setNode member queue counters)
  | removeNode {data : MemoryData} (member : Nat) (queue : Queue) :
    Built data → Built (data.removeNode member queue)
  | reorder {data : MemoryData} {devices : List (String × MemoryDevice)}
    {nodes : List ((Nat × Queue) × NodeCounters)} :
    Built data → devices.Perm data.devices → nodes.Perm data.nodes →
      Built { data with devices := devices, nodes := nodes }

variable {data : MemoryData}

/-! ### Lists of children -/

theorem length_addMember (parent : Nat) (name : String) :
    (data.addMember parent name).members.length = data.members.length + 1 := by
  rw [addMember, modifyMember, List.length_modify, List.length_append, List.length_singleton]

/-- A new member comes last among the children of its parent; it has no children itself, and all
else stays in place. -/
theorem childrenOf_addMember {parent : Nat} (name : String)
    (hparent : parent < data.members.length) (other : Nat) :
    (data.addMember parent name).childrenOf other =
      if other = parent then data.childrenOf other ++ [data.members.length]
      else data.childrenOf other := by
  unfold childrenOf addMember modifyMember
  by_cases hother : other = parent
  · subst hother
    rw [if_pos rfl, List.getElem?_modify_eq, List.getElem?_append_left hparent,
      List.getElem?_eq_getElem hparent]
    rfl
  · rw [if_neg hother, List.getElem?_modify_ne _ _ (Ne.symm hother)]
    rcases Nat.lt_or_ge other data.members.length with hlt | hge
    · rw [List.getElem?_append_left hlt]
    · rw [List.getElem?_append_right hge, List.getElem?_eq_none hge]
      cases other - data.members.length <;> rfl

theorem childrenOf_congr {data' : MemoryData}
    (hchildren : data'.members.map MemoryMember.children = data.members.map MemoryMember.children)
    (member : Nat) : data'.childrenOf member = data.childrenOf member := by
  rw [childrenOf, childrenOf, ← List.getElem?_map, ← List.getElem?_map, hchildren]

/-- A change of a member that keeps its children keeps all lists of children. -/
theorem map_children_modifyMember (member : Nat) {f : MemoryMember → MemoryMember}
    (hchildren : ∀ m, (f m).children = m.children) :
    (data.modifyMember member f).members.map MemoryMember.children =
      data.members.map MemoryMember.children := by
  refine List.ext_getElem? fun i => ?_
  rw [modifyMember, List.getElem?_map, List.getElem?_map, List.getElem?_modify]
  cases data.members[i]? with
  | none => rfl
  | some m =>
    simp only [Option.map_eq_map, Option.map_some]
    split
    case isTrue => exact congrArg some (hchildren m)
    case isFalse => rfl

/-- Members stand below older ones. -/
def IsOrdered (data : MemoryData) : Prop :=
  ∀ parent, ∀ child ∈ data.childrenOf parent, parent < child ∧ child < data.members.length

theorem isOrdered_new : IsOrdered {} := by
  intro parent child hchild
  cases parent <;> cases hchild

theorem IsOrdered.addMember (hordered : data.IsOrdered) {parent : Nat} (name : String)
    (hparent : parent < data.members.length) : (data.addMember parent name).IsOrdered := by
  intro other child hchild
  rw [childrenOf_addMember name hparent] at hchild
  rw [length_addMember]
  split at hchild
  case isTrue heq =>
    rcases List.mem_append.mp hchild with hold | hnew
    · exact ⟨(hordered other child hold).1, Nat.lt_succ_of_lt (hordered other child hold).2⟩
    · obtain rfl := List.mem_singleton.mp hnew
      exact ⟨heq ▸ hparent, Nat.lt_succ_self _⟩
  case isFalse =>
    exact ⟨(hordered other child hchild).1, Nat.lt_succ_of_lt (hordered other child hchild).2⟩

theorem IsOrdered.modifyMember (hordered : data.IsOrdered) (member : Nat)
    {f : MemoryMember → MemoryMember} (hchildren : ∀ m, (f m).children = m.children) :
    (data.modifyMember member f).IsOrdered := by
  intro other child hchild
  rw [childrenOf_congr (map_children_modifyMember member hchildren)] at hchild
  rw [MemoryData.modifyMember, List.length_modify]
  exact hordered other child hchild

theorem Built.isOrdered (hbuilt : data.Built) : data.IsOrdered := by
  induction hbuilt with
  | new => exact isOrdered_new
  | addMember name _ hparent ih => exact ih.addMember name hparent
  | setOnline member _ _ ih => exact ih.modifyMember member fun _ => rfl
  | setBroken member _ _ ih => exact ih.modifyMember member fun _ => rfl
  | setConstants | addDevice | setController | setNode | removeNode | reorder => assumption

end MemoryData

/-- A hierarchy in memory, which can be changed. -/
structure MemoryHierarchy extends MemoryData where
  isBuilt : toMemoryData.Built

namespace MemoryHierarchy

/-- A hierarchy with a root alone. -/
def new : MemoryHierarchy := ⟨{}, .new⟩

instance : Inhabited MemoryHierarchy := ⟨new⟩

variable (h : MemoryHierarchy)

/-! ### Changes -/

def setConstants (constants : Constants) : MemoryHierarchy :=
  ⟨{ h.toMemoryData with constants := constants }, h.isBuilt.setConstants constants⟩

/-- Adds an online member below another one, behind its children. -/
def addMember (parent : Nat) (name : String) (hparent : parent < h.members.length) :
    MemoryHierarchy :=
  ⟨h.toMemoryData.addMember parent name, h.isBuilt.addMember name hparent⟩

def setOnline (member : Nat) (online : Bool) : MemoryHierarchy :=
  ⟨h.toMemoryData.setOnline member online, h.isBuilt.setOnline member online⟩

def setBroken (member : Nat) (broken : Bool) : MemoryHierarchy :=
  ⟨h.toMemoryData.setBroken member broken, h.isBuilt.setBroken member broken⟩

def addDevice (name : String) (queue : Queue) (controller? : Option ControllerCounters) :
    MemoryHierarchy :=
  ⟨h.toMemoryData.addDevice name queue controller?, h.isBuilt.addDevice name queue controller?⟩

def setController (queue : Queue) (controller? : Option ControllerCounters) : MemoryHierarchy :=
  ⟨h.toMemoryData.setController queue controller?, h.isBuilt.setController queue controller?⟩

def setNode (member : Nat) (queue : Queue) (counters : NodeCounters) : MemoryHierarchy :=
  ⟨h.toMemoryData.setNode member queue counters, h.isBuilt.setNode member queue counters⟩

def removeNode (member : Nat) (queue : Queue) : MemoryHierarchy :=
  ⟨h.toMemoryData.removeNode member queue, h.isBuilt.removeNode member queue⟩

/-! ### Walks -/

theorem lt_of_mem_childrenOf {child member : Nat} (hchild : child ∈ h.childrenOf member) :
    member < child ∧ child < h.members.length :=
  h.isBuilt.isOrdered member child hchild

theorem lt_of_isChild {child member : Nat} (hchild : h.hierarchy.IsChild child member) :
    h.members.length - child < h.members.length - member := by
  have := h.lt_of_mem_childrenOf (MemoryData.mem_childrenOf_of_isChild hchild)
  omega

def source : Source Nat (Nat × Queue) Queue where
  toHierarchy := h.hierarchy
  constants := h.constants
  resolve := h.resolve
  readController := h.readController
  readNode := h.readNode
  descends := Subrelation.wf h.lt_of_isChild (measure fun member => h.members.length - member).wf

end MemoryHierarchy

end Iocost
