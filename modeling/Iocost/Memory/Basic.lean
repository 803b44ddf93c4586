import Iocost.Association
import Iocost.Source

/-!
What hierarchies in memory consist of, and how it changes. Members are numbered in the order in
which they are added; the root has the number 0 and comes with the hierarchy. Each member keeps the
list of the members below it.
-/

namespace Iocost

/-- A member of a hierarchy in memory. -/
structure MemoryMember where
  name : String
  isOnline : Bool := true
  /-- No question about the member has an answer, as if it had just vanished. -/
  isBroken : Bool := false
  /-- The numbers of the members below it, in the order in which they were added. -/
  children : List Nat := []
deriving DecidableEq

/-- A block device in memory. -/
structure MemoryDevice where
  queue : Queue
  controller? : Option ControllerCounters
deriving DecidableEq

/-- What a hierarchy in memory consists of; at first there is the root alone. -/
structure MemoryData where
  constants : Constants := {}
  members : List MemoryMember := [{ name := "" }]
  devices : List (String × MemoryDevice) := []
  /-- The accounting nodes by member and queue. -/
  nodes : List ((Nat × Queue) × NodeCounters) := []

namespace MemoryData

variable (data : MemoryData)

/-! ### Changes -/

def modifyMember (member : Nat) (f : MemoryMember → MemoryMember) : MemoryData :=
  { data with members := data.members.modify member f }

/-- Adds an online member. It gets the next number, which comes last among the children of
`parent`. -/
def addMember (parent : Nat) (name : String) : MemoryData :=
  let added : MemoryData := { data with members := data.members ++ [{ name := name }] }
  added.modifyMember parent fun m => { m with children := m.children ++ [data.members.length] }

def setOnline (member : Nat) (online : Bool) : MemoryData :=
  data.modifyMember member fun m => { m with isOnline := online }

/-- Makes every question about a member fail, or no longer fail. -/
def setBroken (member : Nat) (broken : Bool) : MemoryData :=
  data.modifyMember member fun m => { m with isBroken := broken }

/-- Declares a block device, with or without a controller. -/
def addDevice (name : String) (queue : Queue) (controller? : Option ControllerCounters) :
    MemoryData :=
  { data with devices := Association.put name ⟨queue, controller?⟩ data.devices }

/-- Replaces the counters of the controller of a queue. -/
def setController (queue : Queue) (controller? : Option ControllerCounters) : MemoryData :=
  { data with
    devices := data.devices.map fun (name, device) =>
      (name, if device.queue = queue then { device with controller? := controller? } else device) }

/-- Replaces the counters of the accounting node of a member for a queue. -/
def setNode (member : Nat) (queue : Queue) (counters : NodeCounters) : MemoryData :=
  { data with nodes := Association.put (member, queue) counters data.nodes }

/-- Removes the accounting node of a member for a queue. -/
def removeNode (member : Nat) (queue : Queue) : MemoryData :=
  { data with nodes := Association.erase (member, queue) data.nodes }

/-! ### Questions -/

/-- The members below a member, in the order in which they were added. -/
def childrenOf (member : Nat) : List Nat :=
  (data.members[member]?.map MemoryMember.children).getD []

/-- The member with a number, unless it is broken. -/
def member (number : Nat) : Except Failure MemoryMember :=
  match data.members[number]? with
  | some m => if m.isBroken then .error (.unknownMember (toString number)) else .ok m
  | none => .error (.unknownMember (toString number))

/-- The hierarchy and the queue of a device, which is also how its controller is known. -/
def resolve (device : String) : Except Failure (Binding Nat Queue) :=
  match data.devices.lookup device with
  | none => .error (.deviceNotFound device)
  | some d =>
    if d.controller?.isSome then .ok { root := 0, queue := d.queue, controller := d.queue }
    else .error (.noController device)

def node? (member : Nat) (queue : Queue) : Except Failure (Option (Nat × Queue)) :=
  (data.member member).map fun _ => (data.nodes.lookup (member, queue)).map fun _ => (member, queue)

def readController (queue : Queue) : Except Failure ControllerCounters :=
  let device? := data.devices.find? fun entry => entry.2.queue = queue
  match device?.bind fun entry => entry.2.controller? with
  | some counters => .ok counters
  | none => .error (.noController ("queue " ++ toString queue.toNat))

def readNode (node : Nat × Queue) : Except Failure NodeCounters :=
  match data.nodes.lookup node with
  | some counters => .ok counters
  | none => .error (.unknownMember (toString node.1))

def hierarchy : Hierarchy Nat (Nat × Queue) where
  name := fun number => (data.member number).map MemoryMember.name
  isOnline := fun number => (data.member number).map MemoryMember.isOnline
  children := fun number => (data.member number).map MemoryMember.children
  node? := data.node?

variable {data}

theorem childrenOf_of_member_ok {member : Nat} {m : MemoryMember}
    (hmember : data.member member = .ok m) : data.childrenOf member = m.children := by
  unfold MemoryData.member at hmember
  split at hmember
  case h_1 m' hget =>
    split at hmember
    case isTrue => cases hmember
    case isFalse =>
      cases hmember
      rw [childrenOf, hget, Option.map_some, Option.getD_some]
  case h_2 => cases hmember

theorem childList_of_member_ok {member : Nat} {m : MemoryMember}
    (hmember : data.member member = .ok m) :
    data.hierarchy.childList member = data.childrenOf member := by
  simp only [Hierarchy.childList, hierarchy, hmember, Except.map, childrenOf_of_member_ok hmember]

theorem childList_of_member_error {member : Nat} {f : Failure}
    (hmember : data.member member = .error f) : data.hierarchy.childList member = [] := by
  simp only [Hierarchy.childList, hierarchy, hmember, Except.map]

theorem mem_childrenOf_of_isChild {child member : Nat}
    (hchild : data.hierarchy.IsChild child member) : child ∈ data.childrenOf member := by
  cases hmember : data.member member with
  | error f =>
    rw [Hierarchy.IsChild, childList_of_member_error hmember] at hchild
    cases hchild
  | ok m =>
    rwa [Hierarchy.IsChild, childList_of_member_ok hmember] at hchild

end MemoryData

end Iocost
