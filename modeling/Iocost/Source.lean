import Iocost.Constants
import Iocost.Counters
import Iocost.Failure

/-!
Hierarchies of cgroups, and sources of counters. A hierarchy answers questions about its members,
and any answer may fail. A source knows a hierarchy in which every descent through children ends,
and reads the counters of controllers and nodes.
-/

namespace Iocost

/-- What can be asked about the members of a hierarchy of cgroups. -/
structure Hierarchy (Member Node : Type) where
  /-- The name of a member; the root of the hierarchy has an empty one. -/
  name : Member → Except Failure String
  /-- Whether a member is online; a member that is not is dying. -/
  isOnline : Member → Except Failure Bool
  /-- The children of a member, in the order of the hierarchy. -/
  children : Member → Except Failure (List Member)
  /-- The accounting node of a member for a queue. -/
  node? : Member → Queue → Except Failure (Option Node)

namespace Hierarchy

variable {Member Node : Type}

/-- The children of a member, none when they cannot be listed. -/
def childList (h : Hierarchy Member Node) (member : Member) : List Member :=
  match h.children member with
  | .ok children => children
  | .error _ => []

/-- The first member is listed as a child of the second one. -/
def IsChild (h : Hierarchy Member Node) (child member : Member) : Prop :=
  child ∈ h.childList member

end Hierarchy

/-- What the name of a block device stands for. -/
structure Binding (Member Controller : Type) where
  /-- The root of the hierarchy of accounting nodes. -/
  root : Member
  /-- The queue of the device. -/
  queue : Queue
  /-- The controller of the device. -/
  controller : Controller

/-- A source of point-in-time counters. -/
structure Source (Member Node Controller : Type) extends Hierarchy Member Node where
  constants : Constants
  /-- The hierarchy, queue and controller of a block device. -/
  resolve : String → Except Failure (Binding Member Controller)
  readController : Controller → Except Failure ControllerCounters
  readNode : Node → Except Failure NodeCounters
  /-- No member is below itself, and every descent through children ends. -/
  descends : WellFounded toHierarchy.IsChild

end Iocost
