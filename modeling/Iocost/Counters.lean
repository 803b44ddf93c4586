/-!
Raw counters of a controller and of its accounting nodes, as a source reports them.
-/

namespace Iocost

/-- The request queue of a block device. Each cgroup has at most one accounting node for it. -/
abbrev Queue := UInt64

/-- Raw counters of a controller. -/
structure ControllerCounters where
  enabled : Bool := false
  /-- The state of the controller, to be compared with `Constants.running`. -/
  running : UInt64 := 0
  /-- Length of a period in microseconds. -/
  period : UInt64 := 0
  /-- Start of the current period in microseconds. -/
  periodAt : UInt64 := 0
  /-- Start of the current period in virtual time. -/
  periodAtVtime : UInt64 := 0
  /-- Virtual time in a microsecond at the current rate. -/
  vtimeRate : UInt64 := 0
  busyLevel : Int64 := 0
  /-- Index of the parameters in use. -/
  profileIndex : UInt64 := 0
  userCostModel : Bool := false
  userQosParams : Bool := false
deriving DecidableEq, Inhabited

/-- Raw counters of an accounting node. -/
structure NodeCounters where
  /-- What tells the node from others. -/
  id : UInt64 := 0
  /-- The node is on the active list of its controller. -/
  isActive : Bool := false
  weight : UInt64 := 0
  active : UInt64 := 0
  inuse : UInt64 := 0
  hweightActive : UInt64 := 0
  hweightInuse : UInt64 := 0
  vtime : UInt64 := 0
  doneVtime : UInt64 := 0
  /-- Debt in virtual time. -/
  debt : UInt64 := 0
  useDelay : Int64 := 0
  /-- Delay in nanoseconds. -/
  delay : UInt64 := 0
  /-- Where the next usage will be stored. -/
  usageIndex : UInt64 := 0
  /-- The usage history, in the order of storage. -/
  usages : List UInt64 := []
deriving DecidableEq, Inhabited

end Iocost
