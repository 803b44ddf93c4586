/-!
Constants of the controller, and the sets of parameters it tunes by itself.
-/

namespace Iocost

/-- What the counters of a controller are measured in. The defaults are those of the controller
that is in general use. -/
structure Constants where
  /-- The state of a running controller. -/
  running : UInt64 := 1
  /-- How many slots the usage history of a node has. -/
  usageSlots : UInt64 := 8
  /-- The hierarchical weight that is all of it. -/
  wholeWeight : UInt64 := 65536
  /-- Units of virtual time in a second, at the nominal rate. -/
  vtimePerSecond : UInt64 := 137438953472
  /-- Units of virtual time in a microsecond, at the nominal rate. -/
  vtimePerMicrosecond : UInt64 := 137438
  /-- Index of the parameters for rotating disks. -/
  hddIndex : UInt64 := 1
  /-- Index of the parameters for solid state disks with a queue of depth one. -/
  ssdShallowIndex : UInt64 := 2
  /-- Index of the parameters for solid state disks in general. -/
  ssdDefaultIndex : UInt64 := 3
  /-- Index of the parameters for fast solid state disks. -/
  ssdFastIndex : UInt64 := 4
deriving DecidableEq, Inhabited

/-- A set of parameters that a controller chooses by itself. -/
inductive Profile where
  | ssdFast
  | ssdDefault
  | ssdShallow
  | hdd
deriving DecidableEq

/-- The name of a set of parameters in the output. -/
def Profile.label : Profile → String
  | .ssdFast => "ssd_fast"
  | .ssdDefault => "ssd_dfl"
  | .ssdShallow => "ssd_qd1"
  | .hdd => "hdd"

/-- The parameters that an index stands for. When two constants agree, the faster device wins. -/
def Constants.profile? (c : Constants) (index : UInt64) : Option Profile :=
  if index = c.ssdFastIndex then some .ssdFast
  else if index = c.ssdDefaultIndex then some .ssdDefault
  else if index = c.ssdShallowIndex then some .ssdShallow
  else if index = c.hddIndex then some .hdd
  else none

end Iocost
