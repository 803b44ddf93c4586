import Iocost.Binary64.Basic
import Iocost.Constants
import Iocost.Counters

/-!
Statistics derived from raw counters: times in milliseconds and seconds, rates and weights in
percent. A quotient by a constant that is zero is zero.
-/

namespace Iocost

/-- A ring buffer from the slot under the cursor on, which is the oldest one, round to the slot
before it. The cursor counts modulo the number of slots. -/
def ringInOrder {α : Type} (slots : List α) (cursor : Nat) : List α :=
  let start := cursor % slots.length
  slots.drop start ++ slots.take start

namespace Binary64

/-- The quotient, zero when the divisor is zero. -/
def ratio (n d : Binary64) : Binary64 :=
  match d with
  | .finite _ m => if m.units = 0 then zero else n / d
  | _ => n / d

def ofCounter (n : UInt64) : Binary64 := ofNat n.toNat

/-- A counter in percent of a number, zero when that number is zero. -/
def percent (n : UInt64) (whole : Binary64) : Binary64 := ratio (ofCounter n * ofNat 100) whole

end Binary64

/-- Statistics of a controller. -/
structure ControllerStats where
  enabled : Bool := false
  running : Bool := false
  /-- Length of a period in milliseconds. -/
  period : Binary64 := .zero
  /-- Start of the current period in seconds. -/
  periodAt : Binary64 := .zero
  /-- Start of the current period in seconds of virtual time. -/
  vperiodAt : Binary64 := .zero
  /-- The current rate in percent of the nominal one. -/
  vrate : Binary64 := .zero
  busyLevel : Int64 := 0
  /-- The parameters in use, if their index is known. -/
  profile : Option Profile := none
  userCostModel : Bool := false
  userQosParams : Bool := false
deriving DecidableEq

/-- What a controller is doing. -/
inductive ControllerState where
  | off
  | idle
  | run
deriving DecidableEq

def ControllerState.label : ControllerState → String
  | .off => "OFF"
  | .idle => "IDLE"
  | .run => "RUN"

namespace ControllerStats

/-- The statistics of a controller with these counters. -/
def derive (raw : ControllerCounters) (constants : Constants) : ControllerStats where
  enabled := raw.enabled
  running := raw.running == constants.running
  period := .ofCounter raw.period / .ofNat 1000
  periodAt := .ofCounter raw.periodAt / .ofNat 1000000
  vperiodAt := .ratio (.ofCounter raw.periodAtVtime) (.ofCounter constants.vtimePerSecond)
  vrate := .percent raw.vtimeRate (.ofCounter constants.vtimePerMicrosecond)
  busyLevel := raw.busyLevel
  profile := constants.profile? raw.profileIndex
  userCostModel := raw.userCostModel
  userQosParams := raw.userQosParams

/-- A controller that is not enabled is off, whether it runs or not. -/
def state (s : ControllerStats) : ControllerState :=
  if s.enabled then
    if s.running then .run else .idle
  else
    .off

/-- The name of the parameters in use, a question mark when their index is not known. -/
def profileLabel (s : ControllerStats) : String :=
  match s.profile with
  | some profile => profile.label
  | none => "?"

end ControllerStats

/-- Statistics of an accounting node. -/
structure NodeStats where
  isActive : Bool := false
  weight : UInt64 := 0
  active : UInt64 := 0
  inuse : UInt64 := 0
  /-- Active hierarchical weight in percent. -/
  hweightActive : Binary64 := .zero
  /-- Hierarchical weight in use in percent. -/
  hweightInuse : Binary64 := .zero
  /-- Virtual time issued and not yet done, in percent of the virtual time of a period; nothing
  when a period is empty. -/
  inflight : Option Binary64 := none
  /-- Debt in milliseconds. -/
  debt : Binary64 := .zero
  useDelay : Int64 := 0
  /-- Delay in milliseconds. -/
  delay : Binary64 := .zero
  /-- The usage history in percent, the oldest slot first. -/
  usages : List Binary64 := []
  /-- The greatest usage, if one is above zero. -/
  usage : Option Binary64 := none
  id : UInt64 := 0
deriving DecidableEq

namespace NodeStats

/-- Virtual time issued and not yet done in percent of that of a period. Both sides of the quotient
are exact integers, each rounded once before the division. -/
def inflightOf (raw : NodeCounters) (controller : ControllerCounters) : Option Binary64 :=
  let period := controller.period.toNat * controller.vtimeRate.toNat
  if period = 0 then none
  else
    let issued : Int := (raw.vtime.toNat - raw.doneVtime.toNat : Int) * 100
    some (.ofInt issued / .ofNat period)

/-- The greatest of the numbers that are above zero. -/
def greatest? (vs : List Binary64) : Option Binary64 :=
  match vs.filter Binary64.isPositive with
  | [] => none
  | v :: rest => some (rest.foldl Binary64.max v)

/-- The statistics of a node with these counters, under a controller with those. -/
def derive (raw : NodeCounters) (controller : ControllerCounters) (constants : Constants) :
    NodeStats :=
  let whole := Binary64.ofCounter constants.wholeWeight
  let usages := (ringInOrder raw.usages raw.usageIndex.toNat).map (Binary64.percent · whole)
  { isActive := raw.isActive
    weight := raw.weight
    active := raw.active
    inuse := raw.inuse
    hweightActive := .percent raw.hweightActive whole
    hweightInuse := .percent raw.hweightInuse whole
    inflight := inflightOf raw controller
    debt :=
      .ratio (.ofCounter raw.debt) (.ofCounter constants.vtimePerMicrosecond) / .ofNat 1000
    useDelay := raw.useDelay
    delay := .ofCounter raw.delay / .ofNat 1000000
    usages := usages
    usage := greatest? usages
    id := raw.id }

end NodeStats

end Iocost
