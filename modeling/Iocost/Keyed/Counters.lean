import Iocost.Counters
import Iocost.Constants
import Iocost.Keyed.Basic
import Iocost.Text.Column

/-!
Counters and constants as flat keyed texts. Reading takes the keys in a fixed order, so the first
failing one in that order is reported, wherever it stands in the text.
-/

namespace Iocost

def keyedLine (key : String) (value : List Char) : List Char :=
  key.toList ++ ' ' :: (value ++ ['\n'])

def counterText (n : UInt64) : List Char := Nat.toDigits 10 n.toNat

def flagText (b : Bool) : List Char := if b then ['1'] else ['0']

namespace ControllerCounters

def toKeyedText (c : ControllerCounters) : String :=
  String.ofList <|
    keyedLine "enabled" (flagText c.enabled) ++
    keyedLine "running" (counterText c.running) ++
    keyedLine "period_us" (counterText c.period) ++
    keyedLine "period_at" (counterText c.periodAt) ++
    keyedLine "period_at_vtime" (counterText c.periodAtVtime) ++
    keyedLine "vtime_rate" (counterText c.vtimeRate) ++
    keyedLine "busy_level" (Text.integer c.busyLevel.toInt) ++
    keyedLine "autop_idx" (counterText c.profileIndex) ++
    keyedLine "user_cost_model" (flagText c.userCostModel) ++
    keyedLine "user_qos_params" (flagText c.userQosParams)

def ofKeyedText (t : KeyedText) : Except Failure ControllerCounters := do
  return {
    enabled := ← t.flag "enabled"
    running := ← t.counter "running"
    period := ← t.counter "period_us"
    periodAt := ← t.counter "period_at"
    periodAtVtime := ← t.counter "period_at_vtime"
    vtimeRate := ← t.counter "vtime_rate"
    busyLevel := ← t.signedCounter "busy_level"
    profileIndex := ← t.counter "autop_idx"
    userCostModel := ← t.flag "user_cost_model"
    userQosParams := ← t.flag "user_qos_params" }

end ControllerCounters

namespace NodeCounters

/-- The counters as a flat keyed text. What tells the node from others is not written: the file
itself does. -/
def toKeyedText (n : NodeCounters) : String :=
  String.ofList <|
    keyedLine "active_list" (flagText n.isActive) ++
    keyedLine "weight" (counterText n.weight) ++
    keyedLine "active" (counterText n.active) ++
    keyedLine "inuse" (counterText n.inuse) ++
    keyedLine "hweight_active" (counterText n.hweightActive) ++
    keyedLine "hweight_inuse" (counterText n.hweightInuse) ++
    keyedLine "vtime" (counterText n.vtime) ++
    keyedLine "done_vtime" (counterText n.doneVtime) ++
    keyedLine "abs_vdebt" (counterText n.debt) ++
    keyedLine "use_delay" (Text.integer n.useDelay.toInt) ++
    keyedLine "delay_nsec" (counterText n.delay) ++
    keyedLine "usage_idx" (counterText n.usageIndex) ++
    keyedLine "usages" (List.intercalate [' '] (n.usages.map counterText))

/-- Reads the counters from a flat keyed text. The node is known by its address, or by `inode` when
the text has none; the usage history must have as many slots as the constants say. -/
def ofKeyedText (slots inode : UInt64) (t : KeyedText) : Except Failure NodeCounters := do
  let address ← t.optional Text.readUnsigned? "address"
  let usages ← t.list Text.readUnsigned? "usages"
  if usages.length ≠ slots.toNat then
    throw (.badRingLength slots.toNat usages.length)
  return {
    id := address.getD inode
    usages := usages
    isActive := ← t.flag "active_list"
    weight := ← t.counter "weight"
    active := ← t.counter "active"
    inuse := ← t.counter "inuse"
    hweightActive := ← t.counter "hweight_active"
    hweightInuse := ← t.counter "hweight_inuse"
    vtime := ← t.counter "vtime"
    doneVtime := ← t.counter "done_vtime"
    debt := ← t.counter "abs_vdebt"
    useDelay := ← t.signedCounter "use_delay"
    delay := ← t.counter "delay_nsec"
    usageIndex := ← t.counter "usage_idx" }

end NodeCounters

/-- The value of a counter that may be missing, with a value to fall back on. -/
def KeyedText.counterOr (t : KeyedText) (key : String) (fallback : UInt64) :
    Except Failure UInt64 :=
  (t.optional Text.readUnsigned? key).map fun value => value.getD fallback

/-- The constants with the values that a flat keyed text gives them, the defaults for the others. -/
def Constants.ofKeyedText (t : KeyedText) : Except Failure Constants := do
  let base : Constants := {}
  return {
    running := ← t.counterOr "ioc_running" base.running
    wholeWeight := ← t.counterOr "hweight_whole" base.wholeWeight
    vtimePerSecond := ← t.counterOr "vtime_per_sec" base.vtimePerSecond
    vtimePerMicrosecond := ← t.counterOr "vtime_per_usec" base.vtimePerMicrosecond
    hddIndex := ← t.counterOr "autop_hdd" base.hddIndex
    ssdShallowIndex := ← t.counterOr "autop_ssd_qd1" base.ssdShallowIndex
    ssdDefaultIndex := ← t.counterOr "autop_ssd_dfl" base.ssdDefaultIndex
    ssdFastIndex := ← t.counterOr "autop_ssd_fast" base.ssdFastIndex
    usageSlots := ← t.counterOr "nr_usage_slots" base.usageSlots }

end Iocost
