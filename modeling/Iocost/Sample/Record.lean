import Iocost.Sample.Basic
import Iocost.Sample.Number
import Iocost.Text.Column

/-!
A sample as records: lists of keys and values, both texts.
-/

namespace Iocost

/-- Keys with their values, in the order in which they are written. -/
structure Record where
  fields : List (String × String)
deriving DecidableEq

namespace Record

def keys (r : Record) : List String := r.fields.map Prod.fst

def get? (r : Record) (key : String) : Option String := r.fields.lookup key

def flagValue (b : Bool) : String := if b then "1" else "0"

def numberValue (v : Binary64) : String := String.ofList (numberText v)

/-- A number that may be missing as a value: a missing one is a zero without a point, which no
number is written as. -/
def numberOrZero : Option Binary64 → String
  | some v => numberValue v
  | none => "0"

def counterValue (n : UInt64) : String := String.ofList (Nat.toDigits 10 n.toNat)

def integerValue (i : Int64) : String := String.ofList (Text.integer i.toInt)

/-- An address as a value, in hexadecimal digits. -/
def addressValue (n : UInt64) : String := String.ofList ('0' :: 'x' :: Nat.toDigits 16 n.toNat)

def ofController (device timestamp : String) (s : ControllerStats) : Record where
  fields := [
    ("device", device),
    ("timestamp", timestamp),
    ("enabled", flagValue s.enabled),
    ("running", flagValue s.running),
    ("period_ms", numberValue s.period),
    ("period_at", numberValue s.periodAt),
    ("period_vtime_at", numberValue s.vperiodAt),
    ("busy_level", integerValue s.busyLevel),
    ("vrate_pct", numberValue s.vrate)]

/-- The key of a slot of the usage history. -/
def usageKey (slot : Nat) : String := String.ofList ("usage_pct_".toList ++ Nat.toDigits 10 slot)

/-- The record of an accounting node. The usage history comes last, one key for each slot. -/
def ofNode (path timestamp : String) (s : NodeStats) : Record where
  fields := [
    ("cgroup", path),
    ("timestamp", timestamp),
    ("is_active", flagValue s.isActive),
    ("weight", counterValue s.weight),
    ("weight_active", counterValue s.active),
    ("weight_inuse", counterValue s.inuse),
    ("hweight_active_pct", numberValue s.hweightActive),
    ("hweight_inuse_pct", numberValue s.hweightInuse),
    ("inflight_pct", numberOrZero s.inflight),
    ("debt_ms", numberValue s.debt),
    ("use_delay", integerValue s.useDelay),
    ("delay_ms", numberValue s.delay),
    ("usage_pct", numberOrZero s.usage),
    ("address", addressValue s.id)] ++
    s.usages.zipIdx.map fun (usage, slot) => (usageKey slot, numberValue usage)

end Record

/-- The records of a sample: the controller's, then those of the nodes. -/
def Sample.records (s : Sample) : List Record :=
  let timestamp := Record.numberValue s.timestamp
  .ofController s.device timestamp s.controller ::
    s.rows.map fun r => .ofNode r.path timestamp r.stats

end Iocost
