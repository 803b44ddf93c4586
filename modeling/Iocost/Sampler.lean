import Iocost.Sample.Output
import Iocost.Settings.Basic
import Iocost.Sink
import Iocost.Walk

/-!
Sampling a source: finding the controller of a device once, and then reading it and the nodes of its
hierarchy as often as asked. A controller that cannot be read ends a tick before anything is
written; a node that cannot be read is left out.
-/

namespace Iocost

/-- Why a tick fails. -/
inductive TickError where
  | controller (device : String) (cause : Failure)
  | write (cause : SinkError)
  | flush (cause : SinkError)
deriving DecidableEq

/-- What went wrong in a tick, down to its cause. -/
def TickError.chain : TickError → String
  | .controller device cause =>
    "failed to read the iocost controller of " ++ device ++ ": " ++ cause.chain
  | .write cause => "failed to write the sample: " ++ cause.message
  | .flush cause => "failed to flush the output: " ++ cause.message

/-- Samples a device by its settings. -/
structure Sampler (Member Controller : Type) where
  settings : Settings
  binding : Binding Member Controller

namespace Sampler

variable {Member Node Controller : Type}

def ofSettings (source : Source Member Node Controller) (settings : Settings) :
    Except Failure (Sampler Member Controller) :=
  (source.resolve settings.device).map fun binding => ⟨settings, binding⟩

variable (s : Sampler Member Controller) (source : Source Member Node Controller)

/-- The row of an entry, if it is shown: its path passes the filter, its node can be read, and the
node is active unless there are patterns that ask for it. -/
def row? (controller : ControllerCounters) (entry : Entry Member Node) : Option Row :=
  if s.settings.filter.accepts entry.path then
    match source.readNode entry.node with
    | .ok counters =>
      let stats := NodeStats.derive counters controller source.constants
      if s.settings.filter.isEmpty && !stats.isActive then none else some ⟨entry.path, stats⟩
    | .error _ => none
  else
    none

def entries : List (Entry Member Node) :=
  source.walk s.binding.root s.binding.queue s.settings.includeDying

def sample (timestamp : Binary64) : Except TickError Sample :=
  match source.readController s.binding.controller with
  | .error cause => .error (.controller s.settings.device cause)
  | .ok controller =>
    .ok
      { device := s.settings.device
        timestamp := timestamp
        controller := .derive controller source.constants
        rows := (s.entries source).filterMap (s.row? source controller) }

/-- Takes a sample, writes it and flushes the sink. -/
def tick (timestamp : Binary64) (sink : Sink) : Sink × Option TickError :=
  match s.sample source timestamp with
  | .error e => (sink, some e)
  | .ok sample =>
    match sink.writePieces (sample.pieces s.settings.format) with
    | (sink, some cause) => (sink, some (.write cause))
    | (sink, none) =>
      match sink.flush with
      | (sink, some cause) => (sink, some (.flush cause))
      | (sink, none) => (sink, none)

/-- Ticks at each of the times, until a tick fails. -/
def run : List Binary64 → Sink → Sink × Option TickError
  | [], sink => (sink, none)
  | timestamp :: timestamps, sink =>
    match s.tick source timestamp sink with
    | (sink, none) => run timestamps sink
    | failed => failed

end Sampler

end Iocost
