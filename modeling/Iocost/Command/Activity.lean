import Iocost.Command.Start

/-!
What the command does from its start to its end. A request that can be started samples, one tick
after the other, until a tick fails; one that cannot has ended before it has written anything. How
it ended shows in the status that the command exits with.
-/

namespace Iocost

/-- Why the command ends. -/
inductive Ending where
  | notRead (cause : Command.Stop)
  | notStarted (cause : StartError)
  | tickFailed (cause : TickError)
deriving DecidableEq

namespace Ending

/-- The status that the command exits with. Only giving information is a success. -/
def status : Ending → UInt32
  | notRead .information => 0
  | notRead (.usage _) => 2
  | notStarted _ | tickFailed _ => 1

/-- What is shown when help is asked for. -/
def usage : String :=
  "Usage: iocost [--cgroup REGEX]... [--interval SECONDS] [--json] [--include-dying]\n" ++
    "              [--snapshot-dir DIR] [--config FILE] DEV\n" ++
    "\n" ++
    "Shows the state of the iocost controller of a block device and of its cgroups."

/-- What is said at the end, on standard error unless it is the information asked for. -/
def message : Ending → String
  | notRead .information => usage
  | notRead (.usage cause) => cause.message
  | notStarted cause => cause.chain
  | tickFailed cause => cause.chain

end Ending

/-- What the command is doing. -/
inductive Activity where
  | sampling (monitor : Monitor)
  | ended (ending : Ending)

/-- What the command finds at a tick: the files as they are, and the time. -/
structure Moment where
  files : FileTree
  time : Binary64

namespace Activity

/-- A tick, if the command has not ended. -/
def tick (moment : Moment) : Activity → Sink → Activity × Sink
  | ended ending, sink => (ended ending, sink)
  | sampling m, sink =>
    match m.tick moment.files moment.time sink with
    | (sink, none) => (sampling m, sink)
    | (sink, some cause) => (ended (.tickFailed cause), sink)

/-- What the command is doing after ticks at several moments, and the sink it writes to. -/
def run : List Moment → Activity → Sink → Activity × Sink
  | [], a, sink => (a, sink)
  | moment :: moments, a, sink =>
    let (a, sink) := a.tick moment sink
    a.run moments sink

end Activity

/-- What the command does for a request. -/
def Request.begin (r : Request) (tools : Tools) (files : FileTree) : Activity :=
  match r.start tools files with
  | .ok m => .sampling m
  | .error cause => .ended (.notStarted cause)

end Iocost
