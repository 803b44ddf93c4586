import Iocost.Command.Arguments
import Iocost.Sampler
import Iocost.Settings.File
import Iocost.Snapshot.Basic

/-!
Starting up. A request goes through stages: its settings file is loaded, its snapshot has to be
named, its patterns are compiled, the snapshot is opened, and the device is found in it. The first
stage that fails is reported.
-/

namespace Iocost

/-- What a start leaves to others. -/
structure Tools where
  /-- The options that the text of a settings file gives. -/
  ofText? : String → Option Options
  engine : PatternEngine

/-- Why a request does not come to sampling. -/
inductive StartError where
  | settingsFile (cause : SettingsFileError)
  | noSnapshot
  | patterns (cause : PatternError)
  | snapshot (dir : String) (cause : Failure)
  | device (cause : Failure)
deriving DecidableEq

/-- What went wrong, down to its cause. -/
def StartError.chain : StartError → String
  | settingsFile cause => cause.chain
  | noSnapshot => "no snapshot directory, use --snapshot-dir or IOCOST_SNAPSHOT_DIR"
  | patterns cause => cause.chain
  | snapshot dir cause => "could not open snapshot " ++ dir ++ ": " ++ cause.chain
  | device cause => cause.chain

/-- A sampler of a snapshot, ready to run. -/
structure Monitor where
  snapshot : Snapshot
  sampler : Sampler FilePath FilePath

namespace Request

/-- The options of the settings file with those of the command line on top. -/
def allOptions (r : Request) (tools : Tools) (files : FileTree) : Except StartError Options :=
  match r.config with
  | none => .ok (Options.merge {} r.options)
  | some path =>
    match Options.load tools.ofText? files path with
    | .ok o => .ok (o.merge r.options)
    | .error cause => .error (.settingsFile cause)

def start (r : Request) (tools : Tools) (files : FileTree) : Except StartError Monitor := do
  let options ← r.allOptions tools files
  let some dir := options.snapshotDir | throw .noSnapshot
  let settings ← (options.settings tools.engine r.device).mapError .patterns
  let snapshot ← (Snapshot.ofDirectory files dir).mapError (.snapshot dir.shown)
  let sampler ← (Sampler.ofSettings (snapshot.source files) settings).mapError .device
  return { snapshot := snapshot, sampler := sampler }

end Request

/-- A tick of a monitor, with the files as they are at that moment. -/
def Monitor.tick (m : Monitor) (files : FileTree) (timestamp : Binary64) (sink : Sink) :
    Sink × Option TickError :=
  m.sampler.tick (m.snapshot.source files) timestamp sink

end Iocost
