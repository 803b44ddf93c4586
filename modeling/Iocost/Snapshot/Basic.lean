import Iocost.Files.Tree
import Iocost.Keyed.Counters
import Iocost.Snapshot.Layout
import Iocost.Source

/-!
Snapshots: trees of files that stand for a hierarchy of cgroups, a directory being a cgroup. A
snapshot is opened once, which fixes its constants; all else is read from the tree as it is at that
moment.

Links are followed to files, but a link to a directory is no cgroup. So every descent through
children ends: each leads to a smaller directory.
-/

namespace Iocost

/-- A snapshot that has been opened. -/
structure Snapshot where
  /-- The directory of the root cgroup. -/
  root : FilePath
  constants : Constants
deriving DecidableEq

namespace Snapshot

/-- What was to be read at a path, its failure being one to read that path. -/
def reading {α : Type} (path : FilePath) : Except FileError α → Except Failure α
  | .ok a => .ok a
  | .error cause => .error (.unreadable path.shown cause)

def keyedText (files : FileTree) (path : FilePath) : Except Failure KeyedText :=
  (reading path (files.readText path)).map (KeyedText.parse path.shown)

/-- Opens the snapshot below a directory. A file with constants may be missing. -/
def ofDirectory (files : FileTree) (root : FilePath) : Except Failure Snapshot :=
  let path := root.child constantsName
  match files.readText path with
  | .ok content => (Constants.ofKeyedText (.parse path.shown content)).map fun c => ⟨root, c⟩
  | .error .notFound => .ok ⟨root, {}⟩
  | .error cause => .error (.unreadable path.shown cause)

variable (s : Snapshot) (files : FileTree)

/-- The hierarchy, queue and controller of a device. Its controller must have a file. -/
def resolve (device : String) : Except Failure (Binding FilePath FilePath) := do
  let devices ← keyedText files (s.root.child devicesName)
  match ← devices.optional Text.readUnsigned? device with
  | none => throw (.deviceNotFound device)
  | some queue =>
    let controller := s.root.child (controllerName queue)
    match files.inode? controller with
    | .ok (some _) => return { root := s.root, queue := queue, controller := controller }
    | _ => throw (.noController device)

/-- The name of a cgroup, empty for the root. -/
def memberName (member : FilePath) : Except Failure String :=
  if member.isSame s.root then .ok ""
  else
    match member.lastPart?.bind Text.decode? with
    | some name => .ok name
    | none => .error (.unknownMember member.shown)

/-- Whether a cgroup is online. Without a file that says so it is. -/
def isOnline (member : FilePath) : Except Failure Bool :=
  let path := member.child onlineName
  match files.readText path with
  | .ok content =>
    match Text.readSingle? content.toList with
    | some n => .ok (n != 0)
    | none => .error (.unreadable path.shown .invalidData)
  | .error .notFound => .ok true
  | .error cause => .error (.unreadable path.shown cause)

def children (member : FilePath) : Except Failure (List FilePath) :=
  (reading member (files.subdirectories member)).map fun names => names.map member.child

/-- The file of the accounting node of a cgroup for a queue. -/
def node? (member : FilePath) (queue : Queue) : Except Failure (Option FilePath) :=
  let path := member.child (nodeName queue)
  match files.inode? path with
  | .ok inode => .ok (inode.map fun _ => path)
  | .error .notFound => .ok none
  | .error cause => .error (.unreadable path.shown cause)

def readController (path : FilePath) : Except Failure ControllerCounters :=
  (keyedText files path).bind ControllerCounters.ofKeyedText

def readNode (path : FilePath) : Except Failure NodeCounters := do
  let t ← keyedText files path
  let inode ← reading path (files.inode? path)
  NodeCounters.ofKeyedText s.constants.usageSlots (inode.getD 0) t

def hierarchy : Hierarchy FilePath FilePath where
  name := s.memberName
  isOnline := isOnline files
  children := children files
  node? := node? files

theorem extent_lt_of_isChild {child member : FilePath}
    (h : (s.hierarchy files).IsChild child member) : files.extent child < files.extent member := by
  cases hnames : files.subdirectories member with
  | error cause =>
    simp [Hierarchy.IsChild, Hierarchy.childList, hierarchy, children, reading, hnames,
      Except.map] at h
  | ok names =>
    simp only [Hierarchy.IsChild, Hierarchy.childList, hierarchy, children, reading, hnames,
      Except.map, List.mem_map] at h
    obtain ⟨name, hname, rfl⟩ := h
    exact FileTree.extent_child_lt hnames hname

def source : Source FilePath FilePath FilePath where
  toHierarchy := s.hierarchy files
  constants := s.constants
  resolve := s.resolve files
  readController := readController files
  readNode := s.readNode files
  descends := Subrelation.wf (s.extent_lt_of_isChild files) (measure files.extent).wf

end Snapshot

end Iocost
