import Iocost.Files.Change
import Iocost.Keyed.Counters
import Iocost.Memory.Built
import Iocost.Snapshot.Layout

/-!
Writing a hierarchy in memory as a snapshot. Broken members are written like the others.
-/

namespace Iocost.MemoryHierarchy

/-- A change of a tree of files: a directory or a file, by its path. -/
inductive TreeStep where
  | directory (path : FilePath)
  | file (path : FilePath) (content : String)
deriving DecidableEq

variable (h : MemoryHierarchy)

def devicesText : String :=
  String.join <| h.devices.map fun (name, device) =>
    name ++ " " ++ toString device.queue.toNat ++ "\n"

/-- The files at the root of the snapshot: the controllers and the devices. -/
def deviceSteps (root : FilePath) : List TreeStep :=
  (h.devices.filterMap fun (_, device) =>
      device.controller?.map fun counters =>
        .file (root.child (Snapshot.controllerName device.queue)) counters.toKeyedText) ++
    [.file (root.child Snapshot.devicesName) h.devicesText]

def ownSteps (member : Nat) (directory : FilePath) : List TreeStep :=
  .directory directory ::
    (match h.members[member]? with
      | some m => if m.isOnline then [] else [.file (directory.child Snapshot.onlineName) "0\n"]
      | none => []) ++
    h.nodes.filterMap fun ((m, queue), counters) =>
      if m = member then
        some (.file (directory.child (Snapshot.nodeName queue)) counters.toKeyedText)
      else
        none

/-- The directory of a member with the name `name` below a directory. -/
def directoryBelow (directory : FilePath) (name : String) : FilePath :=
  match FileName.ofBytes? (Text.encode name) with
  | some name => directory.child name
  | none => { base := FilePath.join directory.bytes (Text.encode name) }

def memberSteps (member : Nat) (directory : FilePath) : List TreeStep :=
  h.ownSteps member directory ++
    (h.childrenOf member).attach.flatMap fun child =>
      memberSteps child.1
        (directoryBelow directory ((h.members[child.1]?.map MemoryMember.name).getD ""))
termination_by h.members.length - member
decreasing_by
  have := h.lt_of_mem_childrenOf child.2
  omega

/-- The changes that write the hierarchy as a snapshot below a directory. -/
def treeSteps (root : FilePath) : List TreeStep :=
  .directory root :: h.deviceSteps root ++ h.memberSteps 0 root

/-- Makes a change of a tree of files; a new file gets the number that `inodeOf` gives its path. -/
def TreeStep.apply (inodeOf : FilePath → UInt64) (files : FileTree) :
    TreeStep → Except FileError FileTree
  | directory path => files.putDirectory path.bytes
  | file path content => files.writeFile path.bytes (inodeOf path) (Text.encode content)

/-- Writes the hierarchy as a snapshot below a directory, with the numbers of new files by their
paths. -/
def writeTreeBy (root : FilePath) (inodeOf : FilePath → UInt64) (files : FileTree) :
    Except FileError FileTree :=
  (h.treeSteps root).foldlM (TreeStep.apply inodeOf) files

/-- Writes the hierarchy as a snapshot below a directory, with the number `inode` for new files. -/
def writeTree (root : FilePath) (inode : UInt64) (files : FileTree) : Except FileError FileTree :=
  h.writeTreeBy root (fun _ => inode) files

end Iocost.MemoryHierarchy
