import Iocost.Proofs.Files.PathText
import Iocost.Proofs.Text.Integer
import Iocost.Snapshot.Layout

/-!
# The names of the files in a snapshot

Each file in a snapshot that is not the directory of a member has a name for what it stands for, and
no two have the same name (`SnapshotFile.name_injective`): the first bytes of a name tell what kind
of file it is, and the digits behind them of which queue.
-/

namespace Iocost

/-- What a file in a snapshot stands for. -/
inductive SnapshotFile where
  | online
  | devices
  | constants
  | controller (queue : Queue)
  | node (queue : Queue)
deriving DecidableEq

namespace SnapshotFile

def name : SnapshotFile → FileName
  | online => Snapshot.onlineName
  | devices => Snapshot.devicesName
  | constants => Snapshot.constantsName
  | controller queue => Snapshot.controllerName queue
  | node queue => Snapshot.nodeName queue

theorem queueBytes_eq (queue : Queue) :
    Snapshot.queueBytes queue = Text.encode (String.ofList (Nat.toDigits 10 queue.toNat)) := by
  refine (Text.encode_ofList_of_ascii fun c hc => ?_).symm
  exact Text.toNat_lt_of_isDigit (Text.isDigit_of_mem_toDigits hc)

theorem bytes_nodeName (queue : Queue) :
    (Snapshot.nodeName queue).bytes = Text.encode ("iocg." ++ toString queue.toNat) := by
  rw [Text.encode_append, Nat.toString_eq_ofList_toDigits, ← queueBytes_eq]
  rfl

theorem queueBytes_injective {a b : Queue} (h : Snapshot.queueBytes a = Snapshot.queueBytes b) :
    a = b := by
  rw [queueBytes_eq, queueBytes_eq] at h
  have hdigits := String.ofList_injective (Text.encode_injective h)
  exact UInt64.toNat_inj.mp (Text.toDigits_injective hdigits)

def stem (file : SnapshotFile) : List UInt8 := file.name.bytes.take 4

theorem stem_online : online.stem = Text.encode "cgro" := rfl

theorem stem_devices : devices.stem = Text.encode "ioco" := rfl

theorem stem_constants : constants.stem = Text.encode "ioco" := rfl

theorem stem_controller (queue : Queue) : (controller queue).stem = Text.encode "ioc." := rfl

theorem stem_node (queue : Queue) : (node queue).stem = Text.encode "iocg" := rfl

def stems : List (List UInt8) :=
  [Text.encode "cgro", Text.encode "ioco", Text.encode "ioc.", Text.encode "iocg"]

theorem stem_mem_stems (file : SnapshotFile) : file.stem ∈ stems := by
  cases file <;>
    simp [stems, stem_online, stem_devices, stem_constants, stem_controller, stem_node]

theorem name_injective {a b : SnapshotFile} (h : a.name = b.name) : a = b := by
  have hstem : a.stem = b.stem := by rw [stem, stem, h]
  cases a <;> cases b
  case controller.controller =>
    exact congrArg controller
      (queueBytes_injective (List.append_cancel_left (congrArg FileName.bytes h)))
  case node.node =>
    exact congrArg node
      (queueBytes_injective (List.append_cancel_left (congrArg FileName.bytes h)))
  case devices.constants => exact absurd h (by decide)
  case constants.devices => exact absurd h (by decide)
  -- Files of one kind without a queue are one file, and those of two kinds begin differently.
  all_goals
    first
    | rfl
    | (simp only [stem_online, stem_devices, stem_constants, stem_controller, stem_node] at hstem
       exact absurd (Text.encode_injective hstem) (by decide))

end SnapshotFile

end Iocost
