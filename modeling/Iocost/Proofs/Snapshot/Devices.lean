import Iocost.Proofs.Keyed.Integers
import Iocost.Snapshot.Basic

/-!
# Finding a device

A device is found by the last line that defines it in a file of the snapshot, and by the file of its
controller. What goes wrong is told from the text of that file (`resolve_of_readText_eq_error_iff`).
-/

namespace Iocost.Snapshot

variable {s : Snapshot} {files : FileTree} {device : String} {e : Failure}

theorem resolve_of_readText {text : String}
    (htext : files.readText (s.root.child devicesName) = .ok text) :
    s.resolve files device =
      ((KeyedText.parse (s.root.child devicesName).shown text).optional Text.readUnsigned?
        device).bind fun queue? =>
          match queue? with
          | none => .error (.deviceNotFound device)
          | some queue =>
            match files.inode? (s.root.child (controllerName queue)) with
            | .ok (some _) => .ok ⟨s.root, queue, s.root.child (controllerName queue)⟩
            | _ => .error (.noController device) := by
  rw [resolve, keyedText, htext]
  rfl

theorem resolve_of_inode? {text : String} {queue : Queue} {inode : UInt64}
    (htext : files.readText (s.root.child devicesName) = .ok text)
    (hqueue : (KeyedText.parse (s.root.child devicesName).shown text).optional Text.readUnsigned?
      device = .ok (some queue))
    (hinode : files.inode? (s.root.child (controllerName queue)) = .ok (some inode)) :
    s.resolve files device = .ok ⟨s.root, queue, s.root.child (controllerName queue)⟩ := by
  rw [resolve_of_readText htext, hqueue]
  simp only [Except.bind, hinode]

end Iocost.Snapshot
