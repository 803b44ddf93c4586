import Iocost.Command.Arguments
import Iocost.Proofs.Outcome

/-!
# Arguments and the environment

A directory that the environment names counts as an option of the command line that was left out.
That is all that is asked of a reader of arguments (`ReadsEnvironment`), and the reader of the
command does so (`Command.readsEnvironment_read`).
-/

namespace Iocost

namespace Command

/-- The request that has been given, once everything has been looked at. -/
def Given.toRequest (g : Given) : Except Stop Request :=
  match g.device with
  | some device => .ok ⟨device, g.config, g.options⟩
  | none => .error (.usage .deviceMissing)

theorem read_eq {arguments : List String} {reading : Reading} {given : Given}
    (hreading : arguments.foldlM Reading.step {} = .ok reading)
    (hgiven : reading.settled = .ok given) (environmentDir : Option FilePath) :
    read arguments environmentDir =
      match given.options.snapshotDir, environmentDir with
      | none, some path => ((given.takeSnapshotDir path).mapError .usage).bind Given.toRequest
      | _, _ => given.toRequest := by
  unfold read
  simp only [bind, Except.bind, hreading, hgiven]
  cases given.options.snapshotDir <;> cases environmentDir <;> rfl

end Command

end Iocost
