import Iocost.Settings.Basic
import Iocost.Toml.Document

/-!
Options as the text of a settings file gives them.
-/

namespace Iocost.Options

/-- The options with a key of a settings file set. -/
def set? (o : Options) (key : String) (value : Toml.Value) : Option Options :=
  match key, value with
  | "cgroup", .strings patterns => some { o with patterns := patterns }
  | "interval", .string text =>
    (Duration.read? text.toList).map fun d => { o with interval := some d }
  | "json", .boolean b => some { o with json := b }
  | "include_dying", .boolean b => some { o with includeDying := b }
  | "snapshot_dir", .string path => some { o with snapshotDir := some (.ofString path) }
  | _, _ => none

/-- The options that the text of a settings file gives. Every key has to be known. -/
def ofText? (text : String) : Option Options :=
  (Toml.read? text.toList).bind fun entries =>
    entries.foldlM (fun o entry => o.set? entry.1 entry.2) {}

end Iocost.Options
