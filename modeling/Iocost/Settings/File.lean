import Iocost.Files.Tree
import Iocost.Settings.Basic

/-!
Settings files.
-/

namespace Iocost

/-- Why a settings file has no options. -/
inductive SettingsFileError where
  | unreadable (path : String) (cause : FileError)
  /-- The text is not as settings are written. -/
  | invalid (path : String)
deriving DecidableEq

namespace SettingsFileError

/-- What is wrong with a settings file, without the cause. -/
def message : SettingsFileError → String
  | unreadable path _ => "could not read config file " ++ path
  | invalid path => "invalid config file " ++ path

/-- What is wrong with a settings file, followed by its cause where there is one. -/
def chain (e : SettingsFileError) : String :=
  match e with
  | unreadable _ cause => e.message ++ ": " ++ cause.message
  | invalid _ => e.message

end SettingsFileError

namespace Options

/-- The options of a settings file. What its text gives is left to `ofText?`. -/
def load (ofText? : String → Option Options) (files : FileTree) (path : FilePath) :
    Except SettingsFileError Options :=
  match files.readText path with
  | .error cause => .error (.unreadable path.shown cause)
  | .ok text =>
    match ofText? text with
    | some o => .ok o
    | none => .error (.invalid path.shown)

end Options

end Iocost
