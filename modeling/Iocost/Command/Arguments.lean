import Iocost.Settings.Basic
import Iocost.Settings.Seconds
import Iocost.Text.Blank
import Iocost.Text.Control

/-!
The command line: the name of a device, and options. A value may follow its option as an argument of
its own, behind an equals sign, or right behind the letter of an option. It is looked at no sooner
than the next option or name begins, so an argument that is out of place is reported before a value
that is no good. After two hyphens alone all arguments are names.
-/

namespace Iocost

/-- The options of the command line. -/
inductive OptionName where
  | cgroup
  | interval
  | json
  | includeDying
  | snapshotDir
  | config
  | help
  | version
deriving DecidableEq

namespace OptionName

def ofLong? : String → Option OptionName
  | "cgroup" => some cgroup
  | "interval" => some interval
  | "json" => some json
  | "include-dying" => some includeDying
  | "snapshot-dir" => some snapshotDir
  | "config" => some config
  | "help" => some help
  | "version" => some version
  | _ => none

def ofLetter? : Char → Option OptionName
  | 'i' => some interval
  | 'c' => some config
  | 'h' => some help
  | 'V' => some version
  | _ => none

def takesValue : OptionName → Bool
  | cgroup | interval | snapshotDir | config => true
  | json | includeDying | help | version => false

def shown : OptionName → String
  | cgroup => "--cgroup <REGEX>"
  | interval => "--interval <SECONDS>"
  | json => "--json"
  | includeDying => "--include-dying"
  | snapshotDir => "--snapshot-dir <SNAPSHOT_DIR>"
  | config => "--config <FILE>"
  | help => "--help"
  | version => "--version"

end OptionName

/-- What is wrong with a command line. -/
inductive UsageError where
  | unexpectedArgument (argument : String)
  | valueRequired (option : OptionName)
  | unneededValue (value : String) (option : OptionName)
  | repeated (option : OptionName)
  | invalidInterval (value : String) (cause : Duration.SecondsError)
  | deviceMissing
deriving DecidableEq

/-- What is said about a wrong command line. Arguments are shown without control sequences. -/
def UsageError.message (e : UsageError) : String :=
  let quoted (argument : String) : String := "'" ++ Text.withoutControls argument ++ "'"
  match e with
  | unexpectedArgument argument => "error: unexpected argument " ++ quoted argument ++ " found"
  | valueRequired option =>
    "error: a value is required for '" ++ option.shown ++ "' but none was supplied"
  | unneededValue value option =>
    "error: unexpected value " ++ quoted value ++ " for '" ++ option.shown ++
      "' found; no more were expected"
  | repeated option =>
    "error: the argument '" ++ option.shown ++ "' cannot be used multiple times"
  | invalidInterval value cause =>
    "error: invalid value " ++ quoted value ++ " for '" ++ OptionName.interval.shown ++ "': " ++
      cause.message
  | deviceMissing => "error: the following required arguments were not provided:"

/-- The first line of what is said about a wrong command line. -/
def UsageError.firstLine (e : UsageError) : String :=
  String.ofList ((Text.lines (e.message.toList ++ ['\n'])).headD [])

/-- What a command line asks for. -/
structure Request where
  device : String
  /-- The path of a settings file. -/
  config : Option FilePath
  options : Options
deriving DecidableEq

namespace Command

/-- Why the arguments are not read to a request. -/
inductive Stop where
  /-- Help or the version is asked for. -/
  | information
  | usage (cause : UsageError)
deriving DecidableEq

/-- What has been given so far. -/
structure Given where
  device : Option String := none
  config : Option FilePath := none
  options : Options := {}
deriving DecidableEq

/-- What has been read and not yet been looked at. -/
inductive Pending where
  | device (name : String)
  | option (name : OptionName) (value : Option String)
deriving DecidableEq

/-- How far the arguments have been read. -/
structure Reading where
  given : Given := {}
  pending : Option Pending := none
  /-- A device has been named. -/
  named : Bool := false
  /-- All further arguments are names. -/
  namesOnly : Bool := false
deriving DecidableEq

/-- A value, which may not be given a second time. -/
def once {α : Type} (option : OptionName) (old : Option α) (new : Except UsageError α) :
    Except UsageError (Option α) :=
  match old with
  | some _ => .error (.repeated option)
  | none => new.map some

/-- A path, which may not be empty. -/
def pathValue (option : OptionName) (path : FilePath) : Except UsageError FilePath :=
  if path.bytes.isEmpty then .error (.valueRequired option) else .ok path

def intervalValue (value : String) : Except UsageError Duration :=
  match Duration.readSeconds value with
  | .ok d => .ok d
  | .error cause => .error (.invalidInterval value cause)

namespace Given

def takeSnapshotDir (g : Given) (path : FilePath) : Except UsageError Given := do
  let dir ← once .snapshotDir g.options.snapshotDir (pathValue .snapshotDir path)
  return { g with options := { g.options with snapshotDir := dir } }

def take (g : Given) (name : OptionName) (value : String) : Except UsageError Given := do
  let o := g.options
  match name with
  | .cgroup => return { g with options := { o with patterns := o.patterns ++ [value] } }
  | .interval =>
    let interval ← once .interval o.interval (intervalValue value)
    return { g with options := { o with interval := interval } }
  | .snapshotDir => g.takeSnapshotDir (.ofString value)
  | .config =>
    let path ← once .config g.config (pathValue .config (.ofString value))
    return { g with config := path }
  | .json | .includeDying | .help | .version => return g

def flag (g : Given) (name : OptionName) : Except Stop Given :=
  let o := g.options
  match name with
  | .json =>
    if o.json then .error (.usage (.repeated .json))
    else .ok { g with options := { o with json := true } }
  | .includeDying =>
    if o.includeDying then .error (.usage (.repeated .includeDying))
    else .ok { g with options := { o with includeDying := true } }
  | .help | .version => .error .information
  | .cgroup | .interval | .snapshotDir | .config => .ok g

def settle (g : Given) : Option Pending → Except UsageError Given
  | none => .ok g
  | some (.device name) => .ok { g with device := some name }
  | some (.option name none) => .error (.valueRequired name)
  | some (.option name (some value)) => g.take name value

end Given

namespace Reading

/-- What has been given, with all that was pending. -/
def settled (r : Reading) : Except Stop Given := (r.given.settle r.pending).mapError .usage

/-- Goes on with an option that has a value, which may be attached. -/
def attach (r : Reading) (name : OptionName) (value : Option String) : Except Stop Reading := do
  let given ← r.settled
  match value with
  | some value =>
    let given ← (given.take name value).mapError .usage
    return { r with given := given, pending := none }
  | none => return { r with given := given, pending := some (.option name none) }

def flag (r : Reading) (name : OptionName) : Except Stop Reading := do
  let given ← r.settled
  return { r with given := ← given.flag name, pending := none }

def long (r : Reading) (name : String) (value : Option String) : Except Stop Reading :=
  match OptionName.ofLong? name with
  | none => .error (.usage (.unexpectedArgument ("--" ++ name)))
  | some option =>
    if option.takesValue then r.attach option value
    else
      match value with
      | some value => .error (.usage (.unneededValue value option))
      | none => r.flag option

/-- Options by their letters. The rest behind one that has a value is the value. -/
def letters (r : Reading) : List Char → Except Stop Reading
  | [] => .ok r
  | c :: cs =>
    match OptionName.ofLetter? c with
    | none => .error (.usage (.unexpectedArgument (String.ofList ['-', c])))
    | some option =>
      if option.takesValue then
        r.attach option
          (match cs with
            | [] => none
            | '=' :: value => some (String.ofList value)
            | value => some (String.ofList value))
      else
        (r.flag option).bind fun r => r.letters cs

/-- An argument that is no option: the value of the one before it, or the name of the device. -/
def plain (r : Reading) (argument : String) : Except Stop Reading :=
  match r.namesOnly, r.pending with
  | false, some (.option name none) =>
    .ok { r with pending := some (.option name (some argument)) }
  | _, _ =>
    if r.named then .error (.usage (.unexpectedArgument argument))
    else
      r.settled.map fun given =>
        { r with given := given, pending := some (.device argument), named := true }

def step (r : Reading) (argument : String) : Except Stop Reading :=
  if r.namesOnly then r.plain argument
  else
    match argument.toList with
    | ['-', '-'] => .ok { r with namesOnly := true }
    | '-' :: '-' :: cs =>
      let name := String.ofList (cs.takeWhile (· != '='))
      match cs.dropWhile (· != '=') with
      | _ :: value => r.long name (some (String.ofList value))
      | [] => r.long name none
    | '-' :: c :: cs => r.letters (c :: cs)
    | _ => r.plain argument

end Reading

/-- Reads the arguments. The environment may name a directory of a snapshot for when the command
line does not. -/
def read (arguments : List String) (environmentDir : Option FilePath) : Except Stop Request := do
  let reading ← arguments.foldlM Reading.step {}
  let given ← reading.settled
  let given ←
    match given.options.snapshotDir, environmentDir with
    | none, some path => (given.takeSnapshotDir path).mapError .usage
    | _, _ => pure given
  match given.device with
  | some device => return { device := device, config := given.config, options := given.options }
  | none => throw (.usage .deviceMissing)

end Command

end Iocost
