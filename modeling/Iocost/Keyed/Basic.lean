import Iocost.Failure
import Iocost.Text.Blank
import Iocost.Text.Integer

/-!
Flat keyed texts: one key and its value on a line, a blank between them. Lines without a blank say
nothing, and of several lines with the same key the last one counts.
-/

namespace Iocost

/-- The definitions in a flat keyed text, the last one first, with the path to be named in
failures. -/
structure KeyedText where
  path : String
  definitions : List (String × String)
deriving DecidableEq

namespace KeyedText

/-- The key before the first blank of a line, and the trimmed text behind that blank. -/
def definition? (line : List Char) : Option (String × String) :=
  match line.dropWhile (· != ' ') with
  | [] => none
  | _ :: value =>
    some (String.ofList (line.takeWhile (· != ' ')), String.ofList (Text.trim value))

/-- The definitions in a text that was read from `path`. -/
def parse (path content : String) : KeyedText :=
  ⟨path, ((Text.lines content.toList).filterMap definition?).reverse⟩

/-- The value of a key, from its last definition. -/
def lookup? (t : KeyedText) (key : String) : Option String := t.definitions.lookup key

def readValue {α : Type} (t : KeyedText) (read : List Char → Option α) (key value : String) :
    Except Failure α :=
  match read value.toList with
  | some a => .ok a
  | none => .error (.invalidValue t.path key value)

def optional {α : Type} (t : KeyedText) (read : List Char → Option α) (key : String) :
    Except Failure (Option α) :=
  match t.lookup? key with
  | some value => (t.readValue read key value).map some
  | none => .ok none

def required (t : KeyedText) (key : String) : Except Failure String :=
  match t.lookup? key with
  | some value => .ok value
  | none => .error (.missingKey t.path key)

def get {α : Type} (t : KeyedText) (read : List Char → Option α) (key : String) :
    Except Failure α :=
  (t.required key).bind (t.readValue read key)

def counter (t : KeyedText) (key : String) : Except Failure UInt64 := t.get Text.readUnsigned? key

def signedCounter (t : KeyedText) (key : String) : Except Failure Int64 :=
  t.get Text.readSigned? key

/-- A flag: an integer, which is set unless it is zero. -/
def flag (t : KeyedText) (key : String) : Except Failure Bool :=
  (t.signedCounter key).map fun i => i != 0

/-- The words in the value of a key that must be there, each read as a value. -/
def list {α : Type} (t : KeyedText) (read : List Char → Option α) (key : String) :
    Except Failure (List α) :=
  (t.required key).bind fun value =>
    (Text.words value.toList).mapM fun word => t.readValue read key (String.ofList word)

end KeyedText

end Iocost
