import Iocost.Files.Name
import Iocost.Text.Pieces
import Iocost.Text.Utf8

/-!
Paths as they are written. A path is the text it was given as, with names below it. It says two
things: the steps that lead to a file, and the parts it is compared by, in which repeated slashes,
dots inside and a slash at the end leave no trace.
-/

namespace Iocost

/-- A step from a directory. -/
inductive PathStep where
  /-- To the directory itself. -/
  | here
  /-- To the directory above. -/
  | up
  | name (name : FileName)
  /-- To where no file can be: the bytes are too many for a name, or there is a zero among them. -/
  | nowhere (bytes : List UInt8)
deriving DecidableEq

namespace PathStep

/-- The step of a piece of a path between slashes; an empty piece is none. -/
def ofPiece? (piece : List UInt8) : Option PathStep :=
  if piece = [] then none
  else if piece = [46] then some here
  else if piece = [46, 46] then some up
  else
    match FileName.ofBytes? piece with
    | some n => some (name n)
    | none => some (nowhere piece)

/-- The steps that a text writes. A slash at the end asks for a directory. -/
def ofBytes (bytes : List UInt8) : List PathStep :=
  (Text.pieces (· == 47) bytes).filterMap ofPiece? ++
    if bytes.getLast? = some 47 then [here] else []

end PathStep

/-- A path: the text that was given, and names below it. -/
structure FilePath where
  base : List UInt8
  below : List FileName := []
deriving DecidableEq

namespace FilePath

def ofString (s : String) : FilePath := { base := Text.encode s }

def child (p : FilePath) (name : FileName) : FilePath := { p with below := p.below ++ [name] }

/-- A path with a text behind it, with a slash between them unless one is there or nothing is
before it. -/
def join (path rest : List UInt8) : List UInt8 :=
  if path.isEmpty || path.getLast? == some 47 then path ++ rest else path ++ 47 :: rest

def bytes (p : FilePath) : List UInt8 :=
  p.below.foldl (fun path name => join path name.bytes) p.base

/-- The path as it is shown. -/
def shown (p : FilePath) : String := Text.decodeLossy p.bytes

def isAbsolute (p : FilePath) : Bool := p.base.head? == some 47

def steps (p : FilePath) : List PathStep := PathStep.ofBytes p.base ++ p.below.map .name

/-- The parts that a path is compared by. A dot counts at the start only. -/
def parts (p : FilePath) : List PathStep :=
  let written := PathStep.ofBytes p.base
  let kept := written.filter (· != .here)
  (if !p.isAbsolute && written.head? == some .here then .here :: kept else kept) ++
    p.below.map .name

/-- The paths are written in the same way, but for slashes and dots without meaning. -/
def isSame (p q : FilePath) : Bool := p.isAbsolute == q.isAbsolute && p.parts == q.parts

/-- The last part of a path, unless it stands for a directory relative to another one. -/
def lastPart? (p : FilePath) : Option (List UInt8) :=
  match p.parts.getLast? with
  | some (.name name) => some name.bytes
  | some (.nowhere bytes) => some bytes
  | _ => none

theorem steps_child (p : FilePath) (name : FileName) :
    (p.child name).steps = p.steps ++ [.name name] := by
  simp [steps, child]

end FilePath

end Iocost
