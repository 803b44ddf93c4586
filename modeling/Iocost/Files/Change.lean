import Iocost.Files.Tree

/-!
Changes of trees of files: putting and removing files, directories and links.
-/

namespace Iocost.FileTree

/-- Makes the directories that steps ask for and that are missing, and says where the steps lead. -/
def makeDirectories (t : FileTree) (links : Nat) (loc : Location) (steps : List PathStep) :
    Except FileError (FileTree × Location) :=
  match steps with
  | [] => .ok (t, loc)
  | step :: steps =>
    match t.top.node? loc with
    | some (.directory entries) =>
      match step with
      | .here => t.makeDirectories links loc steps
      | .up => t.makeDirectories links loc.dropLast steps
      | .name name =>
        match entries.lookup name with
        | none =>
          let made := FileNode.alter (fun _ => some (.directory [])) t.top (loc ++ [name])
          { t with top := made.getD t.top }.makeDirectories links (loc ++ [name]) steps
        | some (.link target) =>
          match links with
          | 0 => .error .tooManyLinks
          | links + 1 =>
            t.makeDirectories links (origin target loc) (PathStep.ofBytes target ++ steps)
        | some _ => t.makeDirectories links (loc ++ [name]) steps
      | .nowhere _ => .error .nameTooLong
    | _ => .error .notADirectory
termination_by (links, steps.length)

def alter (t : FileTree) (loc : Location) (f : Option FileNode → Option FileNode) : FileTree :=
  { t with top := (FileNode.alter f t.top loc).getD t.top }

/-- Makes a directory and those above it, as far as they are missing. -/
def putDirectory (t : FileTree) (path : List UInt8) : Except FileError FileTree :=
  (t.makeDirectories linkLimit (origin path t.home) (PathStep.ofBytes path)).map Prod.fst

/-- Where a file with a name in a directory is put: there, or where the link there leads. -/
def placeOfFile (t : FileTree) : (links : Nat) → Location → FileName → Except FileError Location
  | links, dir, name =>
    match t.top.node? (dir ++ [name]) with
    | some (.link target) =>
      match links with
      | 0 => .error .tooManyLinks
      | links + 1 =>
        let steps := PathStep.ofBytes target
        match steps.getLast? with
        | some (.name last) => do
          let (dir, _) ← t.follow links (origin target dir) steps.dropLast
          t.placeOfFile links dir last
        | _ => .error .isADirectory
    | _ => .ok (dir ++ [name])

/-- Makes the directories above a path that are missing. The result has the directory of the path,
and its name there. -/
def putParent (t : FileTree) (path : List UInt8) :
    Except FileError (FileTree × Location × FileName) :=
  let steps := PathStep.ofBytes path
  match steps.getLast? with
  | some (.name name) =>
    (t.makeDirectories linkLimit (origin path t.home) steps.dropLast).map fun (t, dir) =>
      (t, dir, name)
  | some (.nowhere _) => .error .nameTooLong
  | _ => .error .isADirectory

/-- Writes a file, which keeps its number if it is there already and gets `inode` otherwise. -/
def writeFile (t : FileTree) (path : List UInt8) (inode : UInt64) (content : List UInt8) :
    Except FileError FileTree := do
  let (t, dir, name) ← t.putParent path
  let loc ← t.placeOfFile linkLimit dir name
  match t.top.node? loc with
  | some (.directory _) => .error .isADirectory
  | some (.file old _) => return t.alter loc fun _ => some (.file old content)
  | _ => return t.alter loc fun _ => some (.file inode content)

/-- Makes a symbolic link, where nothing may be yet. -/
def putLink (t : FileTree) (path target : List UInt8) : Except FileError FileTree := do
  let (t, dir, name) ← t.putParent path
  match t.top.node? (dir ++ [name]) with
  | some _ => .error .alreadyExists
  | none => return t.alter (dir ++ [name]) fun _ => some (.link target)

/-- Removes a file, a link or a directory with all that is in it. A slash at the end of the path
changes nothing. -/
def remove (t : FileTree) (path : List UInt8) : Except FileError FileTree :=
  let steps := (PathStep.ofBytes path).reverse.dropWhile (· == .here)
  match steps with
  | .name name :: above => do
    let (dir, _) ← t.follow linkLimit (origin path t.home) above.reverse
    return t.alter (dir ++ [name]) fun _ => none
  | _ => .error .isADirectory

end Iocost.FileTree
