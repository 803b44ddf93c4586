import Iocost.Failure
import Iocost.Files.Node
import Iocost.Files.Path

/-!
Trees of files, and the way from a path to a file. A path is followed step by step from a directory.
Links lead on from the directory they are in, and a path may follow no more than
`FileTree.linkLimit` of them. The text of a path may have no more than `FileTree.pathLimit` bytes.

Following a path in two parts is following the first part and then the second one
(`FileTree.follow_append`), so what is below a directory is reached from its path and the names
below it, and a directory in a directory is smaller (`FileTree.extent_child_lt`).
-/

namespace Iocost

/-- A tree of files, with the directory from which relative paths lead on. -/
structure FileTree where
  top : FileNode := .directory []
  home : Location := []

namespace FileTree

def linkLimit : Nat := 40

def pathLimit : Nat := 4095

/-- Where the steps of a text begin that is met in the directory `loc`. -/
def origin (bytes : List UInt8) (loc : Location) : Location :=
  if bytes.head? = some 47 then [] else loc

/-- Follows steps from a location, with the number of links that may still be followed before and
after. -/
def follow (t : FileTree) (links : Nat) (loc : Location) (steps : List PathStep) :
    Except FileError (Location × Nat) :=
  match steps with
  | [] => .ok (loc, links)
  | step :: steps =>
    match t.top.node? loc with
    | some (.directory entries) =>
      match step with
      | .here => t.follow links loc steps
      | .up => t.follow links loc.dropLast steps
      | .name name =>
        match entries.lookup name with
        | none => .error .notFound
        | some (.link target) =>
          match links with
          | 0 => .error .tooManyLinks
          | links + 1 => t.follow links (origin target loc) (PathStep.ofBytes target ++ steps)
        | some _ => t.follow links (loc ++ [name]) steps
      | .nowhere _ => .error .nameTooLong
    | _ => .error .notADirectory
termination_by (links, steps.length)

theorem follow_nil {t : FileTree} {links : Nat} {loc : Location} :
    t.follow links loc [] = .ok (loc, links) := by
  rw [follow]

/-- Following two lists of steps is following one and then the other. -/
theorem follow_append {t : FileTree} {links : Nat} {loc : Location} {a b : List PathStep} :
    t.follow links loc (a ++ b) =
      (t.follow links loc a).bind fun reached => t.follow reached.2 reached.1 b := by
  fun_induction follow t links loc a with
  | case1 => rfl
  | case2 links loc steps entries h ih => rw [List.cons_append, follow, h]; exact ih
  | case3 links loc steps entries h ih => rw [List.cons_append, follow, h]; exact ih
  | case4 links loc steps entries h name hn =>
    rw [List.cons_append, follow, h]
    simp only [hn]
    rfl
  | case5 loc steps entries h name target hn =>
    rw [List.cons_append, follow, h]
    simp only [hn]
    rfl
  | case6 loc steps entries h name target hn links ih =>
    rw [List.cons_append, follow, h]
    simp only [hn]
    rw [← ih, List.append_assoc]
  | case7 links loc steps entries h name node hlink hn ih =>
    rw [List.cons_append, follow, h]
    cases node with
    | link target => exact absurd rfl (hlink target)
    | _ => simp only [hn]; exact ih
  | case8 links loc steps entries h bytes => rw [List.cons_append, follow, h]; rfl
  | case9 links loc step steps h =>
    rw [List.cons_append, follow]
    split
    case h_1 entries hdir => exact absurd hdir (h entries)
    case h_2 => rfl

/-- A name of a directory leads from it without following a link. -/
theorem follow_directory {t : FileTree} {links : Nat} {loc : Location} {name : FileName}
    {entries inside : List (FileName × FileNode)}
    (h : t.top.node? loc = some (.directory entries))
    (hname : entries.lookup name = some (.directory inside)) :
    t.follow links loc [.name name] = .ok (loc ++ [name], links) := by
  rw [follow, h]
  simp only [hname]
  exact follow_nil

def locate (t : FileTree) (p : FilePath) : Except FileError Location :=
  if p.base.contains 0 then .error .zeroByteInPath
  else if p.base.isEmpty && p.below.isEmpty then .error .notFound
  else if pathLimit < p.bytes.length then .error .nameTooLong
  else (t.follow linkLimit (origin p.base t.home) p.steps).map Prod.fst

def nodeAt (t : FileTree) (p : FilePath) : Except FileError FileNode :=
  (t.locate p).bind fun loc =>
    match t.top.node? loc with
    | some node => .ok node
    | none => .error .notFound

def readBytes (t : FileTree) (p : FilePath) : Except FileError (List UInt8) :=
  (t.nodeAt p).bind fun
    | .file _ content => .ok content
    | .directory _ => .error .isADirectory
    | .link _ => .error .tooManyLinks

/-- The text of a file, which has to be UTF-8. -/
def readText (t : FileTree) (p : FilePath) : Except FileError String :=
  (t.readBytes p).bind fun bytes =>
    match Text.decode? bytes with
    | some text => .ok text
    | none => .error .notUtf8

/-- The number of a regular file, `none` for a directory. -/
def inode? (t : FileTree) (p : FilePath) : Except FileError (Option UInt64) :=
  (t.nodeAt p).map fun
    | .file inode _ => some inode
    | _ => none

/-- The directories in a directory, by increasing names. Links are not among them. -/
def subdirectories (t : FileTree) (p : FilePath) : Except FileError (List FileName) :=
  (t.nodeAt p).bind fun
    | .directory entries => .ok (FileNode.directoryNames entries)
    | _ => .error .notADirectory

/-- How much there is where a path leads. -/
noncomputable def extent (t : FileTree) (p : FilePath) : Nat :=
  match t.nodeAt p with
  | .ok node => sizeOf node
  | .error _ => 0

/-- The path of a directory in a directory leads there, unless it is too long. -/
theorem locate_child {t : FileTree} {p : FilePath} {loc : Location} {name : FileName}
    {entries inside : List (FileName × FileNode)} (h : t.locate p = .ok loc)
    (hdir : t.top.node? loc = some (.directory entries))
    (hname : entries.lookup name = some (.directory inside)) :
    t.locate (p.child name) =
      if pathLimit < (p.child name).bytes.length then .error .nameTooLong
      else .ok (loc ++ [name]) := by
  unfold locate at h ⊢
  split at h
  case isTrue => cases h
  case isFalse hzero =>
    split at h
    case isTrue => cases h
    case isFalse =>
      split at h
      case isTrue => cases h
      case isFalse =>
        obtain ⟨⟨reached, links⟩, hfollow, rfl⟩ : ∃ r,
            t.follow linkLimit (origin p.base t.home) p.steps = .ok r ∧ r.1 = loc := by
          revert h
          cases t.follow linkLimit (origin p.base t.home) p.steps with
          | error e => intro h; cases h
          | ok r => intro h; exact ⟨r, rfl, Except.ok.inj h⟩
        rw [if_neg (by exact hzero), if_neg (by simp [FilePath.child])]
        rw [FilePath.steps_child, follow_append]
        simp only [FilePath.child]
        rw [hfollow]
        simp only [Except.bind]
        rw [follow_directory hdir hname]
        rfl

/-- A directory in a directory is smaller. -/
theorem extent_child_lt {t : FileTree} {p : FilePath} {names : List FileName} {name : FileName}
    (h : t.subdirectories p = .ok names) (hname : name ∈ names) :
    t.extent (p.child name) < t.extent p := by
  revert h
  unfold subdirectories extent nodeAt
  cases hloc : t.locate p with
  | error e => intro h; cases h
  | ok loc =>
    simp only [Except.bind]
    cases hnode : t.top.node? loc with
    | none => intro h; cases h
    | some node =>
      cases node with
      | file => intro h; cases h
      | link => intro h; cases h
      | directory entries =>
        intro h
        obtain rfl := Except.ok.inj h
        obtain ⟨inside, hlookup⟩ := FileNode.lookup_of_mem_directoryNames hname
        rw [locate_child hloc hnode hlookup]
        by_cases hlong : pathLimit < (p.child name).bytes.length
        · simp only [hlong, ↓reduceIte, FileNode.directory.sizeOf_spec]
          omega
        · simp only [hlong, ↓reduceIte, FileNode.node?_append, hnode, Option.bind_some,
            FileNode.node?, hlookup]
          exact FileNode.sizeOf_lt_of_lookup hlookup

end FileTree

end Iocost
