import Iocost.Files.Name

/-!
Files, directories and symbolic links, and the places inside directories.
-/

namespace Iocost

/-- What a name in a directory stands for. -/
inductive FileNode where
  /-- A regular file, with the number that tells it from others. -/
  | file (inode : UInt64) (content : List UInt8)
  /-- A directory; of several entries with one name the first counts. -/
  | directory (entries : List (FileName × FileNode))
  | link (target : List UInt8)
deriving Inhabited

/-- A place in a tree: the names that lead there from the top, without links. -/
abbrev Location := List FileName

namespace FileNode

def node? : FileNode → Location → Option FileNode
  | node, [] => some node
  | directory entries, name :: names => (entries.lookup name).bind fun node => node.node? names
  | _, _ :: _ => none

/-- Replaces the entry of a name, which `none` removes. -/
def setEntry (entries : List (FileName × FileNode)) (name : FileName) (node : Option FileNode) :
    List (FileName × FileNode) :=
  let others := entries.filter fun entry => entry.1 ≠ name
  match node with
  | some node => others ++ [(name, node)]
  | none => others

def alter (f : Option FileNode → Option FileNode) : Option FileNode → Location → Option FileNode
  | node, [] => f node
  | some (directory entries), name :: names =>
    some (directory (setEntry entries name (alter f (entries.lookup name) names)))
  | node, _ :: _ => node

/-- The directories among entries, by increasing names. -/
def directoryNames (entries : List (FileName × FileNode)) : List FileName :=
  FileName.sorted <| (entries.map Prod.fst).filter fun name =>
    match entries.lookup name with
    | some (directory _) => true
    | _ => false

theorem sizeOf_lt_of_lookup {entries : List (FileName × FileNode)} {name : FileName}
    {node : FileNode} (h : entries.lookup name = some node) :
    sizeOf node < sizeOf (directory entries) := by
  suffices sizeOf node < sizeOf entries by
    simp only [directory.sizeOf_spec]
    omega
  induction entries with
  | nil => simp at h
  | cons entry entries ih =>
    obtain ⟨key, value⟩ := entry
    rw [List.lookup_cons] at h
    simp only [List.cons.sizeOf_spec, Prod.mk.sizeOf_spec]
    split at h
    · obtain rfl := Option.some.inj h
      omega
    · have := ih h
      omega

theorem node?_append {node : FileNode} {a b : Location} :
    node.node? (a ++ b) = (node.node? a).bind fun node => node.node? b := by
  induction a generalizing node with
  | nil => rfl
  | cons name names ih =>
    cases node with
    | directory entries =>
      simp only [List.cons_append, node?, Option.bind_assoc]
      cases entries.lookup name with
      | none => rfl
      | some node => exact ih
    | _ => rfl

theorem lookup_of_mem_directoryNames {entries : List (FileName × FileNode)} {name : FileName}
    (h : name ∈ directoryNames entries) :
    ∃ inside, entries.lookup name = some (directory inside) := by
  rw [directoryNames, FileName.mem_sorted, List.mem_filter] at h
  revert h
  cases entries.lookup name with
  | none => simp
  | some node => cases node <;> simp

end FileNode

end Iocost
