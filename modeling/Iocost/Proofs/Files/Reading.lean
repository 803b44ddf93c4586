import Iocost.Proofs.Files.Directories
import Iocost.Proofs.Files.Kinds

/-!
# Reading what is in a tree of files

Below a path that leads to a location, what the locations below lead to is what is read at the paths
below, as far as these fit.
-/

namespace Iocost.FileTree

variable {t : FileTree} {p : FilePath} {loc : Location} {names : List FileName} {name : FileName}

section

variable {inode : UInt64} {content : List UInt8} (h : t.nodeAt p = .ok (.file inode content))

include h

theorem inode?_of_nodeAt : t.inode? p = .ok (some inode) := by
  rw [inode?, h]
  rfl

theorem readText_of_nodeAt :
    t.readText p = (Text.decode? content).elim (.error .notUtf8) .ok := by
  rw [readText, readBytes, h]
  simp only [Except.bind]
  cases Text.decode? content <;> rfl

theorem readText_of_nodeAt_encode {text : String} (htext : content = Text.encode text) :
    t.readText p = .ok text := by
  rw [readText_of_nodeAt h, htext, Text.decode?_encode, Option.elim_some]

end

theorem locate_descend_of_kind? (hroot : t.locate p = .ok loc) {kind : FileNode.Kind}
    (hkind : t.kind? (loc ++ names) = some kind) (hlink : ∀ target, kind ≠ .link target)
    (hlength : (p.descend names).bytes.length ≤ pathLimit) :
    t.locate (p.descend names) = .ok (loc ++ names) := by
  obtain ⟨found, hfound, rfl⟩ := Option.map_eq_some_iff.mp hkind
  rw [FileNode.node?_append] at hfound
  obtain ⟨top, htop, hnames⟩ := Option.bind_eq_some_iff.mp hfound
  refine locate_descend hroot htop hnames (fun target htarget => hlink target ?_) hlength
  rw [htarget]
  rfl

section

variable {inode : UInt64} {content : List UInt8} (hroot : t.locate p = .ok loc)
  (hkind : t.kind? (loc ++ names) = some (.file inode content))
  (hlength : (p.descend names).bytes.length ≤ pathLimit)

include hroot hkind hlength

theorem nodeAt_of_kind?_file : t.nodeAt (p.descend names) = .ok (.file inode content) := by
  have hlocate := locate_descend_of_kind? hroot hkind nofun hlength
  obtain ⟨node, hnode, hfile⟩ := Option.map_eq_some_iff.mp hkind
  cases node with
  | directory => cases hfile
  | link => cases hfile
  | file =>
    cases hfile
    exact nodeAt_of_locate hlocate hnode

theorem inode?_of_kind?_file : t.inode? (p.descend names) = .ok (some inode) :=
  inode?_of_nodeAt (nodeAt_of_kind?_file hroot hkind hlength)

theorem readText_of_kind?_file {text : String} (htext : content = Text.encode text) :
    t.readText (p.descend names) = .ok text :=
  readText_of_nodeAt_encode (nodeAt_of_kind?_file hroot hkind hlength) htext

end

theorem mem_directoryNames_iff_kind? {entries : List (FileName × FileNode)}
    (hentries : t.top.node? loc = some (.directory entries)) :
    name ∈ FileNode.directoryNames entries ↔ t.kind? (loc ++ [name]) = some .directory := by
  rw [FileNode.mem_directoryNames, kind?_concat hentries, Option.map_eq_some_iff]
  constructor
  · rintro ⟨inside, hinside⟩
    exact ⟨_, hinside, rfl⟩
  · rintro ⟨inside, hinside, hkind⟩
    obtain ⟨found, rfl⟩ := FileNode.eq_directory_of_kind hkind
    exact ⟨found, hinside⟩

section

variable (hroot : t.locate p = .ok loc) (hdir : t.kind? (loc ++ names) = some .directory)

include hroot hdir

theorem nodeAt_child_of_kind?_none (hnone : t.kind? (loc ++ (names ++ [name])) = none)
    (hlength : ((p.descend names).child name).bytes.length ≤ pathLimit) :
    t.nodeAt ((p.descend names).child name) = .error .notFound := by
  have hlocate := locate_descend_of_kind? hroot hdir nofun
    (Nat.le_trans (FilePath.length_bytes_le_child _ name) hlength)
  obtain ⟨links, hchild⟩ : ∃ links, t.locate ((p.descend names).child name) =
      (t.follow links (loc ++ names) [.name name]).map Prod.fst := locate_descend_eq hlocate hlength
  obtain ⟨entries, hat⟩ := node?_of_kind?_directory hdir
  have hlookup : entries.lookup name = none := by
    rwa [← List.append_assoc, kind?_concat hat, Option.map_eq_none_iff] at hnone
  rw [nodeAt, hchild, follow, hat]
  simp only [hlookup]
  rfl

theorem readText_child_of_kind?_none (hnone : t.kind? (loc ++ (names ++ [name])) = none)
    (hlength : ((p.descend names).child name).bytes.length ≤ pathLimit) :
    t.readText ((p.descend names).child name) = .error .notFound := by
  rw [readText, readBytes, nodeAt_child_of_kind?_none hroot hdir hnone hlength]
  rfl

theorem inode?_child_of_kind?_none (hnone : t.kind? (loc ++ (names ++ [name])) = none)
    (hlength : ((p.descend names).child name).bytes.length ≤ pathLimit) :
    t.inode? ((p.descend names).child name) = .error .notFound := by
  rw [inode?, nodeAt_child_of_kind?_none hroot hdir hnone hlength]
  rfl

/-- The directories in a directory. -/
theorem exists_subdirectories (hlength : (p.descend names).bytes.length ≤ pathLimit) :
    ∃ below, t.subdirectories (p.descend names) = .ok below ∧ below.Pairwise FileName.Before ∧
      ∀ name, name ∈ below ↔ t.kind? (loc ++ (names ++ [name])) = some .directory := by
  have hlocate := locate_descend_of_kind? hroot hdir nofun hlength
  obtain ⟨entries, hat⟩ := node?_of_kind?_directory hdir
  refine ⟨FileNode.directoryNames entries, ?_, FileNode.pairwise_directoryNames entries,
    fun name => ?_⟩
  · rw [subdirectories, nodeAt_of_locate hlocate hat]
    rfl
  · rw [← List.append_assoc]
    exact mem_directoryNames_iff_kind? hat

end

end Iocost.FileTree
