import Iocost.Proofs.Files.Reading
import Iocost.Proofs.Files.Writing

/-!
# Trees that differ at a file

Where two trees differ at one file only, which may be missing in the second one, the same paths lead
to directories (`DiffersAtFile.leadsTo`), these have the same directories in them
(`DiffersAtFile.subdirectories_eq`), and other files are read alike
(`DiffersAtFile.map_kind_nodeAt_child`). Writing and removing a file are such changes.
-/

namespace Iocost

/-- What keeps a path from being followed, whatever there is. -/
def FilePath.check (p : FilePath) : Except FileError Unit :=
  if p.base.contains 0 then .error .zeroByteInPath
  else if p.base.isEmpty && p.below.isEmpty then .error .notFound
  else if FileTree.pathLimit < p.bytes.length then .error .nameTooLong
  else .ok ()

namespace FileTree

variable {t t' : FileTree} {p : FilePath} {loc place : Location} {name : FileName}

theorem locate_eq_check (t : FileTree) (p : FilePath) :
    t.locate p = p.check.bind fun _ =>
      (t.follow linkLimit (origin p.base t.home) p.steps).map Prod.fst := by
  unfold locate FilePath.check
  split_ifs <;> rfl

theorem LeadsTo.locate_eq (h : t.LeadsTo p loc) : t.locate p = p.check.map fun _ => loc := by
  obtain ⟨links, hfollow⟩ := h
  rw [locate_eq_check, hfollow]
  rfl

/-! ## What is read depends on what is there -/

theorem map_kind_nodeAt_child (hleads : t.LeadsTo p loc) (hdir : t.kind? loc = some .directory)
    (hlink : ∀ target, t.kind? (loc ++ [name]) ≠ some (.link target)) :
    (t.nodeAt (p.child name)).map FileNode.kind = (p.child name).check.bind fun _ =>
      (t.kind? (loc ++ [name])).elim (.error .notFound) .ok := by
  obtain ⟨entries, hentries⟩ := node?_of_kind?_directory hdir
  cases hkind : t.kind? (loc ++ [name]) with
  | some kind =>
    have hchild : t.LeadsTo (p.child name) (loc ++ [name]) :=
      hleads.descend_of_kind? hkind fun target htarget => hlink target (htarget ▸ hkind)
    obtain ⟨node, hnode, rfl⟩ := Option.map_eq_some_iff.mp hkind
    rw [nodeAt, hchild.locate_eq]
    cases (p.child name).check with
    | error e => rfl
    | ok _ => simp only [Except.map, Except.bind, hnode, Option.elim_some]
  | none =>
    obtain ⟨links, hfollow⟩ := hleads
    have hlookup : entries.lookup name = none := by
      rwa [kind?_concat hentries, Option.map_eq_none_iff] at hkind
    have hbase : (p.child name).base = p.base := rfl
    have hchild : t.follow linkLimit (origin (p.child name).base t.home) (p.child name).steps =
        .error .notFound := by
      rw [FilePath.steps_child, follow_append, hbase, hfollow]
      simp only [Except.bind]
      rw [follow, hentries]
      simp only [hlookup]
    rw [nodeAt, locate_eq_check, hchild]
    cases (p.child name).check <;> rfl

/-- What is nowhere cannot be read. -/
theorem readText_child_ne_ok (hleads : t.LeadsTo p loc) (hdir : t.kind? loc = some .directory)
    (hnone : t.kind? (loc ++ [name]) = none) (content : String) :
    t.readText (p.child name) ≠ .ok content := by
  intro hread
  obtain ⟨bytes, hbytes, -⟩ := Except.exists_of_bind_eq_ok hread
  obtain ⟨node, hnode, -⟩ := Except.exists_of_bind_eq_ok hbytes
  have hkind := map_kind_nodeAt_child hleads hdir fun target htarget => by
    rw [hnone] at htarget
    cases htarget
  rw [hnode, hnone] at hkind
  obtain ⟨_, -, hmissing⟩ := Except.exists_of_bind_eq_ok hkind.symm
  cases hmissing

theorem readText_congr (h : (t'.nodeAt p).map FileNode.kind = (t.nodeAt p).map FileNode.kind) :
    t'.readText p = t.readText p := by
  unfold readText readBytes
  cases hnode : t.nodeAt p <;> cases hnode' : t'.nodeAt p <;> rw [hnode, hnode'] at h
  case error.error => rw [Except.error.inj h]
  case ok.ok node node' => cases node <;> cases node' <;> cases h <;> rfl
  all_goals cases h

theorem inode?_congr (h : (t'.nodeAt p).map FileNode.kind = (t.nodeAt p).map FileNode.kind) :
    t'.inode? p = t.inode? p := by
  unfold inode?
  cases hnode : t.nodeAt p <;> cases hnode' : t'.nodeAt p <;> rw [hnode, hnode'] at h
  case error.error => rw [Except.error.inj h]
  case ok.ok node node' => cases node <;> cases node' <;> cases h <;> rfl
  all_goals cases h

theorem kind?_of_mem_subdirectories {below : List FileName} (hleads : t.LeadsTo p loc)
    (hsub : t.subdirectories p = .ok below) (hname : name ∈ below) :
    t.kind? (loc ++ [name]) = some .directory := by
  obtain ⟨node, hnode, hentries⟩ := Except.exists_of_bind_eq_ok hsub
  obtain ⟨loc', hloc', hat⟩ := nodeAt_eq_ok hnode
  rw [hleads.locate_eq] at hloc'
  obtain ⟨_, -, rfl⟩ := Except.exists_of_map_eq_ok hloc'
  cases node with
  | file => cases hentries
  | link => cases hentries
  | directory entries =>
    cases hentries
    exact (mem_directoryNames_iff_kind? hat).mp hname

theorem subdirectories_congr (hleads : t.LeadsTo p loc) (hleads' : t'.LeadsTo p loc)
    (hdir : t.kind? loc = some .directory) (hdir' : t'.kind? loc = some .directory)
    (hbelow : ∀ name, t'.kind? (loc ++ [name]) = some .directory ↔
      t.kind? (loc ++ [name]) = some .directory) :
    t'.subdirectories p = t.subdirectories p := by
  obtain ⟨entries, hentries⟩ := node?_of_kind?_directory hdir
  obtain ⟨entries', hentries'⟩ := node?_of_kind?_directory hdir'
  have hnames : FileNode.directoryNames entries' = FileNode.directoryNames entries := by
    refine (FileNode.pairwise_directoryNames entries').eq_of_mem_iff
      (FileNode.pairwise_directoryNames entries) fun name => ?_
    rw [mem_directoryNames_iff_kind? hentries', mem_directoryNames_iff_kind? hentries]
    exact hbelow name
  simp only [subdirectories, nodeAt, hleads.locate_eq, hleads'.locate_eq]
  cases p.check with
  | error e => rfl
  | ok _ => simp only [Except.map, Except.bind, hentries, hentries', hnames]

/-! ## A file that changes -/

/-- There is no link at or below a location. -/
def HasNoLinks (t : FileTree) (loc : Location) : Prop :=
  ∀ names target, t.kind? (loc ++ names) ≠ some (.link target)

/-- Nothing in it is a link. -/
inductive IsLinkFree : FileNode → Prop where
  | file (inode : UInt64) (content : List UInt8) : IsLinkFree (.file inode content)
  | directory {entries : List (FileName × FileNode)} (h : ∀ entry ∈ entries, IsLinkFree entry.2) :
    IsLinkFree (.directory entries)

theorem IsLinkFree.kind?_ne_link {node : FileNode} (h : IsLinkFree node) (names : Location)
    (target : List UInt8) : node.kind? names ≠ some (.link target) := by
  induction names generalizing node with
  | nil => cases h <;> nofun
  | cons name names ih =>
    cases h with
    | file => nofun
    | directory hentries =>
      intro hlink
      rw [FileNode.kind?_cons] at hlink
      obtain ⟨entry, hentry, hlink⟩ := Option.bind_eq_some_iff.mp hlink
      obtain ⟨before, after, hsplit, -⟩ := List.lookup_eq_some_iff.mp hentry
      have hmem : (name, entry) ∈ before ++ (name, entry) :: after :=
        List.mem_append_right before List.mem_cons_self
      exact ih (hentries _ (hsplit ▸ hmem)) hlink

theorem IsLinkFree.hasNoLinks (h : IsLinkFree t.top) : t.HasNoLinks [] := h.kind?_ne_link

/-- In the first tree there is a file at a place. In the second one there is another one at most,
and all else is the same. -/
structure DiffersAtFile (t t' : FileTree) (place : Location) : Prop where
  home : t'.home = t.home
  kind? {loc : Location} : loc ≠ place → t'.kind? loc = t.kind? loc
  old : ∃ inode content, t.kind? place = some (.file inode content)
  new {kind : FileNode.Kind} : t'.kind? place = some kind →
    ∃ inode content, kind = .file inode content

namespace DiffersAtFile

variable (hdiffers : t.DiffersAtFile t' place)

include hdiffers

theorem growsAt : t.GrowsAt t' (· ≠ place) where
  kind? hne hkind := (hdiffers.kind? hne).trans hkind
  dead h := by
    obtain rfl := not_not.mp h
    obtain ⟨inode, content, hkind⟩ := hdiffers.old
    exact ⟨hkind ▸ nofun, fun target => hkind ▸ nofun⟩

theorem ne_of_directory (hdir : t.kind? loc = some .directory) : loc ≠ place := by
  rintro rfl
  obtain ⟨inode, content, hkind⟩ := hdiffers.old
  rw [hkind] at hdir
  cases hdir

theorem directory_iff : t'.kind? loc = some .directory ↔ t.kind? loc = some .directory := by
  by_cases hne : loc = place
  · subst hne
    obtain ⟨inode, content, hkind⟩ := hdiffers.old
    rw [hkind]
    refine ⟨fun h => ?_, nofun⟩
    obtain ⟨_, _, hfile⟩ := hdiffers.new h
    cases hfile
  · rw [hdiffers.kind? hne]

theorem leadsTo (h : t.LeadsTo p loc) (hdir : t.kind? loc = some .directory) : t'.LeadsTo p loc :=
  hdiffers.growsAt.leadsTo hdiffers.home h (hdiffers.ne_of_directory hdir)

theorem subdirectories_eq (h : t.LeadsTo p loc) (hdir : t.kind? loc = some .directory) :
    t'.subdirectories p = t.subdirectories p :=
  subdirectories_congr h (hdiffers.leadsTo h hdir) hdir (hdiffers.directory_iff.mpr hdir)
    fun _ => hdiffers.directory_iff

theorem map_kind_nodeAt_child (h : t.LeadsTo p loc) (hdir : t.kind? loc = some .directory)
    (hlink : ∀ target, t.kind? (loc ++ [name]) ≠ some (.link target))
    (hne : loc ++ [name] ≠ place) :
    (t'.nodeAt (p.child name)).map FileNode.kind = (t.nodeAt (p.child name)).map FileNode.kind := by
  have hkind := hdiffers.kind? hne
  rw [FileTree.map_kind_nodeAt_child h hdir hlink,
    FileTree.map_kind_nodeAt_child (hdiffers.leadsTo h hdir) (hdiffers.directory_iff.mpr hdir)
      (hkind ▸ hlink), hkind]

end DiffersAtFile

/-- Changes of a file. -/
inductive FileChange where
  /-- The file gets another content; a new file would get the number. -/
  | write (inode : UInt64) (content : List UInt8)
  | remove

def FileChange.apply (t : FileTree) (path : List UInt8) : FileChange → Except FileError FileTree
  | .write inode content => t.writeFile path inode content
  | .remove => t.remove path

/-- A file is in a directory. -/
theorem kind?_directory_of_kind?_file {inode : UInt64} {content : List UInt8}
    (hplace : t.kind? (loc ++ [name]) = some (.file inode content)) :
    t.kind? loc = some .directory := by
  by_contra hdir
  rw [kind?_append_cons hdir] at hplace
  cases hplace

theorem exists_remove_differsAtFile {inode : UInt64} {content : List UInt8}
    (h : t.LeadsTo p loc) (hplace : t.kind? (loc ++ [name]) = some (.file inode content)) :
    ∃ t', t.remove (p.child name).bytes = .ok t' ∧ t.DiffersAtFile t' (loc ++ [name]) ∧
      t'.kind? (loc ++ [name]) = none := by
  have hdir := kind?_directory_of_kind?_file hplace
  have halter (l : Location) : (t.alter (loc ++ [name]) fun _ => none).kind? l =
      if l = loc ++ [name] then none else t.kind? l :=
    kind?_alter FileNode.isLeaf_none hdir (hplace ▸ nofun) l
  have hnone : (t.alter (loc ++ [name]) fun _ => none).kind? (loc ++ [name]) = none := by
    rw [halter, if_pos rfl]
  refine ⟨_, remove_child name h, ⟨rfl, fun hne => ?_, ⟨_, _, hplace⟩, fun hnew => ?_⟩, hnone⟩
  · rw [halter, if_neg hne]
  · rw [hnone] at hnew
    cases hnew

theorem exists_apply_differsAtFile (change : FileChange) {inode : UInt64} {content : List UInt8}
    (h : t.LeadsTo p loc) (hplace : t.kind? (loc ++ [name]) = some (.file inode content)) :
    ∃ t', change.apply t (p.child name).bytes = .ok t' ∧ t.DiffersAtFile t' (loc ++ [name]) := by
  cases change with
  | write inode' content' =>
    have hdir := kind?_directory_of_kind?_file hplace
    have halter (l : Location) := kind?_alter (FileNode.isLeaf_file inode content') hdir
      (hplace ▸ nofun : t.kind? (loc ++ [name]) ≠ some .directory) l
    refine ⟨_, writeFile_child_of_file inode' content' h hplace, rfl, fun hne => ?_,
      ⟨_, _, hplace⟩, fun hnew => ?_⟩
    · rw [halter, if_neg hne]
    · rw [halter, if_pos rfl] at hnew
      exact ⟨_, _, (Option.some.inj hnew).symm⟩
  | remove =>
    obtain ⟨t', hremove, hremoved, -⟩ := exists_remove_differsAtFile h hplace
    exact ⟨t', hremove, hremoved⟩

end FileTree

end Iocost
