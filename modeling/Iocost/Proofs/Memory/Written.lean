import Iocost.Proofs.Files.Differing
import Iocost.Proofs.Memory.Layout

/-!
# The tree that a hierarchy writes

Below an empty directory a hierarchy writes the directories of its members and their files, and
nothing else (`exists_writeTreeBy`), and this is what is read there.
-/

namespace Iocost.MemoryHierarchy

open TreeStep

variable {h : MemoryHierarchy} {root : FilePath} {inodeOf : FilePath → UInt64}

/-- All files that may be in the directories of members have paths that fit. -/
def Fits (h : MemoryHierarchy) (root : FilePath) : Prop :=
  ∀ names member, h.Leads names member → ∀ file : SnapshotFile,
    ((root.descend names).child file.name).bytes.length ≤ FileTree.pathLimit

theorem Fits.length_le (hfits : h.Fits root) {names : List FileName} {member : Nat}
    (hleads : h.Leads names member) : (root.descend names).bytes.length ≤ FileTree.pathLimit :=
  Nat.le_trans (FilePath.length_bytes_le_child _ _) (hfits names member hleads .online)

/-- The paths fit if there are few members. -/
theorem fits_of_length_le
    (hlength : root.bytes.length + (nameLimit + 1) * h.members.length ≤ FileTree.pathLimit) :
    h.Fits root := by
  intro names member hleads file
  obtain ⟨m, hm⟩ := hleads.exists_member
  have hmember : member < h.members.length := (List.getElem?_eq_some_iff.mp hm).1
  have hnames : (names ++ [file.name]).length ≤ h.members.length := by
    rw [List.length_append, List.length_singleton]
    exact Nat.lt_of_le_of_lt hleads.length_le hmember
  rw [← root.descend_concat]
  refine Nat.le_trans (root.length_bytes_descend_le _) (Nat.le_trans ?_ hlength)
  exact Nat.add_le_add_left (Nat.mul_le_mul_left _ hnames) _

/-- At a location, to which `root` leads, there is the snapshot of a hierarchy. -/
structure IsWrittenAt (h : MemoryHierarchy) (root : FilePath) (inodeOf : FilePath → UInt64)
    (t : FileTree) (loc : Location) : Prop where
  locate : t.locate root = .ok loc
  directory (names : List FileName) :
    t.kind? (loc ++ names) = some .directory ↔ ∃ member, h.Leads names member
  file {names : List FileName} {member : Nat} (file : SnapshotFile) : h.Leads names member →
    t.kind? (loc ++ (names ++ [file.name])) = (h.content? member file).map fun text =>
      .file (inodeOf ((root.descend names).child file.name)) (Text.encode text)

section

variable (inodeOf : FilePath → UInt64) (hw : h.IsWritable) {start : FileTree}
  (hempty : start.nodeAt root = .ok (.directory []))

include hw hempty

/-- A hierarchy can be written below an empty directory, and nothing else is made there. -/
theorem exists_made : ∃ t loc, h.writeTreeBy root inodeOf start = .ok t ∧ t.locate root = .ok loc ∧
    t.kind? loc = some .directory ∧ ∀ names kind, names ≠ [] →
      (t.kind? (loc ++ names) = some kind ↔ ∃ step ∈ h.treeSteps root,
        step.path = root.descend names ∧ step.kind inodeOf = kind) := by
  obtain ⟨loc, hlocate, hnode⟩ := FileTree.nodeAt_eq_ok hempty
  obtain ⟨hzero, hgiven, hlength, hleads⟩ := FileTree.locate_eq_ok hlocate
  obtain ⟨t, hfold, hmade⟩ : ∃ t, h.writeTreeBy root inodeOf start = .ok t ∧
      Made root inodeOf start loc (h.treeSteps root).reverse t :=
    exists_foldlM hleads hnode (grounded_treeSteps hw) (consistent_treeSteps hw)
  refine ⟨t, loc, hfold, FileTree.locate_of_leadsTo hzero hgiven hlength (hmade.leadsTo hleads),
    hmade.grows _ _ (FileTree.kind?_of_node? hnode), fun names kind hnames => ?_⟩
  rw [hmade.below names kind hnames]
  simp only [List.mem_reverse]

theorem exists_writeTreeBy :
    ∃ t loc, h.writeTreeBy root inodeOf start = .ok t ∧ h.IsWrittenAt root inodeOf t loc ∧
      t.HasNoLinks loc := by
  obtain ⟨t, loc, hwrite, hlocate, hdir, hbelow⟩ := exists_made inodeOf hw hempty
  refine ⟨t, loc, hwrite, ⟨hlocate, fun names => ?_, ?_⟩, fun names target hlink => ?_⟩
  · by_cases hnames : names = []
    · subst hnames
      rw [List.append_nil]
      exact ⟨fun _ => ⟨0, .root⟩, fun _ => hdir⟩
    · rw [hbelow names _ hnames]
      exact exists_directory_step_iff hw
  · intro names member file hleads'
    refine Option.ext fun kind => ?_
    rw [hbelow _ kind (List.concat_ne_nil file.name names), exists_file_step_iff hw hleads',
      Option.map_eq_some_iff]
    rfl
  · by_cases hnames : names = []
    · rw [hnames, List.append_nil, hdir] at hlink
      cases hlink
    · obtain ⟨step, -, -, hkind⟩ := (hbelow names _ hnames).mp hlink
      cases step <;> cases hkind

end

namespace IsWrittenAt

variable {t : FileTree} {loc : Location} {names : List FileName} {member : Nat}
  {file : SnapshotFile} (hwritten : h.IsWrittenAt root inodeOf t loc) (hfits : h.Fits root)
  (hleads : h.Leads names member)

include hwritten hfits hleads

theorem readText_of_content? {text : String} (hcontent : h.content? member file = some text) :
    t.readText ((root.descend names).child file.name) = .ok text := by
  have hkind := hwritten.file file hleads
  rw [hcontent, Option.map_some] at hkind
  have hlength := hfits names member hleads file
  rw [← root.descend_concat] at hlength ⊢
  exact FileTree.readText_of_kind?_file hwritten.locate hkind hlength rfl

theorem inode?_of_content? {text : String} (hcontent : h.content? member file = some text) :
    t.inode? ((root.descend names).child file.name) =
      .ok (some (inodeOf ((root.descend names).child file.name))) := by
  have hkind := hwritten.file file hleads
  rw [hcontent, Option.map_some] at hkind
  have hlength := hfits names member hleads file
  rw [← root.descend_concat] at hlength hkind ⊢
  exact FileTree.inode?_of_kind?_file hwritten.locate hkind hlength

theorem readText_of_content?_none (hcontent : h.content? member file = none) :
    t.readText ((root.descend names).child file.name) = .error .notFound := by
  have hkind := hwritten.file file hleads
  rw [hcontent, Option.map_none] at hkind
  exact FileTree.readText_child_of_kind?_none hwritten.locate
    ((hwritten.directory names).mpr ⟨member, hleads⟩) hkind (hfits names member hleads file)

theorem inode?_of_content?_none (hcontent : h.content? member file = none) :
    t.inode? ((root.descend names).child file.name) = .error .notFound := by
  have hkind := hwritten.file file hleads
  rw [hcontent, Option.map_none] at hkind
  exact FileTree.inode?_child_of_kind?_none hwritten.locate
    ((hwritten.directory names).mpr ⟨member, hleads⟩) hkind (hfits names member hleads file)

end IsWrittenAt

end Iocost.MemoryHierarchy
