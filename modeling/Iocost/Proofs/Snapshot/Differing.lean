import Iocost.Proofs.Files.Differing
import Iocost.Proofs.Sampler.MemberRows
import Iocost.Proofs.Snapshot.Layout
import Iocost.Proofs.Snapshot.Walk

/-!
# Snapshots that differ in the file of a node

In a snapshot without links, the file of a node is read for the member whose directory it is in and
for no other. Whatever becomes of it, all rows with other paths stay as they were
(`filter_memberRows_eq`).
-/

namespace Iocost.Snapshot

open Hierarchy

variable {s : Snapshot} {files files' : FileTree} {loc : Location}

theorem eq_child_of_isChild {child member : FilePath}
    (h : (s.hierarchy files).IsChild child member) :
    ∃ below name, files.subdirectories member = .ok below ∧ name ∈ below ∧
      child = member.child name := by
  unfold IsChild childList at h
  cases hchildren : (s.hierarchy files).children member with
  | error f =>
    rw [hchildren] at h
    cases h
  | ok children =>
    rw [hchildren] at h
    obtain ⟨below, hbelow, rfl⟩ := Except.exists_of_map_eq_ok hchildren
    obtain ⟨name, hname, rfl⟩ := List.mem_map.mp h
    refine ⟨below, name, ?_, hname, rfl⟩
    cases hsub : files.subdirectories member with
    | error e =>
      rw [hsub] at hbelow
      cases hbelow
    | ok names =>
      rw [hsub] at hbelow
      exact congrArg Except.ok (Except.ok.inj hbelow)

/-- A member that is reached from below the root has the path that its names write. -/
theorem exists_names_of_reaches {start reached : FilePath} {parent path : String}
    (hreach : (s.hierarchy files).Reaches start parent reached path) {names : List FileName}
    (hstart : start = s.root.descend names)
    (hpath : ∀ name, s.memberName start = .ok name →
      pathBelow parent name = pathText names ∧ ∀ n ∈ names, n.IsText) :
    ∃ names, reached = s.root.descend names ∧ path = pathText names ∧
      ∀ n ∈ names, n.IsText := by
  induction hreach generalizing names with
  | here hname => exact ⟨names, hstart, hpath _ hname⟩
  | child hname hchild _ ih =>
    obtain ⟨hbelow, htexts⟩ := hpath _ hname
    obtain ⟨below, n, -, -, rfl⟩ := eq_child_of_isChild hchild
    have hdescend : FilePath.child _ n = s.root.descend (names ++ [n]) :=
      hstart ▸ (s.root.descend_concat names n).symm
    refine ih hdescend fun text htext => ?_
    by_cases hn : n.IsText
    · rw [hdescend, memberName_of_isText hn] at htext
      cases htext
      exact ⟨hbelow ▸ pathBelow_pathText htexts,
        List.forall_mem_append.mpr ⟨htexts, List.forall_mem_singleton.mpr hn⟩⟩
    · obtain ⟨f, hf⟩ : ∃ f, s.memberName (s.root.descend (names ++ [n])) = .error f :=
        memberName_of_not_isText hn
      rw [hdescend, hf] at htext
      cases htext

theorem exists_names_of_mem_members {member : FilePath} {path : String}
    (h : (member, path) ∈ (s.source files).members s.root) :
    ∃ names, member = s.root.descend names ∧ path = pathText names ∧ ∀ n ∈ names, n.IsText := by
  have hreach : (s.hierarchy files).Reaches s.root "" member path := mem_preorder.mp h
  refine exists_names_of_reaches hreach s.root.descend_nil.symm fun name hname => ?_
  rw [memberName_root] at hname
  cases hname
  exact ⟨rfl, nofun⟩

/-- An entry of a walk is that of a directory whose names are texts. -/
theorem exists_names_of_mem_walk {queue : Queue} {includeDying : Bool}
    {entry : Entry FilePath FilePath}
    (h : entry ∈ (s.source files).walk s.root queue includeDying) :
    ∃ names, entry = s.entryAt queue names ∧ ∀ n ∈ names, n.IsText := by
  rw [Source.walk, walk_eq_listing, listing_eq_flatMap_preorder] at h
  obtain ⟨⟨member, path⟩, hmember, hentry⟩ := List.mem_flatMap.mp h
  obtain ⟨node, hnode, rfl⟩ := eq_of_mem_ownEntry hentry
  obtain ⟨names, rfl, rfl, htexts⟩ := exists_names_of_mem_members hmember
  obtain ⟨rfl, -⟩ := inode?_of_node? hnode
  exact ⟨names, (entryAt_eq htexts).symm, htexts⟩

theorem eq_of_resolve {device : String} {binding : Binding FilePath FilePath}
    (h : s.resolve files device = .ok binding) :
    binding.root = s.root ∧ ∃ queue, binding.controller = s.root.child (controllerName queue) := by
  obtain ⟨devices, -, h⟩ := Except.exists_of_bind_eq_ok h
  obtain ⟨queue?, -, h⟩ := Except.exists_of_bind_eq_ok h
  cases queue? with
  | none => cases h
  | some queue =>
    dsimp only at h
    split at h
    · cases h
      exact ⟨rfl, queue, rfl⟩
    · cases h

/-- A member is a directory below a location, with names that lead there. -/
def IsDirectoryBelow (s : Snapshot) (files : FileTree) (loc : Location) (member : FilePath) :
    Prop :=
  ∃ names, member = s.root.descend names ∧ files.kind? (loc ++ names) = some .directory

section

variable (hroot : files.LeadsTo s.root loc) (hdir : files.kind? loc = some .directory)

include hroot

theorem IsDirectoryBelow.of_isChild {child member : FilePath}
    (hmember : s.IsDirectoryBelow files loc member)
    (hchild : (s.hierarchy files).IsChild child member) : s.IsDirectoryBelow files loc child := by
  obtain ⟨names, rfl, hkind⟩ := hmember
  obtain ⟨below, name, hsub, hname, rfl⟩ := eq_child_of_isChild hchild
  refine ⟨names ++ [name], (s.root.descend_concat names name).symm, ?_⟩
  rw [← List.append_assoc]
  exact FileTree.kind?_of_mem_subdirectories (hroot.descend_of_kind? hkind nofun) hsub hname

include hdir

theorem isDirectoryBelow_of_mem_members {member : FilePath} {path : String}
    (h : (member, path) ∈ (s.source files).members s.root) :
    s.IsDirectoryBelow files loc member := by
  have hreach : (s.hierarchy files).Reaches s.root "" member path := mem_preorder.mp h
  refine hreach.of_closed (fun _ hmember _ hchild => hmember.of_isChild hroot hchild)
    ⟨[], s.root.descend_nil.symm, ?_⟩
  rwa [List.append_nil]

end

/-! ## The file of a node changes -/

section

variable {names : List FileName} {queue : Queue} (hlinks : files.HasNoLinks loc)
  (hroot : files.LeadsTo s.root loc)
  (hdiffers : files.DiffersAtFile files' (loc ++ names ++ [nodeName queue]))

include hroot hdiffers

omit hroot in
theorem kind?_root : files.kind? loc = some .directory := by
  by_contra hdir
  obtain ⟨inode, content, hfile⟩ := hdiffers.old
  obtain ⟨n, rest, hrest⟩ := List.exists_cons_of_ne_nil (List.append_ne_nil_of_right_ne_nil names
    (List.cons_ne_nil (nodeName queue) []))
  rw [List.append_assoc, hrest, FileTree.kind?_append_cons hdir] at hfile
  cases hfile

include hlinks

/-- Every other file is read alike in a directory. -/
theorem map_kind_nodeAt_eq {below : List FileName} {file : SnapshotFile}
    (hdir : files.kind? (loc ++ below) = some .directory)
    (hne : below ≠ names ∨ file ≠ .node queue) :
    (files'.nodeAt ((s.root.descend below).child file.name)).map FileNode.kind =
      (files.nodeAt ((s.root.descend below).child file.name)).map FileNode.kind := by
  refine hdiffers.map_kind_nodeAt_child (hroot.descend_of_kind? hdir nofun) hdir
    (by rw [List.append_assoc]; exact hlinks _) fun heq => ?_
  obtain ⟨hbelow, hname⟩ := List.append_inj' heq rfl
  have hfile : file.name = (SnapshotFile.node queue).name := List.singleton_inj.mp hname
  rcases hne with hne | hne
  · exact hne (List.append_cancel_left hbelow)
  · exact hne (SnapshotFile.name_injective hfile)

theorem map_kind_nodeAt_root_eq (file : SnapshotFile) (hne : file ≠ .node queue) :
    (files'.nodeAt (s.root.child file.name)).map FileNode.kind =
      (files.nodeAt (s.root.child file.name)).map FileNode.kind := by
  have hdir : files.kind? (loc ++ []) = some .directory := by
    rw [List.append_nil]
    exact kind?_root hdiffers
  have heq := map_kind_nodeAt_eq hlinks hroot hdiffers hdir (.inr hne)
  rwa [FilePath.descend_nil] at heq

theorem ofDirectory_eq : ofDirectory files' s.root = ofDirectory files s.root := by
  have htext : files'.readText (s.root.child constantsName) =
      files.readText (s.root.child constantsName) := FileTree.readText_congr
    (map_kind_nodeAt_root_eq hlinks hroot hdiffers .constants nofun)
  simp only [ofDirectory, htext]

theorem readController_eq (queue' : Queue) :
    readController files' (s.root.child (controllerName queue')) =
      readController files (s.root.child (controllerName queue')) := by
  have htext : files'.readText (s.root.child (controllerName queue')) =
      files.readText (s.root.child (controllerName queue')) := FileTree.readText_congr
    (map_kind_nodeAt_root_eq hlinks hroot hdiffers (.controller queue') nofun)
  simp only [readController, keyedText, htext]

theorem ofSettings_eq (settings : Settings) :
    Sampler.ofSettings (s.source files') settings =
      Sampler.ofSettings (s.source files) settings := by
  have hdevices : files'.readText (s.root.child devicesName) =
      files.readText (s.root.child devicesName) := FileTree.readText_congr
    (map_kind_nodeAt_root_eq hlinks hroot hdiffers .devices nofun)
  have hcontroller (queue' : Queue) : files'.inode? (s.root.child (controllerName queue')) =
      files.inode? (s.root.child (controllerName queue')) := FileTree.inode?_congr
    (map_kind_nodeAt_root_eq hlinks hroot hdiffers (.controller queue') nofun)
  have hresolve : s.resolve files' settings.device = s.resolve files settings.device := by
    simp only [resolve, keyedText, hdevices, hcontroller]
  exact congrArg (Except.map _) hresolve

omit hlinks in
theorem members_eq : (s.source files').members s.root = (s.source files).members s.root := by
  have hdir := kind?_root hdiffers
  have hprunes : (s.source files).Prunes (s.source files').toHierarchy
      (s.IsDirectoryBelow files loc) := by
    refine ⟨fun _ => rfl, fun {member} hmember => ?_, fun hmember hchild =>
      .inl (hmember.of_isChild hroot hchild)⟩
    obtain ⟨below, rfl, hkind⟩ := hmember
    have hsub := hdiffers.subdirectories_eq (hroot.descend_of_kind? hkind nofun) hkind
    simp only [childList, source, hierarchy, children, hsub]
  classical
  rw [Source.members_eq_filter hprunes (.inl ⟨[], s.root.descend_nil.symm, ?_⟩),
    List.filter_eq_self]
  · exact fun m hm => decide_eq_true (isDirectoryBelow_of_mem_members hroot hdir hm)
  · rwa [List.append_nil]

theorem agreeOn {member : FilePath} (hmember : s.IsDirectoryBelow files loc member)
    (hne : member ≠ s.root.descend names) (queue' : Queue) :
    (s.source files).AgreeOn (s.source files') queue' member := by
  obtain ⟨below, rfl, hdir⟩ := hmember
  have hbelow : below ≠ names := fun heq => hne (congrArg s.root.descend heq)
  have heq (file : SnapshotFile) :
      (files'.nodeAt ((s.root.descend below).child file.name)).map FileNode.kind =
        (files.nodeAt ((s.root.descend below).child file.name)).map FileNode.kind :=
    map_kind_nodeAt_eq hlinks hroot hdiffers hdir (.inl hbelow)
  have honline : files'.readText ((s.root.descend below).child onlineName) =
      files.readText ((s.root.descend below).child onlineName) :=
    FileTree.readText_congr (heq .online)
  have hnode : files'.readText ((s.root.descend below).child (nodeName queue')) =
      files.readText ((s.root.descend below).child (nodeName queue')) :=
    FileTree.readText_congr (heq (.node queue'))
  have hinode : files'.inode? ((s.root.descend below).child (nodeName queue')) =
      files.inode? ((s.root.descend below).child (nodeName queue')) :=
    FileTree.inode?_congr (heq (.node queue'))
  -- a node of the member is the file that its inode was asked of, so it is read there
  refine ⟨?_, ?_, fun {path} hpath => ?_⟩
  · simp only [source, hierarchy, isOnline, honline]
  · simp only [source, hierarchy, node?, hinode]
  · obtain ⟨rfl, -⟩ := inode?_of_node? hpath
    simp only [source, readNode, keyedText, hnode, hinode]

/-- The rows of all other members stay as they were. -/
theorem filter_memberRows_eq {opened : FileTree} {settings : Settings}
    {sampler : Sampler FilePath FilePath}
    (hsampler : Sampler.ofSettings (s.source opened) settings = .ok sampler) :
    ((sampler.memberRows (s.source files')).filter fun row =>
        decide (row.1 ≠ s.root.descend names)) =
      (sampler.memberRows (s.source files)).filter fun row =>
        decide (row.1 ≠ s.root.descend names) := by
  obtain ⟨binding, hbinding, rfl⟩ := Except.exists_of_map_eq_ok hsampler
  obtain ⟨hbinding, queue', hcontroller⟩ := eq_of_resolve hbinding
  refine Sampler.filter_memberRows_congr (fun member => decide (member ≠ _)) rfl ?_ ?_ ?_
  · simp only [hcontroller]
    exact readController_eq hlinks hroot hdiffers queue'
  · simp only [hbinding, members_eq hroot hdiffers]
  · intro m hm hne
    rw [hbinding] at hm
    exact agreeOn hlinks hroot hdiffers
      (isDirectoryBelow_of_mem_members hroot (kind?_root hdiffers) hm) (of_decide_eq_true hne) _

end

section

variable {opened : FileTree} {settings : Settings} {sampler : Sampler FilePath FilePath}
  (hsampler : Sampler.ofSettings (s.source opened) settings = .ok sampler)

include hsampler

theorem exists_names_of_mem_memberRows {row : FilePath × Row}
    (hrow : row ∈ sampler.memberRows (s.source files)) :
    ∃ names, row.1 = s.root.descend names ∧ row.2.path = shownPath (pathText names) ∧
      ∀ n ∈ names, n.IsText := by
  obtain ⟨binding, hbinding, rfl⟩ := Except.exists_of_map_eq_ok hsampler
  obtain ⟨path, hmember, hpath⟩ := Sampler.exists_member_of_mem_memberRows hrow
  rw [(eq_of_resolve hbinding).1] at hmember
  obtain ⟨names, hnames, rfl, htexts⟩ := exists_names_of_mem_members hmember
  exact ⟨names, hnames, hpath, htexts⟩

/-- To leave out the rows with the path of a member is to leave out its own ones, and more at
most. -/
theorem filter_path_memberRows (names : List FileName) :
    (((sampler.memberRows (s.source files)).map Prod.snd).filter fun row =>
        decide (row.path ≠ shownPath (pathText names))) =
      (((sampler.memberRows (s.source files)).filter fun row =>
        decide (row.1 ≠ s.root.descend names)).filter fun row =>
          decide (row.2.path ≠ shownPath (pathText names))).map Prod.snd := by
  rw [List.filter_map, List.filter_filter]
  refine congrArg (List.map Prod.snd) (List.filter_congr fun row hrow => ?_)
  obtain ⟨names', hnames', hpath, -⟩ := exists_names_of_mem_memberRows hsampler hrow
  by_cases hne : row.1 = s.root.descend names
  · obtain rfl := s.root.descend_injective (hnames'.symm.trans hne)
    simp [hpath]
  · simp [hne]

/-- No row is of a member that has no path. -/
theorem filter_memberRows_eq_self {names : List FileName} {name : FileName} (hname : name ∈ names)
    (htext : ¬name.IsText) :
    ((sampler.memberRows (s.source files)).filter fun row =>
      decide (row.1 ≠ s.root.descend names)) = sampler.memberRows (s.source files) := by
  refine List.filter_eq_self.mpr fun row hrow => decide_eq_true fun heq => ?_
  obtain ⟨names', hnames', -, htexts⟩ := exists_names_of_mem_memberRows hsampler hrow
  obtain rfl := s.root.descend_injective (hnames'.symm.trans heq)
  exact htext (htexts name hname)

end

end Iocost.Snapshot
