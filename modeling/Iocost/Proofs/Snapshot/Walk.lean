import Iocost.Proofs.Files.Directories
import Iocost.Proofs.Snapshot.Layout
import Iocost.Proofs.Walk.Listing
import Iocost.Snapshot.Basic

/-!
# The walk of a snapshot

A walk from the root of a snapshot visits the directories that are reached by names that are texts
(`preorder_descend`), so it shows those of them that are to be looked at and have a file for the
queue, in the order of their lists of names.
-/

namespace Iocost.Snapshot

open Hierarchy

variable {s : Snapshot} {files : FileTree}

/-! ## Names of members -/

theorem memberName_root : s.memberName s.root = .ok "" := by
  rw [memberName, if_pos s.root.isSame_refl]

theorem memberName_of_isText {names : List FileName} {name : FileName} (h : name.IsText) :
    s.memberName (s.root.descend (names ++ [name])) = .ok name.text := by
  rw [memberName, if_neg (by rw [FilePath.isSame_descend_concat]; exact Bool.false_ne_true),
    FilePath.descend_concat, FilePath.lastPart?_child, Option.bind_some,
    FileName.decode?_bytes h]

theorem memberName_of_not_isText {names : List FileName} {name : FileName} (h : ¬name.IsText) :
    ∃ f, s.memberName (s.root.descend (names ++ [name])) = .error f := by
  refine ⟨.unknownMember (s.root.descend (names ++ [name])).shown, ?_⟩
  rw [memberName, if_neg (by rw [FilePath.isSame_descend_concat]; exact Bool.false_ne_true),
    FilePath.descend_concat, FilePath.lastPart?_child, Option.bind_some,
    Option.not_isSome_iff_eq_none.mp h]

/-! ## Visited directories -/

theorem acc_isChild (s : Snapshot) (files : FileTree) (member : FilePath) :
    Acc (s.hierarchy files).IsChild member := (s.source files).descends.apply member

/-- Names without a directory of their own leave no trace. -/
theorem flatMap_eq_flatMap_filter {α β : Type} {p : α → Bool} {f : α → List β} {l : List α}
    (h : ∀ a ∈ l, p a = false → f a = []) : l.flatMap f = (l.filter p).flatMap f := by
  induction l with
  | nil => rfl
  | cons a l ih =>
    have hrest := ih fun b hb => h b (List.mem_cons_of_mem a hb)
    cases hp : p a with
    | true => rw [List.filter_cons_of_pos hp, List.flatMap_cons, List.flatMap_cons, hrest]
    | false =>
      rw [List.filter_cons_of_neg (Bool.eq_false_iff.mp hp), List.flatMap_cons,
        h a List.mem_cons_self hp, List.nil_append, hrest]

/-- All directories to which names that are texts lead can be listed. -/
def IsReadable (s : Snapshot) (files : FileTree) (top : FileNode) : Prop :=
  ∀ names, top.HasDirectory names →
    ∃ below, files.subdirectories (s.root.descend names) = .ok below

variable {top : FileNode}

theorem IsReadable.length_le (hreadable : s.IsReadable files top) {names : List FileName}
    (h : top.HasDirectory names) : (s.root.descend names).bytes.length ≤ FileTree.pathLimit := by
  obtain ⟨below, hbelow⟩ := hreadable names h
  obtain ⟨node, hat, -⟩ := Except.exists_of_bind_eq_ok hbelow
  exact FileTree.length_bytes_le_of_nodeAt hat

theorem isReadable_of_length_le (hroot : files.nodeAt s.root = .ok top)
    (hlength : ∀ names, top.HasDirectory names →
      (s.root.descend names).bytes.length ≤ FileTree.pathLimit) : s.IsReadable files top := by
  intro names hnames
  obtain ⟨inside, hinside⟩ := hnames.1
  refine ⟨FileNode.directoryNames inside, ?_⟩
  rw [FileTree.subdirectories, FileTree.nodeAt_descend hroot hinside nofun (hlength names hnames)]
  rfl

theorem childList_descend (hroot : files.nodeAt s.root = .ok top)
    (hreadable : s.IsReadable files top) {names : List FileName}
    {entries : List (FileName × FileNode)} (hnode : top.node? names = some (.directory entries))
    (htexts : ∀ name ∈ names, name.IsText) :
    (s.hierarchy files).childList (s.root.descend names) =
      (FileNode.directoryNames entries).map fun name => s.root.descend (names ++ [name]) := by
  have hlength := hreadable.length_le ⟨⟨entries, hnode⟩, htexts⟩
  have hsub : files.subdirectories (s.root.descend names) =
      .ok (FileNode.directoryNames entries) := by
    rw [FileTree.subdirectories, FileTree.nodeAt_descend hroot hnode nofun hlength]
    rfl
  simp only [childList, hierarchy, children, hsub, reading, Except.map]
  exact List.map_congr_left fun name _ => (s.root.descend_concat names name).symm

/-- Below a directory the walk visits the directories listed below it. -/
theorem preorder_descend (hroot : files.nodeAt s.root = .ok top)
    (hreadable : s.IsReadable files top) (p : (s.hierarchy files).Pending)
    {names : List FileName} {entries : List (FileName × FileNode)} {name : String}
    (hmember : p.member = s.root.descend names)
    (hname : s.memberName p.member = .ok name) (hpath : pathBelow p.parent name = pathText names)
    (hnode : top.node? names = some (.directory entries)) (htexts : ∀ name ∈ names, name.IsText) :
    preorder p = (FileNode.textDirectories (.directory entries)).map fun below =>
      (s.root.descend (names ++ below), pathText (names ++ below)) := by
  induction p using Pending.induct generalizing names entries name with
  | step p ih =>
    rw [preorder_of_name_ok hname, hpath, FileNode.textDirectories_directory, List.map_cons,
      List.append_nil, hmember,
      flatMap_below (s.acc_isChild files), hmember,
      childList_descend hroot hreadable hnode htexts, List.flatMap_map, List.map_flatMap]
    congr 1
    rw [flatMap_eq_flatMap_filter (p := fun name => decide name.IsText)]
    · refine List.flatMap_congr fun n hn => ?_
      obtain ⟨hmem, htext⟩ := List.mem_filter.mp hn
      obtain ⟨inside, hlookup⟩ := FileNode.mem_directoryNames.mp hmem
      have hbelow : top.node? (names ++ [n]) = some (.directory inside) := by
        rw [FileNode.node?_append, hnode, Option.bind_some, FileNode.node?, hlookup,
          Option.bind_some, FileNode.node?]
      have htexts' : ∀ name ∈ names ++ [n], name.IsText := List.forall_mem_append.mpr
        ⟨htexts, List.forall_mem_singleton.mpr (of_decide_eq_true htext)⟩
      have hchild : s.root.descend (names ++ [n]) ∈ (s.hierarchy files).childList p.member := by
        rw [hmember, childList_descend hroot hreadable hnode htexts]
        exact List.mem_map_of_mem hmem
      have hpre := ih (pathText names) _ (mem_below hchild (pathText names)) rfl
        (memberName_of_isText (of_decide_eq_true htext)) (pathBelow_pathText htexts) hbelow htexts'
      rw [hpre, hlookup, Option.elim_some, List.map_map]
      exact List.map_congr_left fun below _ => by
        rw [List.append_assoc, List.singleton_append, Function.comp_apply]
    · intro n _ htext
      obtain ⟨f, hf⟩ : ∃ f, s.memberName (s.root.descend (names ++ [n])) = .error f :=
        memberName_of_not_isText (of_decide_eq_false htext)
      exact preorder_of_name_error hf

/-! ## Entries -/

/-- The directory to which names lead has an entry in a walk: it is to be looked at, and there is a
file for the queue in it. -/
def IsShown (s : Snapshot) (files : FileTree) (queue : Queue) (includeDying : Bool)
    (names : List FileName) : Prop :=
  (includeDying = true ∨ isOnline files (s.root.descend names) = .ok true) ∧
    ∃ inode, files.inode? ((s.root.descend names).child (nodeName queue)) = .ok (some inode)

/-- The entry of the directory to which names lead. Its path is the names with slashes between them,
and a slash without names. -/
def entryAt (s : Snapshot) (queue : Queue) (names : List FileName) : Entry FilePath FilePath where
  member := s.root.descend names
  path := if names = [] then "/" else String.intercalate "/" (names.map FileName.text)
  node := (s.root.descend names).child (nodeName queue)

variable {queue : Queue} {includeDying : Bool}

theorem entryAt_eq {names : List FileName} (htexts : ∀ name ∈ names, name.IsText) :
    s.entryAt queue names =
      ⟨s.root.descend names, shownPath (pathText names),
        (s.root.descend names).child (nodeName queue)⟩ := by
  rw [entryAt, shownPath_pathText htexts]

theorem isVisible_iff {member : FilePath} :
    (s.hierarchy files).isVisible includeDying member = true ↔
      includeDying = true ∨ isOnline files member = .ok true := by
  rw [isVisible, Bool.or_eq_true]
  refine or_congr_right ?_
  simp only [hierarchy]
  cases isOnline files member with
  | error f => simp
  | ok online => simp

theorem node?_of_inode? {member : FilePath} {inode : UInt64}
    (h : files.inode? (member.child (nodeName queue)) = .ok (some inode)) :
    node? files member queue = .ok (some (member.child (nodeName queue))) := by
  simp only [node?, h, Option.map_some]

theorem inode?_of_node? {member path : FilePath} (h : node? files member queue = .ok (some path)) :
    path = member.child (nodeName queue) ∧
      ∃ inode, files.inode? (member.child (nodeName queue)) = .ok (some inode) := by
  simp only [node?] at h
  cases hinode : files.inode? (member.child (nodeName queue)) with
  | error cause =>
    rw [hinode] at h
    cases cause <;> cases h
  | ok inode? =>
    rw [hinode] at h
    obtain ⟨inode, rfl, rfl⟩ := Option.map_eq_some_iff.mp (Except.ok.inj h)
    exact ⟨rfl, inode, rfl⟩

theorem ownEntry_of_isShown {names : List FileName} (htexts : ∀ name ∈ names, name.IsText)
    (h : s.IsShown files queue includeDying names) :
    (s.hierarchy files).ownEntry queue includeDying (s.root.descend names) (pathText names) =
      [s.entryAt queue names] := by
  obtain ⟨hvisible, inode, hinode⟩ := h
  have hnode : (s.hierarchy files).node? (s.root.descend names) queue =
      .ok (some ((s.root.descend names).child (nodeName queue))) := node?_of_inode? hinode
  rw [ownEntry, if_pos (isVisible_iff.mpr hvisible), hnode, entryAt_eq htexts]

theorem ownEntry_of_not_isShown {names : List FileName}
    (h : ¬s.IsShown files queue includeDying names) :
    (s.hierarchy files).ownEntry queue includeDying (s.root.descend names) (pathText names) =
      [] := by
  unfold ownEntry
  split
  case isFalse => rfl
  case isTrue hvisible =>
    split
    case h_2 => rfl
    case h_1 path hnode =>
      obtain ⟨-, hinode⟩ := inode?_of_node? hnode
      exact absurd ⟨isVisible_iff.mp hvisible, hinode⟩ h

/-! ## The walk -/

section

variable {entries : List (FileName × FileNode)}
  (hroot : files.nodeAt s.root = .ok (.directory entries))
  (hreadable : s.IsReadable files (.directory entries))

include hroot hreadable

theorem preorder_root (ends : Acc (s.hierarchy files).IsChild s.root) :
    preorder ⟨s.root, "", ends⟩ = (FileNode.directory entries).textDirectories.map fun names =>
      (s.root.descend names, pathText names) :=
  preorder_descend hroot hreadable ⟨s.root, "", ends⟩ s.root.descend_nil.symm memberName_root rfl
    rfl nofun

open Classical in
/-- The entries of a walk are those of the directories that are shown. -/
theorem walk_eq_map :
    (s.source files).walk s.root queue includeDying =
      ((FileNode.directory entries).textDirectories.filter fun names =>
        s.IsShown files queue includeDying names).map (s.entryAt queue) := by
  have hown : ∀ names ∈ (FileNode.directory entries).textDirectories,
      (s.hierarchy files).ownEntry queue includeDying (s.root.descend names) (pathText names) =
        if s.IsShown files queue includeDying names then [s.entryAt queue names] else [] := by
    intro names hnames
    split
    case isTrue hshown =>
      exact ownEntry_of_isShown (FileNode.mem_textDirectories.mp hnames).2 hshown
    case isFalse hshown => exact ownEntry_of_not_isShown hshown
  calc (s.source files).walk s.root queue includeDying
    _ = (preorder ⟨s.root, "", acc_isChild s files s.root⟩).flatMap fun m =>
        (s.hierarchy files).ownEntry queue includeDying m.1 m.2 :=
      (walk_eq_listing _).trans (listing_eq_flatMap_preorder _)
    _ = (FileNode.directory entries).textDirectories.flatMap fun names =>
        if s.IsShown files queue includeDying names then [s.entryAt queue names] else [] := by
      rw [preorder_root hroot hreadable, List.flatMap_map]
      exact List.flatMap_congr hown
    _ = _ := by
      rw [flatMap_eq_flatMap_filter (p := fun names => s.IsShown files queue includeDying names),
        List.map_eq_flatMap]
      · refine List.flatMap_congr fun names hnames => ?_
        exact if_pos (of_decide_eq_true (List.mem_filter.mp hnames).2)
      · exact fun names _ hshown => if_neg (of_decide_eq_false hshown)

/-- Each directory is visited once, wherever its path leads. -/
theorem nodup_locate_preorder (ends : Acc (s.hierarchy files).IsChild s.root) :
    ((preorder ⟨s.root, "", ends⟩).map fun m => files.locate m.1).Nodup := by
  rw [preorder_root hroot hreadable, List.map_map]
  obtain ⟨loc, hlocate, hnode⟩ := FileTree.nodeAt_eq_ok hroot
  have hplace : ∀ names ∈ (FileNode.directory entries).textDirectories,
      files.locate (s.root.descend names) = .ok (loc ++ names) := by
    intro names hnames
    have hdirectory := FileNode.mem_textDirectories.mp hnames
    obtain ⟨inside, hinside⟩ := hdirectory.1
    exact FileTree.locate_descend hlocate hnode hinside nofun (hreadable.length_le hdirectory)
  refine List.Nodup.map_on (fun a ha b hb hab => ?_) (FileNode.nodup_textDirectories _)
  have heq : Except.ok (loc ++ a) = (Except.ok (loc ++ b) : Except FileError Location) :=
    (hplace a ha).symm.trans (hab.trans (hplace b hb))
  exact List.append_cancel_left (Except.ok.inj heq)

end

/-- **What a walk of a snapshot finds.** Each directory to which names that are texts lead from the
root, without a link, has one entry if it is to be looked at and there is a file for the queue in
it, which is named after the queue. The entries stand in the order of their lists of names. The loop
ends, and it visits no directory twice. -/
theorem walk_finds_directories {entries : List (FileName × FileNode)}
    (hroot : files.nodeAt s.root = .ok (.directory entries))
    (hreadable : s.IsReadable files (.directory entries)) (queue : Queue) (includeDying : Bool) :
    (nodeName queue).bytes = Text.encode ("iocg." ++ toString queue.toNat) ∧
    ∃ shown : List (List FileName),
      (s.source files).walk s.root queue includeDying = shown.map (s.entryAt queue) ∧
      (∀ names, names ∈ shown ↔ (FileNode.directory entries).HasDirectory names ∧
        s.IsShown files queue includeDying names) ∧
      shown.Pairwise (List.Lex FileName.Before) ∧
      (((s.source files).walk s.root queue includeDying).map Entry.path).Nodup ∧
      ((preorder ⟨s.root, "", acc_isChild s files s.root⟩).map fun m => files.locate m.1).Nodup ∧
      ∃ turns, ((s.hierarchy files).turn queue includeDying)^[turns] { stack := [(s.root, "")] } =
        ⟨[], (s.source files).walk s.root queue includeDying⟩ := by
  classical
  refine ⟨SnapshotFile.bytes_nodeName queue, _, walk_eq_map hroot hreadable, fun names => ?_, ?_,
    ?_, ?_, ?_⟩
  · rw [List.mem_filter, FileNode.mem_textDirectories, decide_eq_true_iff]
  · exact (FileNode.pairwise_textDirectories _).filter _
  · rw [walk_eq_map hroot hreadable, List.map_map]
    refine List.Nodup.map_on (fun a ha b hb hab => ?_) ((FileNode.nodup_textDirectories _).filter _)
    have htexts : ∀ names ∈ List.filter (fun names => s.IsShown files queue includeDying names)
        (FileNode.directory entries).textDirectories, ∀ name ∈ names, name.IsText :=
      fun names hnames => (FileNode.mem_textDirectories.mp (List.mem_filter.mp hnames).1).2
    refine shownPath_pathText_inj (htexts a ha) (htexts b hb) ?_
    rw [shownPath_pathText (htexts a ha), shownPath_pathText (htexts b hb)]
    exact hab
  · exact nodup_locate_preorder hroot hreadable _
  · exact exists_iterate_turn [⟨s.root, "", acc_isChild s files s.root⟩] []

/-- A directory `b`, a link to the directory above, and a directory whose name is no text. -/
def besideLink : List (FileName × FileNode) :=
  [(⟨[98], rfl⟩, .directory [(nodeName 7, .file 2 [])]), (⟨[117], rfl⟩, .link [46, 46]),
    (⟨[255], rfl⟩, .directory [(nodeName 7, .file 3 [])])]

/-- A directory `a.b`, and `a` with a link in it. -/
def aroundLink : List (FileName × FileNode) :=
  [(⟨[97, 46, 98], rfl⟩, .directory [(nodeName 7, .file 1 [])]),
    (⟨[97], rfl⟩, .directory besideLink)]

theorem textDirectories_aroundLink : (FileNode.directory aroundLink).textDirectories =
    [[], [⟨[97], rfl⟩], [⟨[97], rfl⟩, ⟨[98], rfl⟩], [⟨[97, 46, 98], rfl⟩]] := by
  have ha : (FileNode.directory besideLink).textDirectories = [[], [⟨[98], rfl⟩]] := by
    have hnames : ((FileNode.directoryNames besideLink).filter fun name => decide name.IsText) =
        [⟨[98], rfl⟩] := by decide +kernel
    rw [FileNode.textDirectories_of_filter hnames]
    change [] :: ((FileNode.directory [(nodeName 7, .file 2 [])]).textDirectories.map _ ++ []) = _
    rw [FileNode.textDirectories_of_filter rfl]
    rfl
  have hnames : ((FileNode.directoryNames aroundLink).filter fun name => decide name.IsText) =
      [⟨[97], rfl⟩, ⟨[97, 46, 98], rfl⟩] := by decide +kernel
  rw [FileNode.textDirectories_of_filter hnames]
  change [] :: ((FileNode.directory besideLink).textDirectories.map _ ++
    ((FileNode.directory [(nodeName 7, .file 1 [])]).textDirectories.map _ ++ [])) = _
  rw [ha, FileNode.textDirectories_of_filter rfl]
  rfl

theorem walk_finds_around_link :
    let files : FileTree := { top := .directory [(⟨[115], rfl⟩, .directory aroundLink)] }
    let s : Snapshot := ⟨.ofString "s", {}⟩
    files.nodeAt s.root = .ok (.directory aroundLink) ∧
      s.IsReadable files (.directory aroundLink) ∧
      s.entryAt 7 [⟨[97], rfl⟩, ⟨[98], rfl⟩] ∈ (s.source files).walk s.root 7 true := by
  intro files s
  have hroot : files.nodeAt s.root = .ok (.directory aroundLink) := by
    have hsteps : s.root.steps = [FileName.mk [115] rfl].map .name := by decide
    have hfollow : files.follow FileTree.linkLimit [] s.root.steps =
        .ok ([] ++ [FileName.mk [115] rfl], FileTree.linkLimit) := by
      rw [hsteps]
      exact FileTree.follow_names rfl rfl nofun
    exact FileTree.nodeAt_of_locate
      (FileTree.locate_of_leadsTo rfl rfl (by decide) ⟨_, hfollow⟩) rfl
  have hreadable : s.IsReadable files (.directory aroundLink) := by
    refine isReadable_of_length_le hroot fun names hnames => ?_
    rw [← FileNode.mem_textDirectories, textDirectories_aroundLink] at hnames
    simp only [List.mem_cons, List.not_mem_nil, or_false] at hnames
    rcases hnames with rfl | rfl | rfl | rfl <;> decide
  obtain ⟨-, shown, hwalk, hmem, -⟩ := walk_finds_directories hroot hreadable 7 true
  refine ⟨hroot, hreadable, ?_⟩
  rw [hwalk]
  refine List.mem_map_of_mem ((hmem _).mpr ⟨?_, .inl rfl, 2, ?_⟩)
  · rw [← FileNode.mem_textDirectories, textDirectories_aroundLink]
    exact .tail _ (.tail _ (.head _))
  · have hnode : files.nodeAt (s.root.descend [⟨[97], rfl⟩, ⟨[98], rfl⟩, nodeName 7]) =
        .ok (.file 2 []) := FileTree.nodeAt_descend hroot rfl nofun (by decide)
    rw [← FilePath.descend_concat]
    exact congrArg (Except.map _) hnode

end Iocost.Snapshot
