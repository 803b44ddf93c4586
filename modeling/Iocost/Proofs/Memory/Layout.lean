import Iocost.Proofs.Keyed.Lines
import Iocost.Proofs.Memory.Built
import Iocost.Proofs.Memory.TreeSteps
import Iocost.Proofs.Outcome
import Iocost.Proofs.Snapshot.Layout

/-!
# What a hierarchy writes, and where

The directory of a member is reached by the names of the members above it and its own (`Leads`); in
it are the files that the member has (`content?`). The changes that write a hierarchy as a snapshot
put these there and nothing else (`mem_treeSteps`), each below a directory that is made before, and
never two things in one place.
-/

namespace Iocost.MemoryHierarchy

open TreeStep

variable {h : MemoryHierarchy} {root : FilePath}

/-- The name of a member. -/
def nameOf (h : MemoryHierarchy) (member : Nat) : String :=
  (h.members[member]?.map MemoryMember.name).getD ""

/-- The text can be the name of a member's directory: it names a file, and none that stands for
something else. -/
def IsMemberName (text : String) : Prop :=
  ∃ name : FileName, name.bytes = Text.encode text ∧ ∀ file : SnapshotFile, file.name ≠ name

theorem isMemberName_of_stem {text : String} (hname : isFileName (Text.encode text) = true)
    (hstem : (Text.encode text).take 4 ∉ SnapshotFile.stems) : IsMemberName text := by
  refine ⟨⟨Text.encode text, hname⟩, rfl, fun file hfile => hstem ?_⟩
  have hbytes : file.stem = (Text.encode text).take 4 := by rw [SnapshotFile.stem, hfile]
  exact hbytes ▸ file.stem_mem_stems

/-- All that the hierarchy says can be told from a snapshot. -/
structure IsWritable (h : MemoryHierarchy) : Prop where
  healthy : ∀ member ∈ h.members, member.isBroken = false
  constants : h.constants = {}
  deviceNames : ∀ device ∈ h.devices, IsKey device.1
  queues : (h.devices.map fun device => device.2.queue).Nodup
  slots : ∀ node ∈ h.nodes, node.2.usages.length = 8
  names : ∀ parent, ∀ child ∈ h.childrenOf parent, IsMemberName (h.nameOf child)
  siblings : ∀ parent, ((h.childrenOf parent).map h.nameOf).Nodup

/-- The names lead from the directory of the root to that of a member. -/
inductive Leads (h : MemoryHierarchy) : List FileName → Nat → Prop where
  | root : Leads h [] 0
  | child {names : List FileName} {parent child : Nat} {name : FileName} :
    Leads h names parent → child ∈ h.childrenOf parent →
      name.bytes = Text.encode (h.nameOf child) → Leads h (names ++ [name]) child

/-- The text in a file in the directory of a member, if there is such a file. The root has those of
the devices too. -/
def content? (h : MemoryHierarchy) (member : Nat) : SnapshotFile → Option String
  | .online =>
    (h.members[member]?.filter fun m => !m.isOnline).map fun _ => "0\n"
  | .node queue => (h.nodes.lookup (member, queue)).map NodeCounters.toKeyedText
  | .controller queue =>
    if member = 0 then (h.readController queue).toOption.map ControllerCounters.toKeyedText
    else none
  | .devices => if member = 0 then some h.devicesText else none
  | .constants => none

/-! ## Members and their directories -/

theorem Leads.exists_parent {names : List FileName} {name : FileName} {member : Nat}
    (hleads : h.Leads (names ++ [name]) member) :
    ∃ parent, h.Leads names parent ∧ member ∈ h.childrenOf parent ∧
      name.bytes = Text.encode (h.nameOf member) := by
  generalize hconcat : names ++ [name] = names' at hleads
  cases hleads with
  | root => simp at hconcat
  | child hparent hchild hname =>
    obtain ⟨rfl, hlast⟩ := List.append_inj' hconcat rfl
    obtain rfl := List.head_eq_of_cons_eq hlast
    exact ⟨_, hparent, hchild, hname⟩

theorem Leads.unique (hw : h.IsWritable) {names : List FileName} {a b : Nat} (ha : h.Leads names a)
    (hb : h.Leads names b) : a = b := by
  induction ha generalizing b with
  | root =>
    generalize hnil : ([] : List FileName) = names at hb
    cases hb with
    | root => rfl
    | child => simp at hnil
  | child _ hchild hname ih =>
    obtain ⟨parent, hparent, hchild', hname'⟩ := hb.exists_parent
    obtain rfl := ih hparent
    refine List.inj_on_of_nodup_map (hw.siblings _) hchild hchild' ?_
    exact Text.encode_injective (hname.symm.trans hname')

theorem Leads.last_ne (hw : h.IsWritable) {names : List FileName} {name : FileName} {member : Nat}
    (hleads : h.Leads (names ++ [name]) member) (file : SnapshotFile) : file.name ≠ name := by
  obtain ⟨parent, -, hchild, hname⟩ := hleads.exists_parent
  obtain ⟨name', hname', hfile⟩ := hw.names parent member hchild
  obtain rfl := FileName.bytes_injective (hname'.trans hname.symm)
  exact hfile file

/-- The directories in that of a member are those of its children. -/
theorem Leads.concat_iff (hw : h.IsWritable) {names : List FileName} {name : FileName}
    {member child : Nat} (hleads : h.Leads names member) :
    h.Leads (names ++ [name]) child ↔
      child ∈ h.childrenOf member ∧ name.bytes = Text.encode (h.nameOf child) := by
  constructor
  · intro hchild
    obtain ⟨parent, hparent, hmem, hname⟩ := hchild.exists_parent
    obtain rfl := hleads.unique hw hparent
    exact ⟨hmem, hname⟩
  · exact fun ⟨hchild, hname⟩ => .child hleads hchild hname

theorem Leads.exists_member {names : List FileName} {member : Nat}
    (hleads : h.Leads names member) : ∃ m, h.members[member]? = some m := by
  cases hleads with
  | root =>
    obtain ⟨m, hm, -⟩ := Option.map_eq_some_iff.mp h.isBuilt.isSound.root
    exact ⟨m, hm⟩
  | child _ hchild =>
    exact ⟨_, List.getElem?_eq_getElem (h.lt_of_mem_childrenOf hchild).2⟩

theorem Leads.length_le {names : List FileName} {member : Nat} (hleads : h.Leads names member) :
    names.length ≤ member := by
  induction hleads with
  | root => exact Nat.le_refl 0
  | child _ hchild _ ih =>
    rw [List.length_append, List.length_singleton]
    exact Nat.lt_of_le_of_lt ih (h.lt_of_mem_childrenOf hchild).1

theorem directoryBelow_eq {directory : FilePath} {text : String} {name : FileName}
    (hname : name.bytes = Text.encode text) :
    directoryBelow directory text = directory.child name := by
  have hfile : FileName.ofBytes? (Text.encode text) = some name := by
    rw [← hname, FileName.ofBytes?, dif_pos name.isFileName_bytes]
  rw [directoryBelow, hfile]

theorem memberSteps_eq (member : Nat) (directory : FilePath) :
    h.memberSteps member directory = h.ownSteps member directory ++
      (h.childrenOf member).flatMap fun child =>
        h.memberSteps child (directoryBelow directory (h.nameOf child)) := by
  rw [memberSteps]
  congr 1
  refine (List.flatMap_subtype (f := fun c => h.memberSteps c.1 _) (g := fun c => h.memberSteps c
    (directoryBelow directory (h.nameOf c))) fun _ _ => rfl).trans ?_
  rw [List.unattach_attach]

theorem childrenOf_eq_nil {member : Nat} (hmember : h.members.length ≤ member) :
    h.childrenOf member = [] := by
  refine List.eq_nil_iff_forall_not_mem.mpr fun child hchild => ?_
  have := h.lt_of_mem_childrenOf hchild
  omega

/-- Induction on the members below a member. -/
theorem childrenOf_induct {motive : Nat → Prop}
    (step : ∀ member, (∀ child ∈ h.childrenOf member, motive child) → motive member)
    (member : Nat) : motive member := by
  induction hn : h.members.length - member using Nat.strong_induction_on generalizing member with
  | _ n ih =>
    subst hn
    refine step member fun child hchild => ih _ ?_ child rfl
    have := h.lt_of_mem_childrenOf hchild
    omega

/-! ## The changes -/

/-- The change that puts a file into the directory to which names lead. -/
def fileStep (root : FilePath) (names : List FileName) (file : SnapshotFile) (text : String) :
    TreeStep := .file ((root.descend names).child file.name) text

theorem eq_of_path_fileStep {names names' : List FileName} {file file' : SnapshotFile}
    {text : String}
    (hpath : (fileStep root names file text).path = root.descend (names' ++ [file'.name])) :
    names = names' ∧ file = file' := by
  have hplace : root.descend (names ++ [file.name]) = root.descend (names' ++ [file'.name]) :=
    (root.descend_concat names file.name).trans hpath
  obtain ⟨rfl, hlast⟩ := List.append_inj' (root.descend_injective hplace) rfl
  exact ⟨rfl, SnapshotFile.name_injective (List.head_eq_of_cons_eq hlast)⟩

theorem ownSteps_eq (member : Nat) (directory : FilePath) :
    h.ownSteps member directory = .directory directory ::
      (h.members[member]?.elim [] fun m =>
        if m.isOnline then [] else [.file (directory.child Snapshot.onlineName) "0\n"]) ++
      h.nodes.filterMap fun node =>
        if node.1.1 = member then
          some (.file (directory.child (Snapshot.nodeName node.1.2)) node.2.toKeyedText)
        else none := by
  rw [ownSteps]
  cases h.members[member]? <;> rfl

theorem mem_ownSteps {names : List FileName} {member : Nat} {step : TreeStep} :
    step ∈ h.ownSteps member (root.descend names) ↔
      step = .directory (root.descend names) ∨
        ∃ file text, (file = .online ∨ ∃ queue, file = .node queue) ∧
          h.content? member file = some text ∧ step = fileStep root names file text := by
  have honline : (step ∈ h.members[member]?.elim [] fun m => if m.isOnline then [] else
        [TreeStep.file ((root.descend names).child Snapshot.onlineName) "0\n"]) ↔
      ∃ text, h.content? member .online = some text ∧
        step = fileStep root names .online text := by
    unfold content?
    cases h.members[member]? with
    | none => simp
    | some m => cases hm : m.isOnline <;> simp [hm, fileStep, SnapshotFile.name]
  have hnodes : (step ∈ h.nodes.filterMap fun node => if node.1.1 = member then
        some (TreeStep.file ((root.descend names).child (Snapshot.nodeName node.1.2))
          node.2.toKeyedText) else none) ↔
      ∃ queue text, h.content? member (.node queue) = some text ∧
        step = fileStep root names (.node queue) text := by
    simp only [List.mem_filterMap, content?, Option.map_eq_some_iff,
      Association.lookup_eq_some_iff_mem h.isBuilt.isSound.nodes]
    constructor
    · rintro ⟨⟨⟨m, queue⟩, counters⟩, hnode, hstep⟩
      split at hstep
      case isTrue hm =>
        obtain rfl := hm
        exact ⟨queue, _, ⟨counters, hnode, rfl⟩, (Option.some.inj hstep).symm⟩
      case isFalse => cases hstep
    · rintro ⟨queue, _, ⟨counters, hnode, rfl⟩, rfl⟩
      exact ⟨_, hnode, if_pos rfl⟩
  rw [ownSteps_eq, List.mem_append, List.mem_cons]
  refine (or_congr (or_congr_right honline) hnodes).trans ?_
  constructor
  · rintro ((rfl | ⟨text, hcontent, rfl⟩) | ⟨queue, text, hcontent, rfl⟩)
    · exact .inl rfl
    · exact .inr ⟨.online, text, .inl rfl, hcontent, rfl⟩
    · exact .inr ⟨.node queue, text, .inr ⟨queue, rfl⟩, hcontent, rfl⟩
  · rintro (rfl | ⟨_, text, rfl | ⟨queue, rfl⟩, hcontent, rfl⟩)
    · exact .inl (.inl rfl)
    · exact .inl (.inr ⟨text, hcontent, rfl⟩)
    · exact .inr ⟨queue, text, hcontent, rfl⟩

/-- As no two devices have the same queue, the controller of a queue is that of its device. -/
theorem readController_eq_ok (hw : h.IsWritable) {queue : Queue} {counters : ControllerCounters} :
    h.readController queue = .ok counters ↔ ∃ name, (name, ⟨queue, some counters⟩) ∈ h.devices := by
  unfold MemoryData.readController
  constructor
  · intro hread
    cases hfind : h.devices.find? fun entry => entry.2.queue = queue with
    | none => simp [hfind] at hread
    | some entry =>
      obtain ⟨name, device, controller?⟩ := entry
      obtain rfl : device = queue := by simpa using List.find?_some hfind
      cases controller? with
      | none => simp [hfind] at hread
      | some c =>
        simp only [hfind, Option.bind_some, Except.ok.injEq] at hread
        exact ⟨name, hread ▸ List.mem_of_find?_eq_some hfind⟩
  · rintro ⟨name, hmem⟩
    obtain ⟨entry, hfind⟩ : ∃ entry,
        h.devices.find? (fun entry => entry.2.queue = queue) = some entry := by
      rw [← Option.isSome_iff_exists, List.find?_isSome]
      exact ⟨_, hmem, decide_eq_true rfl⟩
    obtain rfl : entry = (name, ⟨queue, some counters⟩) := by
      refine List.inj_on_of_nodup_map hw.queues (List.mem_of_find?_eq_some hfind) hmem ?_
      simpa using List.find?_some hfind
    rw [hfind]
    rfl

theorem content?_controller (hw : h.IsWritable) {queue : Queue} {text : String} :
    h.content? 0 (.controller queue) = some text ↔
      ∃ name counters, (name, ⟨queue, some counters⟩) ∈ h.devices ∧
        counters.toKeyedText = text := by
  rw [content?, if_pos rfl, Option.map_eq_some_iff]
  constructor
  · intro hcontent
    obtain ⟨counters, hread, htext⟩ := hcontent
    obtain ⟨name, hmem⟩ := (readController_eq_ok hw).mp (Except.toOption_eq_some_iff.mp hread)
    exact ⟨name, counters, hmem, htext⟩
  · intro hdevice
    obtain ⟨name, counters, hmem, htext⟩ := hdevice
    have hread := (readController_eq_ok hw).mpr ⟨name, hmem⟩
    exact ⟨counters, Except.toOption_eq_some_iff.mpr hread, htext⟩

theorem fileStep_nil (file : SnapshotFile) (text : String) :
    fileStep root [] file text = .file (root.child file.name) text := by
  rw [fileStep, root.descend_nil]

theorem mem_deviceSteps (hw : h.IsWritable) {step : TreeStep} :
    step ∈ h.deviceSteps root ↔
      ∃ file text, (file = .devices ∨ ∃ queue, file = .controller queue) ∧
        h.content? 0 file = some text ∧ step = fileStep root [] file text := by
  rw [deviceSteps, List.mem_append, List.mem_filterMap, List.mem_singleton]
  simp only [fileStep_nil]
  constructor
  · intro hstep
    rcases hstep with ⟨⟨name, queue, controller?⟩, hmem, hstep⟩ | rfl
    · obtain ⟨counters, rfl, rfl⟩ := Option.map_eq_some_iff.mp hstep
      have hcontent := (content?_controller hw).mpr ⟨name, counters, hmem, rfl⟩
      exact ⟨.controller queue, _, .inr ⟨queue, rfl⟩, hcontent, rfl⟩
    · exact ⟨.devices, _, .inl rfl, rfl, rfl⟩
  · intro hfile
    obtain ⟨file, text, rfl | ⟨queue, rfl⟩, hcontent, rfl⟩ := hfile
    · obtain rfl := Option.some.inj hcontent
      exact .inr rfl
    · obtain ⟨name, counters, hmem, rfl⟩ := (content?_controller hw).mp hcontent
      exact .inl ⟨_, hmem, rfl⟩

theorem leads_of_mem_memberSteps (hw : h.IsWritable) {names : List FileName} {member : Nat}
    {step : TreeStep} (hleads : h.Leads names member)
    (hstep : step ∈ h.memberSteps member (root.descend names)) :
    ∃ names' member', h.Leads names' member' ∧
      step ∈ h.ownSteps member' (root.descend names') := by
  induction member using childrenOf_induct (h := h) generalizing names with
  | step member ih =>
    rw [memberSteps_eq] at hstep
    rcases List.mem_append.mp hstep with hstep | hstep
    · exact ⟨names, member, hleads, hstep⟩
    · obtain ⟨child, hchild, hstep⟩ := List.mem_flatMap.mp hstep
      obtain ⟨name, hname, -⟩ := hw.names member child hchild
      rw [directoryBelow_eq hname, ← root.descend_concat] at hstep
      exact ih child hchild (.child hleads hchild hname) hstep

theorem memberSteps_subset {names : List FileName} {member : Nat} (hleads : h.Leads names member) :
    h.memberSteps member (root.descend names) ⊆ h.memberSteps 0 root := by
  induction hleads with
  | root =>
    rw [root.descend_nil]
    exact List.Subset.refl _
  | child _ hchild hname ih =>
    intro step hstep
    refine ih ?_
    rw [memberSteps_eq]
    refine List.mem_append_right _ (List.mem_flatMap.mpr ⟨_, hchild, ?_⟩)
    rwa [directoryBelow_eq hname, ← root.descend_concat]

theorem Leads.eq_nil {names : List FileName} (hleads : h.Leads names 0) : names = [] := by
  generalize hzero : 0 = member at hleads
  cases hleads with
  | root => rfl
  | child _ hchild =>
    have := (h.lt_of_mem_childrenOf hchild).1
    omega

theorem exists_leads_of_mem_treeSteps (hw : h.IsWritable) {step : TreeStep}
    (hstep : step ∈ h.treeSteps root) :
    ∃ names member, h.Leads names member ∧ (step = .directory (root.descend names) ∨
      ∃ file text, h.content? member file = some text ∧ step = fileStep root names file text) := by
  rw [treeSteps, List.mem_append, List.mem_cons] at hstep
  rcases hstep with (rfl | hstep) | hstep
  · exact ⟨[], 0, .root, .inl (congrArg _ root.descend_nil.symm)⟩
  · obtain ⟨file, text, -, hcontent, rfl⟩ := (mem_deviceSteps hw).mp hstep
    exact ⟨[], 0, .root, .inr ⟨file, text, hcontent, rfl⟩⟩
  · rw [← root.descend_nil] at hstep
    obtain ⟨names, member, hleads, hstep⟩ := leads_of_mem_memberSteps hw .root hstep
    refine ⟨names, member, hleads, (mem_ownSteps.mp hstep).imp_right fun hfile => ?_⟩
    obtain ⟨file, text, -, hcontent, rfl⟩ := hfile
    exact ⟨file, text, hcontent, rfl⟩

theorem mem_treeSteps_of_mem_ownSteps {names : List FileName} {member : Nat}
    (hleads : h.Leads names member) {step : TreeStep}
    (hstep : step ∈ h.ownSteps member (root.descend names)) : step ∈ h.treeSteps root := by
  refine List.mem_append_right _ (memberSteps_subset hleads ?_)
  rw [memberSteps_eq]
  exact List.mem_append_left _ hstep

/-- The files of the devices are those of the root. -/
theorem eq_zero_of_content? {member : Nat} {file : SnapshotFile} {text : String}
    (hfile : file = .devices ∨ ∃ queue, file = .controller queue)
    (hcontent : h.content? member file = some text) : member = 0 := by
  by_contra hne
  rcases hfile with rfl | ⟨queue, rfl⟩
  · simp [content?, hne] at hcontent
  · simp [content?, hne] at hcontent

theorem fileStep_mem_treeSteps (hw : h.IsWritable) {names : List FileName}
    {member : Nat} (hleads : h.Leads names member) {file : SnapshotFile} {text : String}
    (hcontent : h.content? member file = some text) :
    fileStep root names file text ∈ h.treeSteps root := by
  have hown (hfile : file = .online ∨ ∃ queue, file = .node queue) :
      fileStep root names file text ∈ h.treeSteps root :=
    mem_treeSteps_of_mem_ownSteps hleads
      (mem_ownSteps.mpr (.inr ⟨file, text, hfile, hcontent, rfl⟩))
  have hdevices (hfile : file = .devices ∨ ∃ queue, file = .controller queue) :
      fileStep root names file text ∈ h.treeSteps root := by
    obtain rfl := eq_zero_of_content? hfile hcontent
    obtain rfl := hleads.eq_nil
    exact List.mem_append_left _ (List.mem_cons_of_mem _
      ((mem_deviceSteps hw).mpr ⟨file, text, hfile, hcontent, rfl⟩))
  cases file with
  | online => exact hown (.inl rfl)
  | node queue => exact hown (.inr ⟨queue, rfl⟩)
  | devices => exact hdevices (.inl rfl)
  | controller queue => exact hdevices (.inr ⟨queue, rfl⟩)
  | constants => cases hcontent

/-- What is written below a directory: the directories of members, and the files in them. -/
theorem mem_treeSteps (hw : h.IsWritable) {step : TreeStep} :
    step ∈ h.treeSteps root ↔ ∃ names member, h.Leads names member ∧
      (step = .directory (root.descend names) ∨
        ∃ file text, h.content? member file = some text ∧
          step = fileStep root names file text) := by
  refine ⟨exists_leads_of_mem_treeSteps hw, fun hstep => ?_⟩
  obtain ⟨names, member, hleads, rfl | ⟨file, text, hcontent, rfl⟩⟩ := hstep
  · exact mem_treeSteps_of_mem_ownSteps hleads (mem_ownSteps.mpr (.inl rfl))
  · exact fileStep_mem_treeSteps hw hleads hcontent

/-- Directories are made for the members. -/
theorem exists_directory_step_iff (hw : h.IsWritable)
    {inodeOf : FilePath → UInt64} {names : List FileName} :
    (∃ step ∈ h.treeSteps root, step.path = root.descend names ∧
      step.kind inodeOf = .directory) ↔ ∃ member, h.Leads names member := by
  constructor
  · intro hexists
    obtain ⟨step, hstep, hpath, hkind⟩ := hexists
    obtain ⟨names', member, hleads, rfl | ⟨file, text, -, rfl⟩⟩ := (mem_treeSteps hw).mp hstep
    · obtain rfl := root.descend_injective hpath
      exact ⟨member, hleads⟩
    · cases hkind
  · intro hexists
    obtain ⟨member, hleads⟩ := hexists
    exact ⟨_, (mem_treeSteps hw).mpr ⟨names, member, hleads, .inl rfl⟩, rfl, rfl⟩

/-- In the directory of a member, files are made for what the member has. -/
theorem exists_file_step_iff (hw : h.IsWritable) {inodeOf : FilePath → UInt64}
    {names : List FileName} {member : Nat} (hleads : h.Leads names member) (file : SnapshotFile)
    {kind : FileNode.Kind} :
    (∃ step ∈ h.treeSteps root, step.path = root.descend (names ++ [file.name]) ∧
      step.kind inodeOf = kind) ↔
        ∃ text, h.content? member file = some text ∧
          (fileStep root names file text).kind inodeOf = kind := by
  constructor
  · intro hexists
    obtain ⟨step, hstep, hpath, rfl⟩ := hexists
    obtain ⟨names', member', hleads', rfl | ⟨file', text, hcontent, rfl⟩⟩ :=
      (mem_treeSteps hw).mp hstep
    · obtain rfl := root.descend_injective hpath
      exact absurd rfl (hleads'.last_ne hw file)
    · obtain ⟨rfl, rfl⟩ := eq_of_path_fileStep hpath
      obtain rfl := hleads'.unique hw hleads
      exact ⟨text, hcontent, rfl⟩
  · intro hexists
    obtain ⟨text, hcontent, rfl⟩ := hexists
    exact ⟨_, fileStep_mem_treeSteps hw hleads hcontent,
      (root.descend_concat names file.name).symm, rfl⟩

theorem isGrounded_fileStep {names : List FileName} {done : List TreeStep} (file : SnapshotFile)
    (text : String) (hdone : .directory (root.descend names) ∈ done) :
    IsGrounded root done (fileStep root names file text) :=
  .inr ⟨names, file.name, hdone, (root.descend_concat names file.name).symm⟩

theorem grounded_memberSteps (hw : h.IsWritable) {names : List FileName}
    {member : Nat} {done : List TreeStep}
    (hground : IsGrounded root done (.directory (root.descend names))) :
    Grounded root done (h.memberSteps member (root.descend names)) := by
  induction member using childrenOf_induct (h := h) generalizing names done with
  | step member ih =>
    obtain ⟨files, hfiles⟩ : ∃ files, h.ownSteps member (root.descend names) =
        .directory (root.descend names) :: files := ⟨_, rfl⟩
    rw [memberSteps_eq]
    refine Grounded.append ?_ (Grounded.flatMap fun child hchild => ?_)
    · rw [hfiles]
      refine ⟨hground, Grounded.of_forall fun step hstep => ?_⟩
      have hmem : step ∈ h.ownSteps member (root.descend names) :=
        hfiles ▸ List.mem_cons_of_mem _ hstep
      rcases mem_ownSteps.mp hmem with rfl | ⟨file, text, -, -, rfl⟩
      · exact hground.mono (List.subset_cons_self _ done)
      · exact isGrounded_fileStep file text List.mem_cons_self
    · obtain ⟨name, hname, -⟩ := hw.names member child hchild
      rw [directoryBelow_eq hname, ← root.descend_concat]
      refine ih child hchild (.inr ⟨names, name, List.mem_append_left _ ?_, rfl⟩)
      exact mem_ownSteps.mpr (.inl rfl)

theorem grounded_treeSteps (hw : h.IsWritable) :
    Grounded root [] (h.treeSteps root) := by
  refine Grounded.append ⟨.inl rfl, Grounded.of_forall fun step hstep => ?_⟩ ?_
  · obtain ⟨file, text, -, -, rfl⟩ := (mem_deviceSteps hw).mp hstep
    refine isGrounded_fileStep file text ?_
    rw [root.descend_nil]
    exact List.mem_singleton_self _
  · have hroot : IsGrounded root (.directory root :: h.deviceSteps root ++ [])
        (.directory (root.descend [])) := .inl (congrArg _ root.descend_nil)
    have hground : Grounded root (.directory root :: h.deviceSteps root ++ [])
        (h.memberSteps 0 (root.descend [])) := grounded_memberSteps hw hroot
    rwa [root.descend_nil] at hground

theorem consistent_treeSteps (hw : h.IsWritable) :
    Consistent (h.treeSteps root) := by
  intro step hstep other hother hpath
  obtain ⟨names, member, hleads, hstep⟩ := (mem_treeSteps hw).mp hstep
  obtain ⟨names', member', hleads', hother⟩ := (mem_treeSteps hw).mp hother
  -- The last name of a member's directory is not that of a file.
  have hne {a b : List FileName} {m : Nat} {file : SnapshotFile} (ha : h.Leads a m) :
      root.descend a ≠ (root.descend b).child file.name := by
    rw [← root.descend_concat]
    intro heq
    obtain rfl := root.descend_injective heq
    exact ha.last_ne hw file rfl
  rcases hstep with rfl | ⟨file, text, hcontent, rfl⟩ <;>
    rcases hother with rfl | ⟨file', text', hcontent', rfl⟩
  · exact congrArg TreeStep.directory hpath
  · exact absurd hpath (hne hleads)
  · exact absurd hpath.symm (hne hleads')
  · obtain ⟨rfl, rfl⟩ :=
      eq_of_path_fileStep (hpath.trans (root.descend_concat names' file'.name).symm)
    obtain rfl := hleads.unique hw hleads'
    rw [Option.some.inj (hcontent.symm.trans hcontent')]

end Iocost.MemoryHierarchy
