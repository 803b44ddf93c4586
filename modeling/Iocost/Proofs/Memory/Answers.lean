import Iocost.Memory.Tree
import Iocost.Proofs.Memory.Sorted
import Iocost.Proofs.Memory.Written
import Iocost.Proofs.Snapshot.Reading

/-!
# What the snapshot of a hierarchy answers

Once a hierarchy is written (`IsWrittenAt`), its snapshot is asked about a member by the path of
that member's directory, and answers what the hierarchy itself does.
-/

namespace Iocost.MemoryHierarchy

variable {h : MemoryHierarchy}

/-! ## Members of a hierarchy that is sound -/

theorem member_eq_ok (hw : h.IsWritable) {member : Nat} {m : MemoryMember}
    (hm : h.members[member]? = some m) : h.member member = .ok m := by
  have hhealthy := hw.healthy m (List.mem_of_getElem? hm)
  simp only [MemoryData.member, hm, hhealthy, Bool.false_eq_true, ↓reduceIte]

theorem nameOf_root (h : MemoryHierarchy) : h.nameOf 0 = "" := by
  rw [nameOf, h.isBuilt.isSound.root, Option.getD_some]

theorem devicesText_eq (h : MemoryHierarchy) :
    h.devicesText = String.ofList
      (keyedLines (h.devices.map fun device => (device.1, counterText device.2.queue))) := by
  refine String.toList_injective ?_
  rw [String.toList_ofList, devicesText, String.toList_join, keyedLines, List.flatMap_map,
    List.flatMap_map]
  refine List.flatMap_congr fun device _ => ?_
  simp only [String.toList_append, Nat.toString_eq_ofList_toDigits, String.toList_ofList, keyedLine,
    counterText, List.append_assoc]
  rfl

theorem arePairs_devices (hw : h.IsWritable) :
    ArePairs (h.devices.map fun device => (device.1, counterText device.2.queue)) := by
  intro pair hpair
  obtain ⟨device, hdevice, rfl⟩ := List.mem_map.mp hpair
  exact ⟨hw.deviceNames device hdevice, isValue_counterText _⟩

theorem optional_devicesText (hw : h.IsWritable) (path device : String) :
    (KeyedText.parse path h.devicesText).optional Text.readUnsigned? device =
      .ok ((h.devices.lookup device).map MemoryDevice.queue) := by
  have hkeys : (h.devices.map fun device => (device.1, counterText device.2.queue)).map Prod.fst =
      h.devices.map Prod.fst := by
    rw [List.map_map]
    rfl
  rw [devicesText_eq]
  cases hlookup : h.devices.lookup device with
  | none =>
    rw [Association.lookup_eq_none_iff_not_mem, ← hkeys] at hlookup
    exact KeyedText.optional_of_lookup?_eq_none
      (KeyedText.lookup?_parse_of_not_mem path (arePairs_devices hw) hlookup)
  | some d =>
    rw [Association.lookup_eq_some_iff_mem h.isBuilt.isSound.devices] at hlookup
    exact KeyedText.optional_of_lookup?
      (KeyedText.lookup?_parse path (arePairs_devices hw) (hkeys ▸ h.isBuilt.isSound.devices)
        (List.mem_map.mpr ⟨_, hlookup, rfl⟩))
      (Text.readUnsigned?_counterText d.queue)

theorem toOption_readController (hw : h.IsWritable) {device : String}
    {d : MemoryDevice} (hlookup : h.devices.lookup device = some d) :
    (h.readController d.queue).toOption = d.controller? := by
  rw [Association.lookup_eq_some_iff_mem h.isBuilt.isSound.devices] at hlookup
  obtain ⟨queue, controller?⟩ := d
  cases controller? with
  | some counters =>
    exact Except.toOption_eq_some_iff.mpr ((readController_eq_ok hw).mpr ⟨device, hlookup⟩)
  | none =>
    refine Option.eq_none_iff_forall_ne_some.mpr fun counters hread => ?_
    obtain ⟨name, hmem⟩ := (readController_eq_ok hw).mp (Except.toOption_eq_some_iff.mp hread)
    cases List.inj_on_of_nodup_map hw.queues hlookup hmem rfl

/-- A device that is found has a controller, which can be read. -/
theorem exists_readController_of_resolve (hw : h.IsWritable) {device : String}
    {binding : Binding Nat Queue} (hresolve : h.resolve device = .ok binding) :
    binding = ⟨0, binding.queue, binding.queue⟩ ∧
      ∃ counters, h.readController binding.queue = .ok counters := by
  unfold MemoryData.resolve at hresolve
  cases hlookup : h.devices.lookup device with
  | none =>
    rw [hlookup] at hresolve
    cases hresolve
  | some d =>
    have hread := toOption_readController hw hlookup
    rw [hlookup] at hresolve
    cases hcontroller : d.controller? with
    | none => simp [hcontroller] at hresolve
    | some counters =>
      simp only [hcontroller, Option.isSome_some, ↓reduceIte, Except.ok.injEq] at hresolve
      subst hresolve
      exact ⟨rfl, counters, Except.toOption_eq_some_iff.mp (hread.trans hcontroller)⟩

/-! ## What is read in the snapshot -/

/-- The snapshot of a hierarchy, opened. -/
def snapshot (root : FilePath) : Snapshot := ⟨root, {}⟩

/-- The binding of a device in a snapshot, for that in the hierarchy. -/
def snapshotBinding (root : FilePath) (binding : Binding Nat Queue) :
    Binding FilePath FilePath where
  root := root
  queue := binding.queue
  controller := root.child (Snapshot.controllerName binding.queue)

/-- The path is that of the directory of a member. -/
def IsDirectoryOf (h : MemoryHierarchy) (root : FilePath) (member : Nat) (path : FilePath) : Prop :=
  ∃ names, h.Leads names member ∧ path = root.descend names

/-- The path is that of the file of a node. -/
def IsFileOf (h : MemoryHierarchy) (root : FilePath) (node : Nat × Queue) (path : FilePath) :
    Prop :=
  (∃ counters, h.nodes.lookup node = some counters) ∧
    ∃ names, h.Leads names node.1 ∧ path = (root.descend names).child (Snapshot.nodeName node.2)

namespace IsWrittenAt

variable {root : FilePath} {inodeOf : FilePath → UInt64} {t : FileTree} {loc : Location}
  {names : List FileName} {member : Nat} (hwritten : h.IsWrittenAt root inodeOf t loc)
  (hfits : h.Fits root)

include hwritten hfits

theorem ofDirectory_eq : Snapshot.ofDirectory t root = .ok (snapshot root) := by
  have hread := hwritten.readText_of_content?_none hfits .root
    (show h.content? 0 .constants = none from rfl)
  rw [root.descend_nil] at hread
  rw [Snapshot.ofDirectory]
  simp only [SnapshotFile.name] at hread
  simp only [hread]
  rfl

theorem inode?_controller (hw : h.IsWritable) {device : String} {d : MemoryDevice}
    (hlookup : h.devices.lookup device = some d) :
    t.inode? (root.child (Snapshot.controllerName d.queue)) =
      if d.controller?.isSome then
        .ok (some (inodeOf (root.child (Snapshot.controllerName d.queue))))
      else .error .notFound := by
  have hcontent : h.content? 0 (.controller d.queue) =
      d.controller?.map ControllerCounters.toKeyedText := by
    rw [content?, if_pos rfl, toOption_readController hw hlookup]
  cases hcontroller : d.controller? with
  | none =>
    rw [hcontroller] at hcontent
    have hinode := hwritten.inode?_of_content?_none hfits .root hcontent
    rwa [root.descend_nil] at hinode
  | some counters =>
    rw [hcontroller] at hcontent
    have hinode := hwritten.inode?_of_content? hfits .root hcontent
    rwa [root.descend_nil] at hinode

/-- A device is found with the same queue, or not for the same reason. -/
theorem resolve_eq (hw : h.IsWritable) (device : String) :
    (snapshot root).resolve t device = (h.resolve device).map (snapshotBinding root) := by
  have hread := hwritten.readText_of_content? hfits .root
    (show h.content? 0 .devices = some h.devicesText from rfl)
  rw [root.descend_nil] at hread
  have hkeyed : Snapshot.keyedText t (root.child Snapshot.devicesName) =
      .ok (.parse (root.child Snapshot.devicesName).shown h.devicesText) := by
    rw [Snapshot.keyedText, show Snapshot.devicesName = SnapshotFile.devices.name from rfl, hread]
    rfl
  simp only [Snapshot.resolve, snapshot, hkeyed, optional_devicesText hw, bind, Except.bind]
  rw [MemoryData.resolve]
  cases hlookup : h.devices.lookup device with
  | none => rfl
  | some d =>
    simp only [Option.map_some, hwritten.inode?_controller hfits hw hlookup]
    cases d.controller? with
    | none => rfl
    | some counters => rfl

theorem readController_eq {queue : Queue} {counters : ControllerCounters}
    (hread : h.readController queue = .ok counters) :
    Snapshot.readController t (root.child (Snapshot.controllerName queue)) = .ok counters := by
  have hcontent : h.content? 0 (.controller queue) = some counters.toKeyedText := by
    rw [content?, if_pos rfl, hread]
    rfl
  have htext := hwritten.readText_of_content? hfits .root hcontent
  rw [root.descend_nil, SnapshotFile.name] at htext
  exact Snapshot.readController_of_readText htext

theorem isOnline_eq (hleads : h.Leads names member) {m : MemoryMember}
    (hm : h.members[member]? = some m) :
    Snapshot.isOnline t (root.descend names) = .ok m.isOnline := by
  cases honline : m.isOnline with
  | true =>
    have hcontent : h.content? member .online = none := by
      simp [content?, hm, honline]
    have htext := hwritten.readText_of_content?_none hfits hleads hcontent
    rw [SnapshotFile.name] at htext
    simp only [Snapshot.isOnline, htext]
  | false =>
    have hcontent : h.content? member .online = some "0\n" := by
      simp [content?, hm, honline]
    have htext := hwritten.readText_of_content? hfits hleads hcontent
    rw [SnapshotFile.name] at htext
    have hzero : Text.readSingle? "0\n".toList = some 0 := by decide
    simp only [Snapshot.isOnline, htext, hzero]
    rfl

theorem node?_eq (hleads : h.Leads names member) (queue : Queue) :
    Snapshot.node? t (root.descend names) queue = .ok ((h.nodes.lookup (member, queue)).map fun _ =>
      (root.descend names).child (Snapshot.nodeName queue)) := by
  cases hlookup : h.nodes.lookup (member, queue) with
  | none =>
    have hcontent : h.content? member (.node queue) = none := by rw [content?, hlookup]; rfl
    have hinode := hwritten.inode?_of_content?_none hfits hleads hcontent
    rw [SnapshotFile.name] at hinode
    simp only [Snapshot.node?, hinode]
    rfl
  | some counters =>
    have hcontent : h.content? member (.node queue) = some counters.toKeyedText := by
      rw [content?, hlookup]
      rfl
    have hinode := hwritten.inode?_of_content? hfits hleads hcontent
    rw [SnapshotFile.name] at hinode
    simp only [Snapshot.node?, hinode]
    rfl

/-- The counters of a node are read back; what tells it from others is the number of its file. -/
theorem readNode_eq (hw : h.IsWritable) (hleads : h.Leads names member) {queue : Queue}
    {counters : NodeCounters} (hlookup : h.nodes.lookup (member, queue) = some counters) :
    (snapshot root).readNode t ((root.descend names).child (Snapshot.nodeName queue)) =
      .ok { counters with
        id := inodeOf ((root.descend names).child (Snapshot.nodeName queue)) } := by
  have hcontent : h.content? member (.node queue) = some counters.toKeyedText := by
    rw [content?, hlookup]
    rfl
  have htext := hwritten.readText_of_content? hfits hleads hcontent
  have hinode := hwritten.inode?_of_content? hfits hleads hcontent
  have hslots : counters.usages.length = (snapshot root).constants.usageSlots.toNat := by
    obtain ⟨_, _, hsplit, -⟩ := List.lookup_eq_some_iff.mp hlookup
    exact hw.slots (_, counters) (hsplit ▸ List.mem_append_right _ List.mem_cons_self)
  rw [SnapshotFile.name] at htext hinode
  exact Snapshot.readNode_of_readText hinode hslots htext

/-- The members below a member are found by the order of their names. -/
theorem forall₂_children (hw : h.IsWritable) (hleads : h.Leads names member) :
    List.Forall₂ (h.IsDirectoryOf root) (h.sortByName (h.childrenOf member))
      (((snapshot root).hierarchy t).childList (root.descend names)) := by
  obtain ⟨below, hbelow, hsorted, hmem⟩ := FileTree.exists_subdirectories hwritten.locate
    ((hwritten.directory names).mpr ⟨member, hleads⟩) (hfits.length_le hleads)
  have hchildren : ((snapshot root).hierarchy t).childList (root.descend names) =
      below.map (root.descend names).child := by
    simp only [Hierarchy.childList, Snapshot.hierarchy, Snapshot.children, hbelow,
      Snapshot.reading, Except.map]
  have hnames (name : FileName) : name ∈ below ↔
      ∃ child ∈ h.childrenOf member, name.bytes = Text.encode (h.nameOf child) := by
    rw [hmem, hwritten.directory]
    exact exists_congr fun child => hleads.concat_iff hw
  have hbytes (bytes : List UInt8) : (∃ name ∈ below, name.bytes = bytes) ↔
      ∃ child ∈ h.childrenOf member, Text.encode (h.nameOf child) = bytes := by
    constructor
    · rintro ⟨name, hname, rfl⟩
      obtain ⟨child, hchild, heq⟩ := (hnames name).mp hname
      exact ⟨child, hchild, heq.symm⟩
    · rintro ⟨child, hchild, rfl⟩
      obtain ⟨name, hname, -⟩ := hw.names member child hchild
      exact ⟨name, (hnames name).mpr ⟨child, hchild, hname⟩, hname⟩
  rw [hchildren, List.forall₂_map_right_iff]
  refine (forall₂_sortByName (hw.siblings member) hsorted hbytes).imp ?_
  rintro child name ⟨hchild, hname⟩
  exact ⟨names ++ [name], .child hleads hchild hname, (root.descend_concat names name).symm⟩

end IsWrittenAt

/-- The directory of a member has its name. -/
theorem memberName_eq (root : FilePath) {names : List FileName} {member : Nat}
    (hleads : h.Leads names member) :
    (snapshot root).memberName (root.descend names) = .ok (h.nameOf member) := by
  unfold Snapshot.memberName
  cases hleads with
  | root =>
    have hsame : root.isSame (snapshot root).root = true := root.isSame_refl
    rw [root.descend_nil, if_pos hsame, nameOf_root h]
  | @child names _ _ name _ _ hname =>
    have hsame : ¬(root.descend (names ++ [name])).isSame (snapshot root).root = true :=
      Bool.eq_false_iff.mp (root.isSame_descend_concat names name)
    rw [if_neg hsame, root.descend_concat, FilePath.lastPart?_child, hname]
    simp only [Option.bind_some, Text.decode?_encode]

end Iocost.MemoryHierarchy
