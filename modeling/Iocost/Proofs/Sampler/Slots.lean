import Iocost.Proofs.Record.Node
import Iocost.Proofs.Record.RoundTrip
import Iocost.Proofs.Snapshot.Devices
import Iocost.Proofs.Snapshot.Differing
import Iocost.Proofs.Snapshot.Reading
import Iocost.Proofs.Snapshot.Slots
import Iocost.Proofs.Stats.History

/-!
# Samples have one number of slots

The counters of a node are read only from a file with as many slots as the constants say, and
deriving statistics keeps their number. So all rows of a sample have the same number of usages, and
their records the same keys. A node whose file has another number of slots has no row, and a sample
is the same without it (`Sampler.sample_withoutNodes`, `Snapshot.sample_eq_of_differsAtFile`).
-/

namespace Iocost

theorem NodeStats.length_usages_derive (raw : NodeCounters) (controller : ControllerCounters)
    (constants : Constants) :
    (derive raw controller constants).usages.length = raw.usages.length := by
  simp only [derive, List.length_map, length_ringInOrder]

/-- The records of rows with that many usages have the same keys. -/
theorem Sample.keys_of_lines {sample : Sample} {slots : Nat}
    (h : ∀ row ∈ sample.rows, row.stats.usages.length = slots) :
    ∃ first lines, Text.pieces (· == 10) (Text.encode (sample.text .json)) =
        first :: (lines ++ [[]]) ∧
      lines.length = sample.rows.length ∧
      ∀ line ∈ lines, ∃ record, Record.ofBytes? line = some record ∧
        record.keys =
          Record.nodeKeys ++ (List.range slots).map fun slot => "usage_pct_" ++ toString slot := by
  refine ⟨_, _, sample.pieces_encode_text_json, ?_, ?_⟩
  · rw [List.length_map, List.length_map]
  · intro line hline
    obtain ⟨record, hrecord, rfl⟩ := List.mem_map.mp hline
    obtain ⟨row, hrow, rfl⟩ := List.mem_map.mp hrecord
    refine ⟨_, Record.ofBytes?_lineBytes _, ?_⟩
    rw [Record.keys_ofNode, h row hrow, List.map_congr_left fun slot _ => Record.usageKey_eq slot]

/-! ## Nodes that are left out -/

namespace Source

variable {Member Node Controller : Type}

/-- The source in which the nodes that are gone are missing. -/
def withoutNodes (source : Source Member Node Controller) (gone : Node → Prop)
    [DecidablePred gone] : Source Member Node Controller where
  name := source.name
  isOnline := source.isOnline
  children := source.children
  node? member queue :=
    (source.node? member queue).map fun node? => node?.filter fun node => decide (¬gone node)
  constants := source.constants
  resolve := source.resolve
  readController := source.readController
  readNode := source.readNode
  descends := source.descends

variable (source : Source Member Node Controller) (gone : Node → Prop) [DecidablePred gone]

theorem ownEntry_withoutNodes {queue : Queue} {includeDying : Bool} (member : Member)
    (path : String) :
    (source.withoutNodes gone).ownEntry queue includeDying member path =
      (source.ownEntry queue includeDying member path).filter fun entry =>
        decide (¬gone entry.node) := by
  have hvisible : (source.withoutNodes gone).isVisible includeDying member =
      source.isVisible includeDying member := rfl
  have hnode : ((source.withoutNodes gone).node? member queue).toOption.join =
      (source.node? member queue).toOption.join.filter fun node => decide (¬gone node) := by
    simp only [withoutNodes]
    cases source.node? member queue <;> rfl
  rw [Hierarchy.ownEntry_eq, Hierarchy.ownEntry_eq, hvisible, hnode]
  cases source.isVisible includeDying member with
  | false => rfl
  | true =>
    cases (source.node? member queue).toOption.join with
    | none => rfl
    | some node =>
      by_cases hgone : gone node <;> simp [hgone]

theorem walk_withoutNodes (root : Member) (queue : Queue) (includeDying : Bool) :
    (source.withoutNodes gone).walk root queue includeDying =
      (source.walk root queue includeDying).filter fun entry => decide (¬gone entry.node) := by
  -- no member is lost: names and children do not depend on nodes
  have hprunes : source.Prunes (source.withoutNodes gone).toHierarchy fun _ => True :=
    ⟨fun _ => rfl, fun _ => rfl, fun _ _ => .inl trivial⟩
  have hmembers : (source.withoutNodes gone).members root = source.members root := by
    rw [members_eq_filter hprunes (.inl trivial)]
    exact List.filter_eq_self.mpr fun _ _ => rfl
  rw [walk, walk, Hierarchy.walk_eq_listing, Hierarchy.walk_eq_listing,
    Hierarchy.listing_eq_flatMap_preorder, Hierarchy.listing_eq_flatMap_preorder,
    List.filter_flatMap]
  change ((source.withoutNodes gone).members root).flatMap _ = (source.members root).flatMap _
  rw [hmembers]
  exact List.flatMap_congr fun m _ => source.ownEntry_withoutNodes gone m.1 m.2

end Source

namespace Sampler

variable {Member Node Controller : Type} {s : Sampler Member Controller}
  {source : Source Member Node Controller}

/-- Nodes that cannot be read may as well be missing. -/
theorem sample_withoutNodes {gone : Node → Prop} [DecidablePred gone]
    (h : ∀ node, gone node → ∃ f, source.readNode node = .error f) (timestamp : Binary64) :
    s.sample (source.withoutNodes gone) timestamp = s.sample source timestamp := by
  have hrows (controller : ControllerCounters) :
      (s.entries (source.withoutNodes gone)).filterMap
          (s.row? (source.withoutNodes gone) controller) =
        (s.entries source).filterMap (s.row? source controller) := by
    rw [entries, entries, Source.walk_withoutNodes, List.filterMap_filter]
    refine List.filterMap_congr fun entry _ => ?_
    by_cases hgone : gone entry.node
    · obtain ⟨f, hf⟩ := h entry.node hgone
      simp [hgone, row?, hf]
    · rw [if_pos (decide_eq_true hgone)]
      rfl
  have hread : (source.withoutNodes gone).readController = source.readController := rfl
  have hconstants : (source.withoutNodes gone).constants = source.constants := rfl
  simp only [sample, hrows, hread, hconstants]

end Sampler

namespace Snapshot

variable {snapshot : Snapshot} {opened files files' : FileTree} {settings : Settings}
  {s : Sampler FilePath FilePath}
  (hsampler : Sampler.ofSettings (snapshot.source opened) settings = .ok s)

include hsampler

theorem exists_holdsSlots_of_mem_memberRows {row : FilePath × Row}
    (hrow : row ∈ s.memberRows (snapshot.source files)) :
    ∃ names, (∀ n ∈ names, n.IsText) ∧ row.1 = snapshot.root.descend names ∧
      row.2.path = shownPath (pathText names) ∧
      files.HoldsSlots ((snapshot.root.descend names).child (nodeName s.binding.queue))
        snapshot.constants.usageSlots.toNat ∧
      row.2.stats.usages.length = snapshot.constants.usageSlots.toNat := by
  obtain ⟨binding, hbinding, rfl⟩ := Except.exists_of_map_eq_ok hsampler
  obtain ⟨entry, hentry, controller, counters, hread, rfl⟩ :=
    Sampler.exists_entry_of_mem_memberRows hrow
  rw [Sampler.entries, (eq_of_resolve hbinding).1] at hentry
  obtain ⟨names, rfl, htexts⟩ := exists_names_of_mem_walk hentry
  obtain ⟨hslots, hlength⟩ := holdsSlots_of_readNode hread
  exact ⟨names, htexts, rfl, (shownPath_pathText htexts).symm, hslots,
    (NodeStats.length_usages_derive _ _ _).trans hlength⟩

/-- A member whose node has another number of slots has no row. -/
theorem filter_memberRows_eq_self_of_not_holdsSlots {names : List FileName}
    (h : ¬files.HoldsSlots ((snapshot.root.descend names).child (nodeName s.binding.queue))
      snapshot.constants.usageSlots.toNat) :
    ((s.memberRows (snapshot.source files)).filter fun row =>
      decide (row.1 ≠ snapshot.root.descend names)) = s.memberRows (snapshot.source files) := by
  refine List.filter_eq_self.mpr fun row hrow => decide_eq_true fun heq => h ?_
  obtain ⟨names', -, hmember, -, hslots, -⟩ := exists_holdsSlots_of_mem_memberRows hsampler hrow
  obtain rfl := snapshot.root.descend_injective (hmember.symm.trans heq)
  exact hslots

/-- Whatever becomes of the file of a node, a sample is the same as long as the file has another
number of slots. -/
theorem sample_eq_of_differsAtFile {loc : Location} {names : List FileName} {timestamp : Binary64}
    {sample : Sample} (hlinks : files.HasNoLinks loc) (hroot : files.LeadsTo snapshot.root loc)
    (hdiffers : files.DiffersAtFile files' (loc ++ names ++ [nodeName s.binding.queue]))
    (hslots : ∀ t ∈ [files, files'],
      ¬t.HoldsSlots ((snapshot.root.descend names).child (nodeName s.binding.queue))
        snapshot.constants.usageSlots.toNat)
    (hsample : s.sample (snapshot.source files) timestamp = .ok sample) :
    s.sample (snapshot.source files') timestamp = .ok sample := by
  have hcontroller : (snapshot.source files').readController s.binding.controller =
      (snapshot.source files).readController s.binding.controller := by
    obtain ⟨binding, hbinding, rfl⟩ := Except.exists_of_map_eq_ok hsampler
    obtain ⟨-, queue', hcontroller⟩ := eq_of_resolve hbinding
    simp only [hcontroller]
    exact readController_eq hlinks hroot hdiffers queue'
  -- neither tree has a row of the member, so the rows of the others are all rows
  have hrows := filter_memberRows_eq hlinks hroot hdiffers hsampler
  rw [filter_memberRows_eq_self_of_not_holdsSlots hsampler (hslots files List.mem_cons_self),
    filter_memberRows_eq_self_of_not_holdsSlots hsampler
      (hslots files' (List.mem_cons_of_mem _ List.mem_cons_self))] at hrows
  have hsame : s.sample (snapshot.source files') timestamp =
      .ok { sample with rows := (s.memberRows (snapshot.source files')).map Prod.snd } :=
    Sampler.sample_eq_with_rows hsample rfl hcontroller
  rw [hsame, hrows, ← (Sampler.sample_eq_ok hsample).2]

end Snapshot

/-- **One number of slots.** A snapshot has the number of slots that its constants say, 8 unless
they say another one, and each row of a sample has that many usages; so the records of all rows have
the same keys. A file with another number of slots gives no row, and takes none away: a sample is
the same if such nodes are missing, and, without links, if such a file is removed. -/
theorem usage_slots_agree {opened bound files : FileTree} {root : FilePath} {snapshot : Snapshot}
    {settings : Settings} {s : Sampler FilePath FilePath} {timestamp : Binary64} {sample : Sample}
    (hopen : Snapshot.ofDirectory opened root = .ok snapshot)
    (hsampler : Sampler.ofSettings (snapshot.source bound) settings = .ok s)
    (hsample : s.sample (snapshot.source files) timestamp = .ok sample) :
    let slots := snapshot.constants.usageSlots.toNat
    let nodeFile (names : List FileName) :=
      (snapshot.root.descend names).child (Snapshot.nodeName s.binding.queue)
    ((opened.readText (root.child Snapshot.constantsName) = .error .notFound ∧
        snapshot.constants.usageSlots = 8) ∨
      ∃ content, opened.readText (root.child Snapshot.constantsName) = .ok content ∧
        ((¬KeyedText.IsDefined content "nr_usage_slots" ∧ snapshot.constants.usageSlots = 8) ∨
          ∃ value, KeyedText.LastDefines content "nr_usage_slots" value ∧
            Text.readUnsigned? value.toList = some snapshot.constants.usageSlots)) ∧
    (∀ row ∈ sample.rows, row.stats.usages.length = slots) ∧
    (∃ first lines, Text.pieces (· == 10) (Text.encode (sample.text .json)) =
        first :: (lines ++ [[]]) ∧
      lines.length = sample.rows.length ∧
      ∀ line ∈ lines, ∃ record, Record.ofBytes? line = some record ∧
        record.keys =
          Record.nodeKeys ++ (List.range slots).map fun slot => "usage_pct_" ++ toString slot) ∧
    (∀ names, (∀ n ∈ names, n.IsText) → ¬files.HoldsSlots (nodeFile names) slots →
      ∀ row ∈ sample.rows, row.path ≠ shownPath (pathText names)) ∧
    (∀ (gone : FilePath → Prop) [DecidablePred gone],
      (∀ path, gone path → ¬files.HoldsSlots path slots) →
      s.sample ((snapshot.source files).withoutNodes gone) timestamp = .ok sample) ∧
    ∀ (loc : Location) (names : List FileName) (inode : UInt64) (content : List UInt8),
      files.LeadsTo snapshot.root loc → files.HasNoLinks loc →
      files.kind? (loc ++ names ++ [Snapshot.nodeName s.binding.queue]) =
        some (.file inode content) →
      ¬files.HoldsSlots (nodeFile names) slots →
      ∃ files', files.remove (nodeFile names).bytes = .ok files' ∧
        s.sample (snapshot.source files') timestamp = .ok sample := by
  intro slots nodeFile
  have hrow : ∀ row ∈ sample.rows, ∃ names, (∀ n ∈ names, n.IsText) ∧
      row.path = shownPath (pathText names) ∧ files.HoldsSlots (nodeFile names) slots ∧
      row.stats.usages.length = slots := by
    intro row hrow
    rw [(Sampler.sample_eq_ok hsample).2] at hrow
    obtain ⟨⟨member, row⟩, hmem, rfl⟩ := List.mem_map.mp hrow
    obtain ⟨names, htexts, -, hpath, hslots, hlength⟩ :=
      Snapshot.exists_holdsSlots_of_mem_memberRows hsampler hmem
    exact ⟨names, htexts, hpath, hslots, hlength⟩
  have hlength : ∀ row ∈ sample.rows, row.stats.usages.length = slots := by
    intro row hmem
    obtain ⟨_, -, -, -, hlength⟩ := hrow row hmem
    exact hlength
  refine ⟨Snapshot.usageSlots_of_ofDirectory hopen, hlength, Sample.keys_of_lines hlength, ?_, ?_,
    ?_⟩
  · intro names htexts hslots row hmem hpath
    obtain ⟨names', htexts', hpath', hslots', -⟩ := hrow row hmem
    obtain rfl := shownPath_pathText_inj htexts htexts' (hpath.symm.trans hpath')
    exact hslots hslots'
  · intro gone _ hgone
    rw [← hsample]
    refine Sampler.sample_withoutNodes (fun path hpath => ?_) timestamp
    cases hread : (snapshot.source files).readNode path with
    | error f => exact ⟨f, rfl⟩
    | ok n => exact absurd (Snapshot.holdsSlots_of_readNode hread).1 (hgone path hpath)
  · intro loc names inode content hroot hlinks hfile hslots
    have hdir := FileTree.kind?_directory_of_kind?_file hfile
    have hleads := hroot.descend_of_kind? hdir nofun
    obtain ⟨files', hremove, hdiffers, hnone⟩ := FileTree.exists_remove_differsAtFile hleads hfile
    refine ⟨files', hremove, Snapshot.sample_eq_of_differsAtFile hsampler hlinks hroot hdiffers ?_
      hsample⟩
    have hslots' : ¬files'.HoldsSlots (nodeFile names) slots := by
      rintro ⟨text, -, hread, -⟩
      exact FileTree.readText_child_ne_ok (hdiffers.leadsTo hleads hdir)
        (hdiffers.directory_iff.mpr hdir) hnone text hread
    exact List.forall_mem_cons.mpr ⟨hslots, List.forall_mem_singleton.mpr hslots'⟩

namespace NoSlots

/-- A usage history with a slot, where the constants say that there are none. -/
def text : String := "active_list 1\nusages 5\n"

def name : FileName := ⟨Text.encode "slot", by decide⟩

/-- A node without slots for the root, and that other one for a directory in it. -/
def entries : List (FileName × FileNode) :=
  [(Snapshot.constantsName, .file 1 (Text.encode "nr_usage_slots 0\n")),
    (Snapshot.devicesName, .file 2 (Text.encode "sda 7\n")),
    (Snapshot.controllerName 7, .file 3 (Text.encode ({} : ControllerCounters).toKeyedText)),
    (Snapshot.nodeName 7, .file 4 (Text.encode ({ isActive := true } : NodeCounters).toKeyedText)),
    (name, .directory [(Snapshot.nodeName 7, .file 5 (Text.encode text))])]

def files : FileTree where
  top := .directory entries

def snapshot : Snapshot := ⟨.ofString "/", { usageSlots := 0 }⟩

def settings : Settings := ⟨"sda", ⟨none⟩, .ofParts 1 0, .json, true⟩

def sampler : Sampler FilePath FilePath :=
  ⟨settings, snapshot.root, 7, snapshot.root.child (Snapshot.controllerName 7)⟩

theorem locate_root : files.locate snapshot.root = .ok [] := FileTree.locate_slash rfl

theorem ofDirectory_eq : Snapshot.ofDirectory files snapshot.root = .ok snapshot := by
  have hkind : files.kind? ([] ++ [Snapshot.constantsName]) =
      some (.file 1 (Text.encode "nr_usage_slots 0\n")) := rfl
  have hread : files.readText (snapshot.root.child Snapshot.constantsName) =
      .ok "nr_usage_slots 0\n" :=
    FileTree.readText_of_kind?_file locate_root hkind (by decide) rfl
  simp only [Snapshot.ofDirectory, hread]
  rfl

theorem ofSettings_eq : Sampler.ofSettings (snapshot.source files) settings = .ok sampler := by
  have hkind : files.kind? ([] ++ [Snapshot.devicesName]) =
      some (.file 2 (Text.encode "sda 7\n")) := rfl
  have hread : files.readText (snapshot.root.child Snapshot.devicesName) = .ok "sda 7\n" :=
    FileTree.readText_of_kind?_file locate_root hkind (by decide) rfl
  have hkind' : files.kind? ([] ++ [Snapshot.controllerName 7]) =
      some (.file 3 (Text.encode ({} : ControllerCounters).toKeyedText)) := rfl
  have hinode : files.inode? (snapshot.root.child (Snapshot.controllerName 7)) = .ok (some 3) :=
    FileTree.inode?_of_kind?_file locate_root hkind' (by decide)
  have hresolve : snapshot.resolve files "sda" = .ok sampler.binding :=
    Snapshot.resolve_of_inode? hread rfl hinode
  exact congrArg (Except.map fun binding => (⟨settings, binding⟩ : Sampler FilePath FilePath))
    hresolve

theorem readController_eq :
    (snapshot.source files).readController sampler.binding.controller = .ok {} := by
  have hkind : files.kind? ([] ++ [Snapshot.controllerName 7]) =
      some (.file 3 (Text.encode ({} : ControllerCounters).toKeyedText)) := rfl
  exact Snapshot.readController_of_readText
    (FileTree.readText_of_kind?_file locate_root hkind (by decide) rfl)

theorem hasNoLinks : files.HasNoLinks [] := by
  refine FileTree.IsLinkFree.hasNoLinks (.directory ?_)
  simp only [entries, List.forall_mem_cons]
  refine ⟨.file _ _, .file _ _, .file _ _, .file _ _, .directory ?_, nofun⟩
  exact List.forall_mem_singleton.mpr (.file _ _)

/-- The node with a slot. -/
def nodeFile : FilePath := (snapshot.root.descend [name]).child (Snapshot.nodeName 7)

theorem not_holdsSlots : ¬files.HoldsSlots nodeFile 0 := by
  have hkind : files.kind? ([] ++ [name, Snapshot.nodeName 7]) =
      some (.file 5 (Text.encode text)) := rfl
  have htext : files.readText nodeFile = .ok text :=
    FileTree.readText_of_kind?_file locate_root hkind (by decide) rfl
  rintro ⟨content, value, hread, hvalue, hlength⟩
  obtain rfl : text = content := Except.ok.inj (htext.symm.trans hread)
  have hlookup : (KeyedText.parse "" text).lookup? "usages" = some value :=
    KeyedText.lookup?_parse_eq_some_iff.mpr hvalue
  obtain rfl : "5" = value := Option.some.inj hlookup
  cases hlength

/-- The root is shown. -/
theorem exists_row : ∃ sample, sampler.sample (snapshot.source files) .zero = .ok sample ∧
    ∃ row ∈ sample.rows, row.path = "/" := by
  have hkind : files.kind? ([] ++ [Snapshot.nodeName 7]) =
      some (.file 4 (Text.encode ({ isActive := true } : NodeCounters).toKeyedText)) := rfl
  have hinode : files.inode? ((snapshot.root.descend []).child (Snapshot.nodeName 7)) =
      .ok (some 4) := FileTree.inode?_of_kind?_file locate_root hkind (by decide)
  have hnode : (snapshot.source files).readNode (snapshot.entryAt 7 []).node =
      .ok { isActive := true, id := 4 } :=
    Snapshot.readNode_of_readText hinode rfl
      (FileTree.readText_of_kind?_file locate_root hkind (by decide) rfl)
  have hentry : snapshot.entryAt 7 [] ∈ sampler.entries (snapshot.source files) := by
    rw [Sampler.entries, Source.walk, Hierarchy.walk_eq_listing, Hierarchy.mem_listing]
    have hown : snapshot.entryAt 7 [] ∈ (snapshot.hierarchy files).ownEntry 7 true
        (snapshot.root.descend []) (pathText []) := by
      rw [Snapshot.ownEntry_of_isShown (List.forall_mem_nil _) ⟨.inl rfl, 4, hinode⟩]
      exact List.mem_singleton_self _
    have hname : snapshot.memberName snapshot.root = .ok "" := Snapshot.memberName_root
    have hreach : (snapshot.hierarchy files).Reaches snapshot.root "" (snapshot.root.descend [])
        (pathText []) := .here hname
    exact ⟨_, _, hreach, hown⟩
  have hrow : sampler.row? (snapshot.source files) {} (snapshot.entryAt 7 []) =
      some ((snapshot.source files).row {} (snapshot.entryAt 7 [], _)) :=
    (Sampler.row?_of_readNode hnode).trans (if_pos ⟨rfl, .inr rfl⟩)
  exact ⟨_, by simp only [Sampler.sample, readController_eq]; rfl, _,
    List.mem_filterMap.mpr ⟨_, hentry, hrow⟩, rfl⟩

end NoSlots

/-- The constants say that there are no slots; a node with a slot gives no row and takes none
away. -/
theorem usage_slots_agree_noSlots : ∃ sample,
    NoSlots.sampler.sample (NoSlots.snapshot.source NoSlots.files) .zero = .ok sample ∧
      (∃ row ∈ sample.rows, row.path = "/" ∧ row.stats.usages.length = 0) ∧
      (∀ row ∈ sample.rows, row.path ≠ "slot") ∧
      ∃ files', NoSlots.files.remove NoSlots.nodeFile.bytes = .ok files' ∧
        NoSlots.sampler.sample (NoSlots.snapshot.source files') .zero = .ok sample := by
  obtain ⟨sample, hsample, row, hrow, hroot⟩ := NoSlots.exists_row
  obtain ⟨-, hlength, -, hpath, -, hremove⟩ :=
    usage_slots_agree NoSlots.ofDirectory_eq NoSlots.ofSettings_eq hsample
  refine ⟨sample, hsample, ⟨row, hrow, hroot, hlength row hrow⟩, ?_, ?_⟩
  · exact hpath [NoSlots.name] (by decide) NoSlots.not_holdsSlots
  · exact hremove [] [NoSlots.name] 5 (Text.encode NoSlots.text) (FileTree.leadsTo_slash rfl)
      NoSlots.hasNoLinks rfl NoSlots.not_holdsSlots

end Iocost
