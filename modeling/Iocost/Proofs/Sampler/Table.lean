import Iocost.Proofs.Files.Reading
import Iocost.Proofs.Sample.Table
import Iocost.Proofs.Sampler.Output
import Iocost.Proofs.Snapshot.Devices
import Iocost.Proofs.Snapshot.Reading
import Iocost.Proofs.Snapshot.Walk

/-!
# Tables of snapshots

The name of a device has no line feed in it, but that of a directory may have one, and nothing takes
it out of the path in a row: the row is then several lines of the table
(`Sampler.table_lines_of_tick`).
-/

namespace Iocost

namespace Sampler

section

variable {Member Node Controller : Type} {s : Sampler Member Controller}
  {source : Source Member Node Controller} {timestamp : Binary64} {sink after : Sink}

/-- A tick that succeeds has written the whole text of a sample. -/
theorem exists_sample_of_tick (h : s.tick source timestamp sink = (after, none)) :
    ∃ sample, s.sample source timestamp = .ok sample ∧
      after.written = sink.written ++ Text.encode (sample.text s.settings.format) := by
  cases hread : source.readController s.binding.controller with
  | error cause =>
    rw [tick_of_error hread] at h
    cases h
  | ok controller =>
    obtain ⟨sample, hsample, houtput⟩ := exists_sample_output hread timestamp
    obtain ⟨hwritten, hfull, -⟩ := tick_cuts_output hread timestamp sink
    have hwhole : ¬sink.fitting (s.output source timestamp).length <
        (s.output source timestamp).length := by
      intro hcut
      rw [h] at hfull
      cases hfull.mpr hcut
    rw [h, List.take_of_length_le (Nat.le_of_not_lt hwhole), houtput] at hwritten
    exact ⟨sample, hsample, hwritten⟩

theorem device_of_sample_eq_ok {sample : Sample} (h : s.sample source timestamp = .ok sample) :
    sample.device = s.settings.device := by
  unfold Sampler.sample at h
  split at h
  · cases h
  · cases h
    rfl

end

/-- **The lines of a table.** What a tick that succeeds writes is a blank line, the preamble, the
header, and the lines that the rows come to, in their order: one for each row, and one more for each
line feed in what is shown of its path. So each row is a line exactly if no path has a line feed
there, and the name of the device never adds a line. -/
theorem table_lines_of_tick {snapshot : Snapshot} {opened files : FileTree} {settings : Settings}
    {s : Sampler FilePath FilePath} (hs : ofSettings (snapshot.source opened) settings = .ok s)
    (hformat : settings.format = .table) {timestamp : Binary64} {sink after : Sink}
    (htick : s.tick (snapshot.source files) timestamp sink = (after, none)) :
    ∃ sample text, s.sample (snapshot.source files) timestamp = .ok sample ∧
      after.written = sink.written ++ Text.encode (String.ofList text) ∧
      let above := [[], Table.preamble settings.device sample.controller, Table.header]
      let rows := sample.rows.map fun row => Table.row row.path row.stats
      let feeds (row : Row) : Nat := (Text.tail Table.pathWidth row.path.toList).count '\n'
      Text.pieces (· == '\n') text = above ++ rows.flatMap (Text.pieces (· == '\n')) ++ [[]] ∧
      text.count '\n' = 3 + sample.rows.length + (sample.rows.map feeds).sum ∧
      (Text.pieces (· == '\n') text = above ++ rows ++ [[]] ↔
        ∀ row ∈ sample.rows, feeds row = 0) := by
  obtain ⟨binding, hresolve, rfl⟩ := Except.exists_of_map_eq_ok hs
  obtain ⟨sample, hsample, hwritten⟩ := exists_sample_of_tick htick
  have hdevice : sample.device = settings.device := device_of_sample_eq_ok hsample
  have hfeeds : '\n' ∉ sample.device.toList :=
    hdevice ▸ Snapshot.line_feed_not_mem_of_resolve hresolve
  refine ⟨sample, (sample.text .table).toList, hsample, ?_, ?_, ?_, ?_⟩
  · rw [hwritten, String.ofList_toList, hformat]
  · rw [Sample.pieces_text_table hfeeds, hdevice, List.flatMap_map]
    rfl
  · exact Sample.count_line_feed_text_table hfeeds
  · simp only [List.count_eq_zero, ← Sample.pieces_text_table_eq_rows_iff hfeeds, hdevice]
    rfl

namespace BrokenRow

/-- A name with a line feed in it. -/
def name : FileName := ⟨Text.encode "a\nb", by decide⟩

/-- The controller of a device, and a directory of that name with a node for it. -/
def entries : List (FileName × FileNode) :=
  [(Snapshot.devicesName, .file 1 (Text.encode "sda 7\n")),
    (Snapshot.controllerName 7, .file 2 (Text.encode ({} : ControllerCounters).toKeyedText)),
    (name, .directory [(Snapshot.nodeName 7, .file 3 (Text.encode
      ({ isActive := true, usages := [0, 0] } : NodeCounters).toKeyedText))])]

def files : FileTree where
  top := .directory [(⟨[116], rfl⟩, .directory entries)]

def snapshot : Snapshot := ⟨.ofString "t", { usageSlots := 2 }⟩

def settings : Settings := ⟨"sda", ⟨none⟩, .ofParts 1 0, .table, true⟩

def sampler : Sampler FilePath FilePath :=
  ⟨settings, snapshot.root, 7, snapshot.root.child (Snapshot.controllerName 7)⟩

theorem locate_root : files.locate snapshot.root = .ok [⟨[116], rfl⟩] :=
  FileTree.locate_of_leadsTo rfl rfl (by decide) ⟨_, FileTree.follow_name rfl rfl nofun⟩

theorem ofSettings_eq : ofSettings (snapshot.source files) settings = .ok sampler := by
  have hkind : files.kind? ([⟨[116], rfl⟩] ++ [Snapshot.devicesName]) =
      some (.file 1 (Text.encode "sda 7\n")) := rfl
  have hread : files.readText (snapshot.root.child Snapshot.devicesName) = .ok "sda 7\n" :=
    FileTree.readText_of_kind?_file locate_root hkind (by decide) rfl
  have hkind' : files.kind? ([⟨[116], rfl⟩] ++ [Snapshot.controllerName 7]) =
      some (.file 2 (Text.encode ({} : ControllerCounters).toKeyedText)) := rfl
  have hinode : files.inode? (snapshot.root.child (Snapshot.controllerName 7)) = .ok (some 2) :=
    FileTree.inode?_of_kind?_file locate_root hkind' (by decide)
  have hresolve : snapshot.resolve files "sda" = .ok sampler.binding :=
    Snapshot.resolve_of_inode? hread rfl hinode
  exact congrArg (Except.map fun binding => (⟨settings, binding⟩ : Sampler FilePath FilePath))
    hresolve

theorem textDirectories_eq : (FileNode.directory entries).textDirectories = [[], [name]] := by
  have hnames : ((FileNode.directoryNames entries).filter fun name => decide name.IsText) =
      [name] := by decide +kernel
  rw [FileNode.textDirectories_of_filter hnames]
  change [] :: ((FileNode.directory [(Snapshot.nodeName 7, _)]).textDirectories.map _ ++ []) = _
  rw [FileNode.textDirectories_of_filter rfl]
  rfl

theorem readController_eq :
    (snapshot.source files).readController sampler.binding.controller = .ok {} := by
  have hkind : files.kind? ([⟨[116], rfl⟩] ++ [Snapshot.controllerName 7]) =
      some (.file 2 (Text.encode ({} : ControllerCounters).toKeyedText)) := rfl
  exact Snapshot.readController_of_readText
    (FileTree.readText_of_kind?_file locate_root hkind (by decide) rfl)

/-- The path of the directory stands in a row as it is. -/
theorem exists_row : ∃ sample, sampler.sample (snapshot.source files) .zero = .ok sample ∧
    ∃ row ∈ sample.rows, row.path = "a\nb" := by
  have hkind : files.kind? ([⟨[116], rfl⟩] ++ [name, Snapshot.nodeName 7]) =
      some (.file 3 (Text.encode
        ({ isActive := true, usages := [0, 0] } : NodeCounters).toKeyedText)) := rfl
  have hinode : files.inode? (snapshot.root.descend [name, Snapshot.nodeName 7]) =
      .ok (some 3) := FileTree.inode?_of_kind?_file locate_root hkind (by decide)
  have hnode : (snapshot.source files).readNode (snapshot.entryAt 7 [name]).node =
      .ok { isActive := true, usages := [0, 0], id := 3 } :=
    Snapshot.readNode_of_readText hinode rfl
      (FileTree.readText_of_kind?_file locate_root hkind (by decide) rfl)
  have hentry : snapshot.entryAt 7 [name] ∈ sampler.entries (snapshot.source files) := by
    have hroot : files.nodeAt snapshot.root = .ok (.directory entries) :=
      FileTree.nodeAt_of_locate locate_root rfl
    have hreadable : snapshot.IsReadable files (.directory entries) := by
      refine Snapshot.isReadable_of_length_le hroot fun names hnames => ?_
      rw [← FileNode.mem_textDirectories, textDirectories_eq] at hnames
      simp only [List.mem_cons, List.not_mem_nil, or_false] at hnames
      rcases hnames with rfl | rfl <;> decide
    have hshown : snapshot.IsShown files 7 true [name] := ⟨.inl rfl, 3, hinode⟩
    change _ ∈ (snapshot.source files).walk snapshot.root 7 true
    rw [Snapshot.walk_eq_map hroot hreadable, textDirectories_eq]
    classical
    exact List.mem_map_of_mem
      (List.mem_filter.mpr ⟨.tail _ (.head _), decide_eq_true hshown⟩)
  have hrow : sampler.row? (snapshot.source files) {} (snapshot.entryAt 7 [name]) =
      some ((snapshot.source files).row {} (snapshot.entryAt 7 [name], _)) :=
    (row?_of_readNode hnode).trans (if_pos ⟨rfl, .inr rfl⟩)
  refine ⟨_, by simp only [Sampler.sample, readController_eq]; rfl, _,
    List.mem_filterMap.mpr ⟨_, hentry, hrow⟩, ?_⟩
  decide

theorem exists_tick (sink : Sink) (hroom : sink.room = none) (hflushes : sink.flushes = none) :
    ∃ after, sampler.tick (snapshot.source files) .zero sink = (after, none) := by
  obtain ⟨written, room, flushes⟩ := sink
  obtain rfl : room = none := hroom
  obtain rfl : flushes = none := hflushes
  rw [tick_of_ok readController_eq]
  exact ⟨_, rfl⟩

end BrokenRow

theorem table_lines_of_tick_brokenRow : ∃ after sample text,
    BrokenRow.sampler.tick (BrokenRow.snapshot.source BrokenRow.files) .zero {} = (after, none) ∧
      after.written = Text.encode (String.ofList text) ∧
      BrokenRow.sampler.sample (BrokenRow.snapshot.source BrokenRow.files) .zero = .ok sample ∧
      3 + sample.rows.length < text.count '\n' := by
  obtain ⟨after, htick⟩ := BrokenRow.exists_tick {} rfl rfl
  obtain ⟨sample, hsample, row, hrow, hpath⟩ := BrokenRow.exists_row
  obtain ⟨sample', text, hsample', hwritten, -, hcount, -⟩ :=
    table_lines_of_tick BrokenRow.ofSettings_eq rfl htick
  obtain rfl : sample = sample' := Except.ok.inj (hsample.symm.trans hsample')
  refine ⟨after, sample, text, htick, hwritten, hsample, ?_⟩
  have hfeeds : (Text.tail Table.pathWidth row.path.toList).count '\n' = 1 := by
    rw [hpath]
    decide
  have hsum : (sample.rows.map fun row =>
      (Text.tail Table.pathWidth row.path.toList).count '\n').sum ≠ 0 := by
    intro hsum
    rw [List.sum_eq_zero_iff_forall_eq_nat] at hsum
    cases hfeeds.symm.trans (hsum _ (List.mem_map_of_mem hrow))
  omega

/-- The row of a directory need not be one line. -/
theorem not_rows_are_lines : ¬∀ (snapshot : Snapshot) (opened files : FileTree)
    (settings : Settings) (s : Sampler FilePath FilePath) (timestamp : Binary64)
    (sink after : Sink), ofSettings (snapshot.source opened) settings = .ok s →
    settings.format = .table → s.tick (snapshot.source files) timestamp sink = (after, none) →
    ∃ sample, s.sample (snapshot.source files) timestamp = .ok sample ∧
      after.written = sink.written ++ Text.encode (sample.text .table) ∧
      Text.pieces (· == '\n') (sample.text .table).toList =
        [] :: Table.preamble sample.device sample.controller :: Table.header ::
          (sample.rows.map fun row => Table.row row.path row.stats) ++ [[]] := by
  intro h
  obtain ⟨after, htick⟩ := BrokenRow.exists_tick {} rfl rfl
  obtain ⟨sample, hsample, row, hrow, hpath⟩ := BrokenRow.exists_row
  obtain ⟨sample', hsample', -, hlines⟩ := h _ _ _ _ _ _ _ _ BrokenRow.ofSettings_eq rfl htick
  obtain rfl : sample = sample' := Except.ok.inj (hsample.symm.trans hsample')
  have hdevice : '\n' ∉ sample.device.toList := by
    rw [device_of_sample_eq_ok hsample]
    decide
  have hfeeds := (Sample.pieces_text_table_eq_rows_iff hdevice).mp hlines row hrow
  rw [hpath] at hfeeds
  exact hfeeds (by decide)

end Sampler

end Iocost
