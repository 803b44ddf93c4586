import Iocost.Proofs.Memory.Agreement
import Iocost.Proofs.Memory.MemberChange
import Iocost.Proofs.Snapshot.Differing

/-!
# What a member says shows in its own row

In memory the state and the nodes of a member decide about its own row only, and a member that
breaks takes those below it with it. In a snapshot the file of a node decides about the row of the
member in whose directory it is. All other rows stay as they were, in their order, and so does all
else in a sample.
-/

namespace Iocost

namespace Sampler

variable {Member Node Controller : Type}

/-- The sampler that a source has for settings takes a sample at a time. -/
structure Takes (s : Sampler Member Controller) (source : Source Member Node Controller)
    (settings : Settings) (timestamp : Binary64) (sample : Sample) : Prop where
  ofSettings : ofSettings source settings = .ok s
  sample : s.sample source timestamp = .ok sample

theorem exists_takes {s : Sampler Member Controller} {source : Source Member Node Controller}
    {settings : Settings} {controller : ControllerCounters}
    (hsettings : Sampler.ofSettings source settings = .ok s)
    (hread : source.readController s.binding.controller = .ok controller) (timestamp : Binary64) :
    ∃ sample, s.Takes source settings timestamp sample := by
  cases hsample : s.sample source timestamp with
  | ok sample => exact ⟨sample, hsettings, hsample⟩
  | error e =>
    simp only [Sampler.sample, hread] at hsample
    cases hsample

end Sampler

theorem MemoryHierarchy.DiffersAt.takes {h h' : MemoryHierarchy} {member : Nat}
    {s : Sampler Nat Queue} {settings : Settings} {timestamp : Binary64} {sample : Sample}
    (hdiffers : h.DiffersAt h' member) (htakes : s.Takes h.source settings timestamp sample) :
    s.Takes h'.source settings timestamp
      { sample with rows := (s.memberRows h'.source).map Prod.snd } :=
  ⟨(hdiffers.ofSettings_eq settings).trans htakes.ofSettings,
    Sampler.sample_eq_with_rows htakes.sample hdiffers.constants (hdiffers.readController_eq _)⟩

theorem Snapshot.takes {snapshot : Snapshot} {files files' : FileTree} {loc : Location}
    {names : List FileName} {queue : Queue} {s : Sampler FilePath FilePath} {settings : Settings}
    {timestamp : Binary64} {sample : Sample} (hlinks : files.HasNoLinks loc)
    (hroot : files.LeadsTo snapshot.root loc)
    (hdiffers : files.DiffersAtFile files' (loc ++ names ++ [nodeName queue]))
    (htakes : s.Takes (snapshot.source files) settings timestamp sample) :
    s.Takes (snapshot.source files') settings timestamp
      { sample with rows := (s.memberRows (snapshot.source files')).map Prod.snd } := by
  have hsettings : Sampler.ofSettings (snapshot.source files') settings = .ok s :=
    (ofSettings_eq hlinks hroot hdiffers settings).trans htakes.ofSettings
  refine ⟨hsettings, Sampler.sample_eq_with_rows htakes.sample rfl ?_⟩
  obtain ⟨binding, hbinding, rfl⟩ := Except.exists_of_map_eq_ok htakes.ofSettings
  obtain ⟨-, queue', hcontroller⟩ := eq_of_resolve hbinding
  simp only [hcontroller]
  exact readController_eq hlinks hroot hdiffers queue'

open Classical in
/-- **A member decides about its own row.** In memory each row is of one member, which has no other
one. A change of the state or of a node of a member leaves the rows of all other members, and a
member that breaks takes away its row and those of the members below it. In a snapshot without
links, whatever is written to the file of a node, or its removal, leaves all rows but those with the
path of the member, and all of them if it has none. Nothing else in a sample changes. -/
theorem sample_isolates_members :
    (∀ (h : MemoryHierarchy) (settings : Settings) (s : Sampler Nat Queue) (timestamp : Binary64)
        (sample : Sample) (member : Nat), s.Takes h.source settings timestamp sample →
      sample.rows = (s.memberRows h.source).map Prod.snd ∧
      ((s.memberRows h.source).map Prod.fst).Nodup ∧
      (∀ h', h.OwnChange member h' →
        s.Takes h'.source settings timestamp
          { sample with rows := (s.memberRows h'.source).map Prod.snd } ∧
        ((s.memberRows h'.source).filter fun row => decide (row.1 ≠ member)) =
          (s.memberRows h.source).filter fun row => decide (row.1 ≠ member)) ∧
      s.Takes (h.setBroken member true).source settings timestamp
        { sample with rows := ((s.memberRows h.source).filter fun row =>
            decide (¬h.IsBelow member row.1)).map Prod.snd }) ∧
    ∀ (snapshot : Snapshot) (files : FileTree) (loc : Location) (names : List FileName)
        (queue : Queue) (inode : UInt64) (content : List UInt8) (settings : Settings)
        (s : Sampler FilePath FilePath) (timestamp : Binary64) (sample : Sample),
      files.LeadsTo snapshot.root loc → files.HasNoLinks loc →
      files.kind? (loc ++ names ++ [Snapshot.nodeName queue]) = some (.file inode content) →
      s.Takes (snapshot.source files) settings timestamp sample →
      ∀ change : FileTree.FileChange, ∃ files' rows,
        change.apply files ((snapshot.root.descend names).child (Snapshot.nodeName queue)).bytes =
          .ok files' ∧
        Snapshot.ofDirectory files' snapshot.root = Snapshot.ofDirectory files snapshot.root ∧
        s.Takes (snapshot.source files') settings timestamp { sample with rows := rows } ∧
        (rows.filter fun row => decide (row.path ≠ shownPath (pathText names))) =
          (sample.rows.filter fun row => decide (row.path ≠ shownPath (pathText names))) ∧
        ((∃ name ∈ names, ¬name.IsText) → rows = sample.rows) := by
  constructor
  · intro h settings s timestamp sample member htakes
    refine ⟨(Sampler.sample_eq_ok htakes.sample).2, h.nodup_memberRows s, fun h' hchange => ?_, ?_⟩
    · exact ⟨hchange.differsAt.takes htakes, hchange.filter_memberRows_eq⟩
    · rw [← MemoryHierarchy.memberRows_setBroken htakes.ofSettings]
      exact (h.differsAt_setBroken member true).takes htakes
  · intro snapshot files loc names queue inode content settings s timestamp sample hroot hlinks
      hfile htakes change
    have hdir : files.kind? (loc ++ names) = some .directory := by
      by_contra hdir
      rw [FileTree.kind?_append_cons hdir] at hfile
      cases hfile
    obtain ⟨files', hchange, hdiffers⟩ := FileTree.exists_apply_differsAtFile change
      (hroot.descend_of_kind? hdir nofun) hfile
    have htakes' := Snapshot.takes hlinks hroot hdiffers htakes
    have hrows := (Sampler.sample_eq_ok htakes.sample).2
    have hothers := Snapshot.filter_memberRows_eq hlinks hroot hdiffers htakes.ofSettings
    refine ⟨files', _, hchange, Snapshot.ofDirectory_eq hlinks hroot hdiffers, htakes', ?_, ?_⟩
    · rw [hrows, Snapshot.filter_path_memberRows htakes.ofSettings,
        Snapshot.filter_path_memberRows htakes'.ofSettings, hothers]
    · rintro ⟨name, hname, htext⟩
      rw [Snapshot.filter_memberRows_eq_self htakes.ofSettings hname htext,
        Snapshot.filter_memberRows_eq_self htakes'.ofSettings hname htext] at hothers
      rw [hrows, hothers]

open Classical in
theorem sample_isolates_members_outOfOrder :
    let root : FilePath := .ofString "/"
    let names : List FileName := [⟨[97], rfl⟩, ⟨[99], rfl⟩]
    let settings : Settings := ⟨"sda", ⟨none⟩, .ofParts 1 0, .table, true⟩
    let memory : Sampler Nat Queue := ⟨settings, 0, 8, 8⟩
    let s : Sampler FilePath FilePath :=
      ⟨settings, root, 8, root.child (Snapshot.controllerName 8)⟩
    (∃ sample, memory.Takes MemoryHierarchy.outOfOrder.source settings .zero sample ∧
      memory.Takes (MemoryHierarchy.outOfOrder.setBroken 2 true).source settings .zero
        { sample with
          rows := ((memory.memberRows MemoryHierarchy.outOfOrder.source).filter fun row =>
            decide (¬MemoryHierarchy.outOfOrder.IsBelow 2 row.1)).map Prod.snd }) ∧
    ∃ files sample files' rows,
      s.Takes ((⟨root, {}⟩ : Snapshot).source files) settings .zero sample ∧
      files.writeFile ((root.descend names).child (Snapshot.nodeName 8)).bytes 0 [255] =
        .ok files' ∧
      s.Takes ((⟨root, {}⟩ : Snapshot).source files') settings .zero { sample with rows := rows } ∧
      (rows.filter fun row => decide (row.path ≠ "a/c")) =
        sample.rows.filter fun row => decide (row.path ≠ "a/c") := by
  intro root names settings memory s
  have hcontroller : MemoryHierarchy.outOfOrder.readController 8 = .ok {} := rfl
  constructor
  · obtain ⟨sample, htakes⟩ : ∃ sample,
        memory.Takes MemoryHierarchy.outOfOrder.source settings .zero sample :=
      Sampler.exists_takes rfl hcontroller .zero
    obtain ⟨-, -, -, hbroken⟩ := sample_isolates_members.1 _ _ _ _ _ 2 htakes
    exact ⟨sample, htakes, hbroken⟩
  · have hw := MemoryHierarchy.isWritable_outOfOrder
    have hfits := MemoryHierarchy.fits_outOfOrder
    obtain ⟨files, loc, -, hwritten, hlinks⟩ := MemoryHierarchy.exists_writeTreeBy
      (fun _ => 1) hw MemoryHierarchy.nodeAt_empty
    obtain ⟨-, -, -, hroot⟩ := FileTree.locate_eq_ok hwritten.locate
    have hsettings : Sampler.ofSettings ((⟨root, {}⟩ : Snapshot).source files) settings = .ok s :=
      congrArg (Except.map _) (hwritten.resolve_eq hfits hw "sda")
    obtain ⟨sample, htakes⟩ : ∃ sample,
        s.Takes ((⟨root, {}⟩ : Snapshot).source files) settings .zero sample :=
      Sampler.exists_takes hsettings (hwritten.readController_eq hfits hcontroller) .zero
    have habove : MemoryHierarchy.outOfOrder.Leads [⟨[97], rfl⟩] 2 :=
      .child .root (by decide) (by decide)
    have hleads : MemoryHierarchy.outOfOrder.Leads names 3 :=
      .child habove (by decide) (by decide)
    have hfile := hwritten.file (.node 8) hleads
    rw [← List.append_assoc] at hfile
    obtain ⟨files', rows, hwrite, -, htakes', hothers, -⟩ :=
      sample_isolates_members.2 ⟨root, {}⟩ _ _ _ _ _ _ _ _ _ _ hroot hlinks hfile htakes
        (.write 0 [255])
    have hpath : shownPath (pathText names) = "a/c" := by decide
    rw [hpath] at hothers
    exact ⟨files, sample, files', rows, htakes, hwrite, htakes', hothers⟩

end Iocost
