import Iocost.Proofs.Files.Reading
import Iocost.Proofs.Keyed.Constants
import Iocost.Snapshot.Basic

/-!
# The constants of a snapshot

A snapshot is opened with the constants in one of its files (`Snapshot.ofDirectory_of_readText`), or
with the defaults if it has no such file. Which constants these are, and when the file is refused,
is said in terms of the lines of its text (`Snapshot.constants_of_file`).
-/

namespace Iocost.Snapshot

variable {files : FileTree} {root : FilePath}

theorem ofDirectory_of_readText {content : String}
    (htext : files.readText (root.child constantsName) = .ok content) :
    ofDirectory files root =
      (Constants.ofKeyedText (.parse (root.child constantsName).shown content)).map
        fun c => ⟨root, c⟩ := by
  simp only [ofDirectory, htext]

theorem ofDirectory_of_readText_eq_notFound
    (htext : files.readText (root.child constantsName) = .error .notFound) :
    ofDirectory files root = .ok ⟨root, {}⟩ := by
  simp only [ofDirectory, htext]

theorem ofDirectory_of_nodeAt_eq_notFound
    (h : files.nodeAt (root.child constantsName) = .error .notFound) :
    ofDirectory files root = .ok ⟨root, {}⟩ := by
  refine ofDirectory_of_readText_eq_notFound ?_
  rw [FileTree.readText, FileTree.readBytes, h]
  rfl

section Content

variable {content : String} (htext : files.readText (root.child constantsName) = .ok content)

include htext

theorem ofDirectory_eq_ok_iff {s : Snapshot} :
    ofDirectory files root = .ok s ↔
      s.root = root ∧ ∀ key, ConstantKey.Gives content key (s.constants.get key) := by
  rw [ofDirectory_of_readText htext]
  constructor
  · intro h
    obtain ⟨c, hc, rfl⟩ := Except.exists_of_map_eq_ok h
    exact ⟨rfl, Constants.ofKeyedText_parse_eq_ok_iff.mp hc⟩
  · obtain ⟨_, c⟩ := s
    rintro ⟨rfl, hgives⟩
    rw [Constants.ofKeyedText_parse_eq_ok_iff.mpr hgives]
    rfl

theorem exists_ofDirectory_iff :
    (∃ s, ofDirectory files root = .ok s) ↔ ∀ key, ConstantKey.IsValid content key := by
  rw [ofDirectory_of_readText htext, ← Except.cause?_eq_none_iff, Except.cause?_map,
    Except.cause?_eq_none_iff, Constants.exists_ofKeyedText_parse_iff]

theorem ofDirectory_eq_error_iff {e : Failure} :
    ofDirectory files root = .error e ↔
      ∃ key value, ConstantKey.FirstInvalid content key value ∧
        e = .invalidValue (root.child constantsName).shown key.name value := by
  rw [ofDirectory_of_readText htext, ← Except.cause?_eq_some_iff, Except.cause?_map,
    Except.cause?_eq_some_iff, Constants.ofKeyedText_parse_eq_error_iff]

end Content

/-- **A snapshot has the constants of its file.** Each constant has the value of its last definition
in the file, or the default if no line defines it, and so it is without a file. A file is refused if
the last definition of some constant is no counter, which is reported for the first such constant,
and if it has no text. So a file with lines for some constants, in any order and among other lines,
gives these constants and no others, and one with lines for all of them gives them all. -/
theorem constants_of_file (files : FileTree) (root : FilePath) :
    let path := root.child constantsName
    (files.nodeAt path = .error .notFound → ofDirectory files root = .ok ⟨root, {}⟩) ∧
    ∀ inode bytes, files.nodeAt path = .ok (.file inode bytes) →
      (Text.decode? bytes = none →
        ofDirectory files root = .error (.unreadable path.shown .notUtf8)) ∧
      (∀ content, Text.decode? bytes = some content →
        ((∃ s, ofDirectory files root = .ok s) ↔ ∀ key, ConstantKey.IsValid content key) ∧
        (∀ s, ofDirectory files root = .ok s ↔
          s.root = root ∧ ∀ key, ConstantKey.Gives content key (s.constants.get key)) ∧
        ∀ e, ofDirectory files root = .error e ↔
          ∃ key value, ConstantKey.FirstInvalid content key value ∧
            e = .invalidValue path.shown key.name value) ∧
      ∀ (c : Constants) (lines : List ConstantLine), bytes = Text.encode (c.written lines) →
        ∃ s, ofDirectory files root = .ok s ∧ s.root = root ∧
          (∀ key, s.constants.get key =
            if .value key ∈ lines then c.get key else ({} : Constants).get key) ∧
          ((∀ key, .value key ∈ lines) → s.constants = c) := by
  refine ⟨ofDirectory_of_nodeAt_eq_notFound, fun inode bytes hfile => ⟨fun hdecode => ?_,
    fun content hdecode => ?_, fun c lines hbytes => ?_⟩⟩
  · have hread := FileTree.readText_of_nodeAt hfile
    rw [hdecode, Option.elim_none] at hread
    simp only [ofDirectory, hread]
  · have hread := FileTree.readText_of_nodeAt hfile
    rw [hdecode, Option.elim_some] at hread
    exact ⟨exists_ofDirectory_iff hread, fun _ => ofDirectory_eq_ok_iff hread,
      fun _ => ofDirectory_eq_error_iff hread⟩
  · have hopen := ofDirectory_of_readText (FileTree.readText_of_nodeAt_encode hfile hbytes)
    rw [Constants.ofKeyedText_parse_written] at hopen
    refine ⟨_, hopen, rfl, fun key => Constants.get_ofValues _ key, fun hall => ?_⟩
    refine Constants.ext_get fun key => ?_
    rw [Constants.get_ofValues, if_pos (hall key)]

/-- A directory with a file of constants. -/
def constantFiles (text : String) : FileTree where
  top := .directory [(constantsName, .file 3 (Text.encode text))]

/-- Lines for two constants, and between them one without a blank and one with another key. -/
def someConstants : List ConstantLine :=
  [.value .usageSlots, .other "hweight_whole".toList (by decide) (.inl (by decide)),
    .other "autop 7".toList (by decide) (.inr fun key => by cases key <;> decide),
    .value .wholeWeight]

/-- Constants of which three are no counters, the first of them in the last line. The first constant
of all is no counter before it is defined once more. -/
def faultyConstants : String :=
  "nr_usage_slots x\nioc_running x\nautop_hdd -1\nioc_running +01\nhweight_whole 5 5\n"

theorem constants_of_file_someConstants :
    let root := FilePath.ofString "/"
    ofDirectory {} root = .ok ⟨root, {}⟩ ∧
    ConstantKey.FirstInvalid faultyConstants .wholeWeight "5 5" ∧
    ∃ s, ofDirectory (constantFiles (({ running := 5, usageSlots := 2, wholeWeight := 9 } :
        Constants).written someConstants)) root = .ok s ∧
      s.constants.get .usageSlots = 2 ∧ s.constants.get .wholeWeight = 9 ∧
      s.constants.get .running = 1 := by
  intro root
  have hchild : root.descend [constantsName] = root.child constantsName := rfl
  have hfile (text : String) : (constantFiles text).nodeAt (root.child constantsName) =
      .ok (.file 3 (Text.encode text)) := by
    have hroot : (constantFiles text).nodeAt root = .ok (constantFiles text).top :=
      FileTree.nodeAt_slash rfl
    rw [← hchild]
    exact FileTree.nodeAt_descend hroot rfl nofun (by decide)
  have habsent : ({} : FileTree).nodeAt (root.child constantsName) = .error .notFound := by
    rw [← root.descend_nil]
    exact FileTree.nodeAt_child_of_kind?_none (FileTree.locate_slash rfl) rfl rfl (by decide)
  refine ⟨(constants_of_file _ root).1 habsent, ?_, ?_⟩
  · obtain ⟨-, -, herror⟩ := ((constants_of_file _ root).2 3 _ (hfile faultyConstants)).2.1 _
      (Text.decode?_encode faultyConstants)
    have hopen := ofDirectory_of_readText
      (FileTree.readText_of_nodeAt_encode (hfile faultyConstants) rfl)
    obtain ⟨key, value, hfirst, hvalue⟩ := (herror _).mp (hopen.trans rfl)
    obtain ⟨-, hkey, rfl⟩ := Failure.invalidValue.inj hvalue
    obtain rfl : .wholeWeight = key := ConstantKey.name_injective hkey
    exact hfirst
  · obtain ⟨s, hopen, -, hvalues, -⟩ := ((constants_of_file _ root).2 3 _ (hfile _)).2.2
      { running := 5, usageSlots := 2, wholeWeight := 9 } someConstants rfl
    refine ⟨s, hopen, ?_⟩
    rw [hvalues, hvalues, hvalues]
    decide

end Iocost.Snapshot
