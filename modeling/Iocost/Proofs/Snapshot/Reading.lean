import Iocost.Proofs.Files.Reading
import Iocost.Proofs.Keyed.Checks
import Iocost.Proofs.Keyed.Counters
import Iocost.Proofs.Outcome
import Iocost.Snapshot.Basic

/-!
# Reading the files of a snapshot

Counters are read from a file that has them as its text (`readController_of_readText`,
`readNode_of_readText`), whatever their values: a node is known by the number of its file, unless a
line with its address is added (`counters_read_back`). A text that does not pass every check is
refused as the first one that fails says (`first_failing_check_reported`). A device is found by a
line of a file, so there is no line feed in its name (`line_feed_not_mem_of_resolve`).
-/

namespace Iocost.Snapshot

variable {s : Snapshot} {files : FileTree} {path : FilePath}

theorem readController_eq_ofKeyedText {content : String}
    (htext : files.readText path = .ok content) :
    readController files path = ControllerCounters.ofKeyedText (.parse path.shown content) := by
  simp only [readController, keyedText, htext, reading, Except.map, Except.bind]

theorem readNode_eq_ofKeyedText {content : String} {inode : UInt64}
    (htext : files.readText path = .ok content)
    (hinode : files.inode? path = .ok (some inode)) :
    s.readNode files path =
      NodeCounters.ofKeyedText s.constants.usageSlots inode (.parse path.shown content) := by
  simp only [readNode, keyedText, htext, hinode, reading, Except.map, bind, Except.bind,
    Option.getD_some]

theorem readController_of_readText_eq_error {cause : FileError}
    (htext : files.readText path = .error cause) :
    readController files path = .error (.unreadable path.shown cause) := by
  simp only [readController, keyedText, htext, reading, Except.map, Except.bind]

theorem readNode_of_readText_eq_error {cause : FileError}
    (htext : files.readText path = .error cause) :
    s.readNode files path = .error (.unreadable path.shown cause) := by
  simp only [readNode, keyedText, htext, reading, Except.map, bind, Except.bind]

theorem readController_of_readText {counters : ControllerCounters}
    (htext : files.readText path = .ok counters.toKeyedText) :
    readController files path = .ok counters := by
  rw [readController_eq_ofKeyedText htext]
  exact ControllerCounters.ofKeyedText_parse _ counters

section

variable {counters : NodeCounters} {inode : UInt64}
  (hinode : files.inode? path = .ok (some inode))
  (hslots : counters.usages.length = s.constants.usageSlots.toNat)

include hinode hslots

theorem readNode_of_readText (htext : files.readText path = .ok counters.toKeyedText) :
    s.readNode files path = .ok { counters with id := inode } := by
  rw [readNode_eq_ofKeyedText htext hinode]
  exact NodeCounters.ofKeyedText_parse _ _ hslots

theorem readNode_of_readText_address (htext : files.readText path = .ok
      (counters.toKeyedText ++ String.ofList (keyedLine "address" (counterText counters.id)))) :
    s.readNode files path = .ok counters := by
  rw [readNode_eq_ofKeyedText htext hinode]
  exact NodeCounters.ofKeyedText_parse_address _ _ hslots

end

/-- **Counters read back.** From a file with the text of a controller its counters are read, all of
them and for all values. From a file with the text of a node its counters are read where the usage
history has as many slots as the constants say. The number of the file then tells the node from
others, unless a line with the address of the node stands at the end. -/
theorem counters_read_back (files : FileTree) (path : FilePath) (inode : UInt64) :
    (∀ c : ControllerCounters,
      files.nodeAt path = .ok (.file inode (Text.encode c.toKeyedText)) →
      readController files path = .ok c) ∧
    ∀ (s : Snapshot) (n : NodeCounters), n.usages.length = s.constants.usageSlots.toNat →
      (files.nodeAt path = .ok (.file inode (Text.encode n.toKeyedText)) →
        s.readNode files path = .ok { n with id := inode }) ∧
      (files.nodeAt path = .ok (.file inode (Text.encode
          (n.toKeyedText ++ String.ofList (keyedLine "address" (counterText n.id))))) →
        s.readNode files path = .ok n) := by
  refine ⟨fun c hfile => ?_, fun s n hslots => ⟨fun hfile => ?_, fun hfile => ?_⟩⟩
  · exact readController_of_readText (FileTree.readText_of_nodeAt_encode hfile rfl)
  · exact readNode_of_readText (FileTree.inode?_of_nodeAt hfile) hslots
      (FileTree.readText_of_nodeAt_encode hfile rfl)
  · exact readNode_of_readText_address (FileTree.inode?_of_nodeAt hfile) hslots
      (FileTree.readText_of_nodeAt_encode hfile rfl)

/-- A node without slots, with the greatest counter and the least delay that there are. -/
def extremeNode : NodeCounters where
  id := 18446744073709551615
  vtime := 18446744073709551615
  useDelay := -9223372036854775808

/-- The node in two files, with and without its address, and a controller in a third one. -/
def extremeFiles : FileTree where
  top := .directory
    [(nodeName 7, .file 3 (Text.encode extremeNode.toKeyedText)),
      (nodeName 8, .file 4 (Text.encode (extremeNode.toKeyedText ++
        String.ofList (keyedLine "address" (counterText extremeNode.id))))),
      (controllerName 7,
        .file 5 (Text.encode ({ busyLevel := -1 } : ControllerCounters).toKeyedText))]

theorem counters_read_back_extremeNode :
    let s : Snapshot := ⟨.ofString "/", { usageSlots := 0 }⟩
    s.readNode extremeFiles (s.root.descend [nodeName 7]) = .ok { extremeNode with id := 3 } ∧
      s.readNode extremeFiles (s.root.descend [nodeName 8]) = .ok extremeNode ∧
      readController extremeFiles (s.root.descend [controllerName 7]) =
        .ok { busyLevel := -1 } := by
  intro s
  have hroot : extremeFiles.nodeAt s.root = .ok extremeFiles.top := FileTree.nodeAt_slash rfl
  refine ⟨((counters_read_back _ _ 3).2 s extremeNode rfl).1 ?_,
    ((counters_read_back _ _ 4).2 s extremeNode rfl).2 ?_, (counters_read_back _ _ 5).1 _ ?_⟩
  · exact FileTree.nodeAt_descend hroot rfl nofun (by decide)
  · exact FileTree.nodeAt_descend hroot rfl nofun (by decide)
  · exact FileTree.nodeAt_descend hroot rfl nofun (by decide)

/-- **The first failing check is reported.** Counters are read from a file if its text passes every
check; otherwise reading fails as the first of the checks does that fails, in the order of the
checks. A file that is not UTF-8 has no text to be checked, and cannot be read. -/
theorem first_failing_check_reported {inode : UInt64} {bytes : List UInt8}
    (hfile : files.nodeAt path = .ok (.file inode bytes)) (s : Snapshot) :
    (Text.decode? bytes = none →
      readController files path = .error (.unreadable path.shown .notUtf8) ∧
        s.readNode files path = .error (.unreadable path.shown .notUtf8)) ∧
    ∀ content, Text.decode? bytes = some content →
      ((∃ c, readController files path = .ok c) ↔
        ∀ check ∈ ControllerCounters.checks, check.Passes content) ∧
      (∀ e, readController files path = .error e ↔
        KeyedCheck.FirstFails path.shown content ControllerCounters.checks e) ∧
      ((∃ n, s.readNode files path = .ok n) ↔
        ∀ check ∈ NodeCounters.checks s.constants.usageSlots, check.Passes content) ∧
      ∀ e, s.readNode files path = .error e ↔
        KeyedCheck.FirstFails path.shown content (NodeCounters.checks s.constants.usageSlots)
          e := by
  have hread := FileTree.readText_of_nodeAt hfile
  constructor
  · intro hdecode
    rw [hdecode, Option.elim_none] at hread
    exact ⟨readController_of_readText_eq_error hread, readNode_of_readText_eq_error hread⟩
  · intro content hdecode
    rw [hdecode, Option.elim_some] at hread
    rw [readController_eq_ofKeyedText hread,
      readNode_eq_ofKeyedText hread (FileTree.inode?_of_nodeAt hfile)]
    exact ⟨ControllerCounters.exists_ofKeyedText_parse_iff,
      fun _ => ControllerCounters.ofKeyedText_parse_eq_error_iff,
      NodeCounters.exists_ofKeyedText_parse_iff,
      fun _ => NodeCounters.ofKeyedText_parse_eq_error_iff⟩

/-- A file with many faults: values that are not numbers, a value that is overridden, missing
keys. -/
def faultyText : String := "weight abc\nusages 1 2\nactive -1\naddress 7\nusages 3 x y\n"

def faultyFiles : FileTree where
  top := .directory [(nodeName 7, .file 3 (Text.encode faultyText))]

/-- The fault to be reported is neither the first in the file nor the only one. -/
theorem first_failing_check_reported_faultyText :
    KeyedCheck.FirstFails "/iocg.7" faultyText (NodeCounters.checks 2)
        (.invalidValue "/iocg.7" "usages" "x") ∧
      KeyedCheck.FirstFails "/iocg.7" faultyText ControllerCounters.checks
        (.missingKey "/iocg.7" "enabled") := by
  let s : Snapshot := ⟨.ofString "/", { usageSlots := 2 }⟩
  have hroot : faultyFiles.nodeAt s.root = .ok faultyFiles.top := FileTree.nodeAt_slash rfl
  have hfile : faultyFiles.nodeAt (s.root.descend [nodeName 7]) =
      .ok (.file 3 (Text.encode faultyText)) :=
    FileTree.nodeAt_descend hroot rfl nofun (by decide)
  obtain ⟨-, hcontroller, -, hnode⟩ :=
    (first_failing_check_reported hfile s).2 faultyText (Text.decode?_encode faultyText)
  refine ⟨(hnode _).mp ?_, (hcontroller _).mp ?_⟩
  · rw [readNode_eq_ofKeyedText (FileTree.readText_of_nodeAt_encode hfile rfl)
      (FileTree.inode?_of_nodeAt hfile)]
    rfl
  · rw [readController_eq_ofKeyedText (FileTree.readText_of_nodeAt_encode hfile rfl)]
    rfl

theorem line_feed_not_mem_of_resolve {device : String} {binding : Binding FilePath FilePath}
    (h : s.resolve files device = .ok binding) : '\n' ∉ device.toList := by
  obtain ⟨devices, hdevices, h⟩ := Except.exists_of_bind_eq_ok h
  obtain ⟨content, -, rfl⟩ := Except.exists_of_map_eq_ok hdevices
  obtain ⟨queue?, hqueue, h⟩ := Except.exists_of_bind_eq_ok h
  cases queue? with
  | none => cases h
  | some queue =>
    unfold KeyedText.optional at hqueue
    split at hqueue
    case h_1 value hlookup => exact KeyedText.line_feed_not_mem_of_lookup? hlookup
    case h_2 => cases hqueue

end Iocost.Snapshot
