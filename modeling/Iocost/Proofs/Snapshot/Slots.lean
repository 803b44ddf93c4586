import Iocost.Proofs.Keyed.Constants
import Iocost.Snapshot.Basic

/-!
# The slots of usage histories

A file of constants may say how many slots a usage history has (`usageSlots_of_ofDirectory`). The
counters of a node are read only from a file whose usage history has that many
(`holdsSlots_of_readNode`).
-/

namespace Iocost

/-- The usage history in a file has that many slots. -/
def FileTree.HoldsSlots (t : FileTree) (p : FilePath) (slots : Nat) : Prop :=
  ∃ content value, t.readText p = .ok content ∧
    KeyedText.LastDefines content "usages" value ∧ (Text.words value.toList).length = slots

namespace Snapshot

variable {s : Snapshot} {files : FileTree}

theorem constants_of_ofDirectory {root : FilePath} (h : ofDirectory files root = .ok s) :
    (files.readText (root.child constantsName) = .error .notFound ∧ s.constants = {}) ∨
      ∃ content, files.readText (root.child constantsName) = .ok content ∧
        Constants.ofKeyedText (.parse (root.child constantsName).shown content) =
          .ok s.constants := by
  simp only [ofDirectory] at h
  split at h
  case h_1 content hread =>
    obtain ⟨c, hconstants, rfl⟩ := Except.exists_of_map_eq_ok h
    exact .inr ⟨content, hread, hconstants⟩
  case h_2 hread =>
    cases h
    exact .inl ⟨hread, rfl⟩
  case h_3 => cases h

/-- A snapshot has as many slots as its constants say, or else the default number of them. -/
theorem usageSlots_of_ofDirectory {root : FilePath} (h : ofDirectory files root = .ok s) :
    (files.readText (root.child constantsName) = .error .notFound ∧
        s.constants.usageSlots = 8) ∨
      ∃ content, files.readText (root.child constantsName) = .ok content ∧
        ((¬KeyedText.IsDefined content "nr_usage_slots" ∧
            s.constants.usageSlots = 8) ∨
          ∃ value, KeyedText.LastDefines content "nr_usage_slots" value ∧
            Text.readUnsigned? value.toList = some s.constants.usageSlots) := by
  rcases constants_of_ofDirectory h with ⟨hread, hconstants⟩ | ⟨content, hread, hconstants⟩
  · exact .inl ⟨hread, by rw [hconstants]⟩
  · exact .inr ⟨content, hread, KeyedText.counterOr_parse_eq_ok_iff.mp
      (Constants.counterOr_of_ofKeyedText hconstants .usageSlots)⟩

theorem exists_readText_of_readNode {path : FilePath} {n : NodeCounters}
    (h : s.readNode files path = .ok n) :
    ∃ content inode, files.readText path = .ok content ∧
      NodeCounters.ofKeyedText s.constants.usageSlots inode (.parse path.shown content) =
        .ok n := by
  obtain ⟨t, ht, h⟩ := Except.exists_of_bind_eq_ok h
  obtain ⟨inode, -, h⟩ := Except.exists_of_bind_eq_ok h
  obtain ⟨content, hcontent, rfl⟩ := Except.exists_of_map_eq_ok ht
  refine ⟨content, _, ?_, h⟩
  unfold reading at hcontent
  split at hcontent
  case h_1 hread =>
    cases hcontent
    exact hread
  case h_2 => cases hcontent

/-- A node that can be read has as many usages as there are slots. -/
theorem holdsSlots_of_readNode {path : FilePath} {n : NodeCounters}
    (h : s.readNode files path = .ok n) :
    files.HoldsSlots path s.constants.usageSlots.toNat ∧
      n.usages.length = s.constants.usageSlots.toNat := by
  obtain ⟨content, inode, hread, hcounters⟩ := exists_readText_of_readNode h
  obtain ⟨husages, hlength⟩ := NodeCounters.usages_of_ofKeyedText hcounters
  obtain ⟨value, hvalue, hwords⟩ := KeyedText.exists_lookup?_of_list_eq_ok husages
  exact ⟨⟨content, value, hread, KeyedText.lookup?_parse_eq_some_iff.mp hvalue,
    hwords.trans hlength⟩, hlength⟩

end Snapshot

end Iocost
