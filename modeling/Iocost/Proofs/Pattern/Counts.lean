import Iocost.Pattern.Parse
import Iocost.Proofs.Pattern.Flags

/-!
# What stands behind a repetition

The counts of a repetition are read to their closing brace, whatever stands behind it
(`isStrict_readCounts`).
-/

namespace Iocost.Pattern

open Reader

theorem isDigit_close : Char.isDigit ')' = false := by decide

/-! ## One count -/

/-- The number that decimal digits write. No digits write no number, and numbers are bounded. -/
def count? (digits : List Char) : Option (Option Nat) :=
  if digits.isEmpty then some none
  else
    let n := digits.foldl (fun n c => 10 * n + (c.toNat - '0'.toNat)) 0
    if n < 4294967296 then some (some n) else none

theorem readCount_eq (f : Flags) :
    readCount f = (ofSkip f.skipInCount).bind fun _ =>
      (f.spanReader Char.isDigit false).bind fun digits =>
        (lift (count? digits)).bind fun n =>
          (ofSkip f.skipInCount).bind fun _ => lift (some n) := by
  funext cs
  rw [readCount, ofSkip_bind, bind_apply, Flags.spanReader, Option.bind_some, bind_apply,
    lift_apply, count?]
  generalize f.span Char.isDigit false (f.skipInCount cs) = read
  obtain ⟨digits, rest⟩ := read
  dsimp only
  split
  · rfl
  · split <;> rfl

theorem isLocal_readCount (f : Flags) : Reader.IsLocal (readCount f) := by
  rw [readCount_eq]
  refine f.isLocal_skipInCount.bind fun _ => (f.isLocal_span _ false).bind fun digits => ?_
  refine (IsStrict.lift _).isLocal.bind fun n => f.isLocal_skipInCount.bind fun _ => ?_
  exact (IsStrict.lift _).isLocal

/-! ## The counts in braces -/

/-- The greatest count up to the closing brace. -/
def readMost (f : Flags) (least : Nat) : Reader (Nat × Option Nat) :=
  Reader.bind (readCount f) fun most? =>
    match most? with
    | none => lift none
    | some most => expect '\x7d' (if least ≤ most then some (least, some most) else none)

/-- The counts after the least one. -/
def readCountsAfter (f : Flags) (least : Nat) : Reader (Nat × Option Nat) :=
  ifHead '\x7d' (lift (some (least, some least))) <|
    ifHead ',' ((ofSkip f.skip).bind fun _ =>
      ifHead '\x7d' (lift (some (least, none))) (readMost f least)) (lift none)

theorem readMost_eq (f : Flags) (least : Nat) (cs : List Char) :
    readMost f least cs = (do
      let (most, rest) ← readCount f cs
      let most ← most
      match rest with
      | '\x7d' :: rest => if least ≤ most then some ((least, some most), rest) else none
      | _ => none) := by
  rw [readMost, bind_apply]
  cases readCount f cs with
  | none => rfl
  | some read =>
    obtain ⟨most?, rest⟩ := read
    cases most? with
    | none => rfl
    | some most =>
      simp only [Option.bind_eq_bind, Option.bind_some]
      generalize hset : (if least ≤ most then some (least, some most) else none) = set?
      split
      case h_1 =>
        rw [expect_cons_self, ← hset]
        split <;> rfl
      case h_2 hother => exact expect_of_ne hother

theorem readCounts_eq (f : Flags) :
    readCounts f = Reader.bind (readCount f) fun least? =>
      match least? with
      | none => lift none
      | some least => readCountsAfter f least := by
  funext cs
  rw [readCounts, bind_apply]
  cases readCount f cs with
  | none => rfl
  | some read =>
    obtain ⟨least?, rest⟩ := read
    cases least? with
    | none => rfl
    | some least =>
      simp only [Option.bind_eq_bind, Option.bind_some]
      rw [readCountsAfter]
      split
      case h_1 => rw [ifHead_cons_self, lift_apply, Option.map_some]
      case h_2 left =>
        rw [ifHead_of_ne fun rest heq => absurd (List.cons.inj heq).1 (by decide),
          ifHead_cons_self, ofSkip_bind]
        split
        case h_1 heq =>
          rw [heq, ifHead_cons_self]
          rfl
        case h_2 hother =>
          rw [ifHead_of_ne hother, readMost_eq]
          rfl
      case h_3 hbrace hcomma =>
        rw [ifHead_of_ne hbrace, ifHead_of_ne hcomma, lift_apply, Option.map_none]

/-- There is no count where a text ends or a parenthesis closes. -/
theorem readCount_of_isEnding {f : Flags} {cs : List Char} (h : IsEnding (f.skipInCount cs)) :
    ∃ rest, readCount f cs = some (none, rest) := by
  refine ⟨f.skipInCount (f.skipInCount cs), ?_⟩
  rw [readCount_eq, ofSkip_bind]
  generalize f.skipInCount cs = left at h
  cases h with
  | nil => rfl
  | close tail =>
    have hspan : f.span Char.isDigit false (')' :: tail) = ([], ')' :: tail) := by
      simp [Flags.span, isDigit_close, Flags.isBlank_close]
    rw [bind_apply, Flags.spanReader, hspan]
    rfl

theorem isStrict_readMost (f : Flags) (least : Nat) : (readMost f least).IsStrict := by
  refine (isLocal_readCount f).bind_isStrict (fun most? => ?_) fun most? => ?_
  all_goals cases most?
  · exact .lift none
  · exact .expect _ _
  · rfl
  · rfl

theorem readMost_nil (f : Flags) (least : Nat) : readMost f least [] = none := by
  have hskip : f.skipInCount [] = [] := List.suffix_nil.mp (f.skipInCount_suffix [])
  obtain ⟨rest, hread⟩ := readCount_of_isEnding (f := f) (hskip ▸ IsEnding.nil)
  rw [readMost, bind_apply, hread]
  rfl

theorem isStrict_readCountsAfter (f : Flags) (least : Nat) :
    (readCountsAfter f least).IsStrict := by
  refine (IsStrict.lift _).ifHead (.ifHead ?_ (.lift none) (by decide)) (by decide)
  exact f.isLocal_skip.bind_isStrict
    (fun _ => (IsStrict.lift _).ifHead (isStrict_readMost f least) (by decide))
    fun _ => readMost_nil f least

theorem isStrict_readCounts (f : Flags) : Reader.IsStrict (readCounts f) := by
  rw [readCounts_eq]
  refine (isLocal_readCount f).bind_isStrict (fun least? => ?_) fun least? => ?_
  all_goals cases least?
  · exact .lift none
  · exact isStrict_readCountsAfter f _
  · rfl
  · rfl

/-- The same after blanks and comments. -/
theorem readCounts_of_isEnding {f : Flags} {cs : List Char} (h : IsEnding (f.skip cs)) :
    readCounts f cs = none := by
  have hcount : IsEnding (f.skipInCount cs) := by
    unfold Flags.skip at h
    unfold Flags.skipInCount
    split
    case isTrue hextended => rwa [if_pos hextended] at h
    case isFalse hextended =>
      rw [if_neg hextended] at h
      have hkeeps := Flags.dropWhile_isBlank_append [] h
      exact hkeeps.symm ▸ h
  obtain ⟨rest, hread⟩ := readCount_of_isEnding hcount
  rw [readCounts_eq, bind_apply, hread]
  rfl

end Iocost.Pattern
