import Iocost.Proofs.Files.Reading
import Iocost.Proofs.Keyed.Integers
import Iocost.Snapshot.Basic

/-!
# Integers in the files of a snapshot

Integers are read exactly: those that are written in the grammar and in range are accepted with
their value, and all else is refused (`integers_read_exactly`). So a file that says whether a cgroup
is online has one number in it, and the cgroup is not online if all digits of that number are zeros.
-/

namespace Iocost

namespace Snapshot

section

variable {files : FileTree} {member : FilePath} {inode : UInt64} {bytes : List UInt8}
  (hfile : files.nodeAt (member.child onlineName) = .ok (.file inode bytes))

include hfile

theorem isOnline_of_decode? {content : String} (hdecode : Text.decode? bytes = some content) :
    isOnline files member =
      match Text.readSingle? content.toList with
      | some n => .ok (n != 0)
      | none => .error (.unreadable (member.child onlineName).shown .invalidData) := by
  have hread := FileTree.readText_of_nodeAt hfile
  rw [hdecode, Option.elim_some] at hread
  cases hsingle : Text.readSingle? content.toList <;> simp only [isOnline, hread, hsingle]

theorem isOnline_of_decode?_eq_none (hdecode : Text.decode? bytes = none) :
    isOnline files member = .error (.unreadable (member.child onlineName).shown .notUtf8) := by
  have hread := FileTree.readText_of_nodeAt hfile
  rw [hdecode, Option.elim_none] at hread
  simp only [isOnline, hread]

theorem isOnline_eq_ok_iff {online : Bool} :
    isOnline files member = .ok online ↔
      ∃ content, Text.decode? bytes = some content ∧
        ∃ n, Text.IsSingle content.toList n ∧ online = (n != 0) := by
  cases hdecode : Text.decode? bytes with
  | none => simp [isOnline_of_decode?_eq_none hfile hdecode]
  | some content =>
    simp only [isOnline_of_decode? hfile hdecode, Option.some.injEq, exists_eq_left',
      ← Text.readSingle?_eq_some_iff]
    cases Text.readSingle? content.toList with
    | none => simp
    | some n => simp [eq_comm]

theorem isOnline_eq_ok_false_iff :
    isOnline files member = .ok false ↔
      ∃ content, Text.decode? bytes = some content ∧ Text.IsZeros content.toList := by
  rw [isOnline_eq_ok_iff hfile]
  constructor
  · rintro ⟨content, hdecode, n, hsingle, hzero⟩
    obtain rfl : n = 0 := bne_eq_false_iff_eq.mp hzero.symm
    exact ⟨content, hdecode, Text.isSingle_zero_iff.mp hsingle⟩
  · rintro ⟨content, hdecode, hzeros⟩
    exact ⟨content, hdecode, 0, Text.isSingle_zero_iff.mpr hzeros, rfl⟩

theorem isOnline_eq_ok_true_iff :
    isOnline files member = .ok true ↔
      ∃ content, Text.decode? bytes = some content ∧
        (∃ n, Text.IsSingle content.toList n) ∧ ¬Text.IsZeros content.toList := by
  rw [isOnline_eq_ok_iff hfile]
  constructor
  · rintro ⟨content, hdecode, n, hsingle, hne⟩
    refine ⟨content, hdecode, ⟨n, hsingle⟩, fun hzeros => ?_⟩
    rw [hsingle.unique (Text.isSingle_zero_iff.mpr hzeros)] at hne
    cases hne
  · rintro ⟨content, hdecode, ⟨n, hsingle⟩, hzeros⟩
    refine ⟨content, hdecode, n, hsingle, (bne_iff_ne.mpr ?_).symm⟩
    rintro rfl
    exact hzeros (Text.isSingle_zero_iff.mp hsingle)

theorem isOnline_eq_error_iff {e : Failure} :
    isOnline files member = .error e ↔ ∃ cause,
      e = .unreadable (member.child onlineName).shown cause ∧
        (cause = .notUtf8 ∧ Text.decode? bytes = none ∨
          cause = .invalidData ∧ ∃ content, Text.decode? bytes = some content ∧
            ¬∃ n, Text.IsSingle content.toList n) := by
  cases hdecode : Text.decode? bytes with
  | none => simp [isOnline_of_decode?_eq_none hfile hdecode, eq_comm]
  | some content =>
    simp only [isOnline_of_decode? hfile hdecode, Option.some.injEq, exists_eq_left',
      ← Text.readSingle?_eq_some_iff]
    cases Text.readSingle? content.toList with
    | none => simp [eq_comm]
    | some n => simp

end

end Snapshot

/-- **Integers are read exactly.** A counter is read from the value that a text defines last for
its key, if that value is one or more digits, with a plus sign or without it, of a number below
`2 ^ 64`. A counter with a sign may have a minus sign as well, and is from `-2 ^ 63` up to
`2 ^ 63 - 1`; a flag is such a number, and is set unless that is zero. What is read is the number
that the digits stand for. A text that is nothing but one number may have ASCII blanks behind it. So
a file says that a cgroup is not online if it is zeros, with a plus sign or without it, and ASCII
blanks behind them. It says that the cgroup is online if it is another number, and all else is
invalid. -/
theorem integers_read_exactly :
    (∀ cs n, Text.IsDigits cs n ↔
      ∃ zeros, cs = List.replicate zeros '0' ++ Nat.toDigits 10 n) ∧
    (∀ cs, (∃ n, Text.IsUnsigned cs n) ↔ ∃ digits n, (cs = digits ∨ cs = '+' :: digits) ∧
      Text.IsDigits digits n ∧ n < 2 ^ 64) ∧
    (∀ cs, (∃ i, Text.IsSigned cs i) ↔ ∃ digits n, Text.IsDigits digits n ∧
      ((cs = digits ∨ cs = '+' :: digits) ∧ n < 2 ^ 63 ∨ cs = '-' :: digits ∧ n ≤ 2 ^ 63)) ∧
    (∀ path content key,
      (∀ n, (KeyedText.parse path content).counter key = .ok n ↔
        ∃ value, KeyedText.LastDefines content key value ∧ Text.IsUnsigned value.toList n) ∧
      (∀ i, (KeyedText.parse path content).signedCounter key = .ok i ↔
        ∃ value, KeyedText.LastDefines content key value ∧ Text.IsSigned value.toList i) ∧
      ∀ b, (KeyedText.parse path content).flag key = .ok b ↔
        ∃ value i, KeyedText.LastDefines content key value ∧ Text.IsSigned value.toList i ∧
          b = (i != 0)) ∧
    (∀ cs n, Text.readSingle? cs = some n ↔ Text.IsSingle cs n) ∧
    ∀ (files : FileTree) (member : FilePath) (inode : UInt64) (bytes : List UInt8),
      let path := member.child Snapshot.onlineName
      files.nodeAt path = .ok (.file inode bytes) →
      (Snapshot.isOnline files member = .ok false ↔
        ∃ content, Text.decode? bytes = some content ∧ Text.IsZeros content.toList) ∧
      (Snapshot.isOnline files member = .ok true ↔
        ∃ content, Text.decode? bytes = some content ∧
          (∃ n, Text.IsSingle content.toList n) ∧ ¬Text.IsZeros content.toList) ∧
      ∀ e, Snapshot.isOnline files member = .error e ↔ ∃ cause,
        e = .unreadable path.shown cause ∧
          (cause = .notUtf8 ∧ Text.decode? bytes = none ∨
            cause = .invalidData ∧ ∃ content, Text.decode? bytes = some content ∧
              ¬∃ n, Text.IsSingle content.toList n) :=
  ⟨fun _ _ => Text.isDigits_iff, fun _ => Text.exists_isUnsigned_iff,
    fun _ => Text.exists_isSigned_iff,
    fun _ _ _ => ⟨fun _ => KeyedText.counter_parse_eq_ok_iff,
      fun _ => KeyedText.signedCounter_parse_eq_ok_iff, fun _ => KeyedText.flag_parse_eq_ok_iff⟩,
    fun _ _ => Text.readSingle?_eq_some_iff,
    fun _ _ _ _ hfile => ⟨Snapshot.isOnline_eq_ok_false_iff hfile,
      Snapshot.isOnline_eq_ok_true_iff hfile, fun _ => Snapshot.isOnline_eq_error_iff hfile⟩⟩

/-- A cgroup with a file that says whether it is online. -/
def Snapshot.onlineFiles (text : String) : FileTree where
  top := .directory [(Snapshot.onlineName, .file 3 (Text.encode text))]

/-- Blanks are looked for behind a number only, and the least number that has no place in 64 bits is
refused. -/
theorem integers_read_exactly_blanks :
    let root := FilePath.ofString "/"
    Snapshot.isOnline (Snapshot.onlineFiles "+00 \r\n") root = .ok false ∧
    Snapshot.isOnline (Snapshot.onlineFiles "18446744073709551615\n") root = .ok true ∧
    ∀ text ∈ [" 0", "-0", "+", "18446744073709551616"],
      Snapshot.isOnline (Snapshot.onlineFiles text) root =
        .error (.unreadable (root.child Snapshot.onlineName).shown .invalidData) := by
  intro root
  have hchild : root.descend [Snapshot.onlineName] = root.child Snapshot.onlineName := rfl
  have hfile (text : String) : (Snapshot.onlineFiles text).nodeAt (root.child Snapshot.onlineName) =
      .ok (.file 3 (Text.encode text)) := by
    have hroot : (Snapshot.onlineFiles text).nodeAt root = .ok (Snapshot.onlineFiles text).top :=
      FileTree.nodeAt_slash rfl
    rw [← hchild]
    exact FileTree.nodeAt_descend hroot rfl nofun (by decide)
  have hblanks : ∀ c ∈ [' ', '\r', '\n'], Text.isAsciiBlank c = true :=
    List.all_eq_true.mp (by decide)
  obtain ⟨-, -, -, -, hsingle, honline⟩ := integers_read_exactly
  refine ⟨?_, ?_, fun text htext => ?_⟩
  · exact (honline _ root 3 _ (hfile "+00 \r\n")).1.mpr
      ⟨_, Text.decode?_encode _, 1, _, .inr rfl, hblanks⟩
  · have hlast : Text.IsSingle "18446744073709551615\n".toList 0xffffffffffffffff :=
      (hsingle _ _).mp (by decide)
    refine (honline _ root 3 _ (hfile "18446744073709551615\n")).2.1.mpr
      ⟨_, Text.decode?_encode _, ⟨_, hlast⟩, fun hzeros => ?_⟩
    have hzero := (hsingle _ _).mpr (Text.isSingle_zero_iff.mpr hzeros)
    revert hzero
    decide
  · have hrefused : ∀ text ∈ [" 0", "-0", "+", "18446744073709551616"],
        Text.readSingle? text.toList = none := by decide
    refine ((honline _ root 3 _ (hfile text)).2.2 _).mpr
      ⟨_, rfl, .inr ⟨rfl, text, Text.decode?_encode _, ?_⟩⟩
    rintro ⟨n, hn⟩
    have hread := (hsingle _ _).mpr hn
    rw [hrefused text htext] at hread
    cases hread

end Iocost
