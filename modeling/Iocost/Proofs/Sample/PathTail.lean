import Iocost.Sample.Table
import Mathlib.Data.List.Basic
import Mathlib.Data.String.Basic

/-!
# The end of a path

A path is cut at an offset in bytes, which is found by counting characters. The offset is that of a
character (`Text.getElem?_charOffsets`), so what is left are the last characters
(`Table.toList_pathTail`), as many as fit (`Table.pathTail_is_end`). But where none fits there is no
character at which to cut, and the whole path is left (`Table.not_pathTail_is_end`).
-/

namespace Iocost

theorem Text.getElem?_charOffsets (offset : Nat) (cs : List Char) (k : Nat) :
    (charOffsets offset cs)[k]? =
      cs[k]?.map fun c => (offset + String.utf8Len (cs.take k), c) := by
  induction cs generalizing offset k with
  | nil => rfl
  | cons c cs ih =>
    cases k with
    | zero => rfl
    | succ k =>
      rw [charOffsets, List.getElem?_cons_succ, List.getElem?_cons_succ, ih, List.take_succ_cons,
        String.utf8Len_cons, Nat.add_assoc, Nat.add_comm c.utf8Size]

namespace Table

open Text

/-- A text that is cut at the offset of a character. -/
theorem toList_extract_utf8Len (before after : List Char) :
    (String.Pos.Raw.extract (String.ofList (before ++ after)) ⟨String.utf8Len before⟩
      (String.ofList (before ++ after)).rawEndPos).toList = after := by
  have hcut := String.extract_of_valid before after []
  rw [List.append_nil] at hcut
  rw [String.rawEndPos_ofList, String.utf8Len_append, hcut, String.toList_ofList]

theorem toList_pathTail (path : String) (width : Nat) :
    (pathTail path width).toList = tail width path.toList := by
  obtain ⟨cs, rfl⟩ : ∃ cs, path = String.ofList cs := ⟨_, String.ofList_toList.symm⟩
  rw [pathTail, String.length_ofList, String.toList_ofList, getElem?_charOffsets, tail]
  rcases Nat.lt_or_ge (cs.length - width) cs.length with hlt | hge
  · have hwidth : width ≠ 0 := by omega
    have hcut := toList_extract_utf8Len (cs.take (cs.length - width)) (cs.drop (cs.length - width))
    rw [List.take_append_drop] at hcut
    rw [List.getElem?_eq_getElem hlt, if_neg hwidth]
    simp only [Option.map_some, Nat.zero_add]
    exact hcut
  · -- no character is the first one that fits: the width is zero, or the path is empty
    rw [List.getElem?_eq_none hge, Option.map_none]
    simp only [String.toList_ofList]
    split
    case isTrue => rfl
    case isFalse hwidth =>
      have hempty : cs.length - width = 0 := by omega
      rw [hempty, List.drop_zero]

/-- What is left of a path is an end of it. It has as many characters as fit and as there are, but
all of them where none fits. -/
theorem pathTail_is_end (path : String) (width : Nat) :
    (pathTail path width).toList <:+ path.toList ∧
      (pathTail path width).length = if width = 0 then path.length else min width path.length := by
  have hlength : (pathTail path width).length = (tail width path.toList).length := by
    rw [← toList_pathTail, String.length_toList]
  rw [hlength, toList_pathTail]
  split
  case isTrue hzero =>
    have hwhole : tail width path.toList = path.toList := if_pos hzero
    rw [hwhole, String.length_toList]
    exact ⟨List.suffix_rfl, rfl⟩
  case isFalse hwidth =>
    have hcut : tail width path.toList = path.toList.drop (path.toList.length - width) :=
      if_neg hwidth
    refine ⟨?_, by rw [length_tail hwidth, String.length_toList]⟩
    rw [hcut]
    exact List.drop_suffix _ _

/-- Of a path for which there is no room the whole is left. -/
theorem not_pathTail_is_end : ¬∀ (path : String) (width : Nat),
    (pathTail path width).toList <:+ path.toList ∧
      (pathTail path width).length = min width path.length := by
  intro h
  have hlength : (pathTail "db" 0).length = 2 := by decide +kernel
  rw [(h "db" 0).2] at hlength
  exact absurd hlength (by decide)

end Table

end Iocost
