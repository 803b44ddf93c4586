import Iocost.Keyed.Basic
import Iocost.Proofs.Text.Lines

/-!
# What a flat keyed text defines

A line defines the key before its first blank, as what stands behind that blank
(`definition?_eq_some_iff`). The value of a key is that of the last line which defines it
(`lookup?_parse_eq_some_iff`), and a key that no line defines has none
(`lookup?_parse_eq_none_iff`).
-/

namespace Iocost.KeyedText

/-- The line gives the key the value. -/
def Defines (line : List Char) (key value : String) : Prop :=
  ' ' ∉ key.toList ∧
    ∃ text, line = key.toList ++ ' ' :: text ∧ value = String.ofList (Text.trim text)

/-- Some line of the text defines the key. -/
def IsDefined (content key : String) : Prop :=
  ∃ line ∈ Text.lines content.toList, ∃ value, Defines line key value

/-- The value of the last line of the text that defines the key. -/
def LastDefines (content key value : String) : Prop :=
  ∃ before line after, Text.lines content.toList = before ++ line :: after ∧
    Defines line key value ∧ ∀ later ∈ after, ∀ other, ¬Defines later key other

theorem definition?_eq_some_iff {line : List Char} {key value : String} :
    definition? line = some (key, value) ↔ Defines line key value := by
  constructor
  · intro h
    unfold definition? at h
    split at h
    case h_1 => cases h
    case h_2 first text hdrop =>
      obtain ⟨rfl, rfl⟩ := Prod.mk.inj (Option.some.inj h)
      obtain rfl : first = ' ' := by
        simpa [hdrop] using List.head?_dropWhile_not (· != ' ') line
      rw [Defines, String.toList_ofList]
      refine ⟨fun hmem => ?_, text, ?_, rfl⟩
      · exact absurd (List.all_eq_true.mp List.all_takeWhile _ hmem) (by decide)
      · rw [← hdrop]
        exact List.takeWhile_append_dropWhile.symm
  · rintro ⟨hkey, text, rfl, rfl⟩
    have hbefore : ∀ c ∈ key.toList, (c != ' ') = true := by
      intro c hc
      rw [bne_iff_ne]
      rintro rfl
      exact hkey hc
    have hdrop : (key.toList ++ ' ' :: text).dropWhile (· != ' ') = ' ' :: text :=
      (List.dropWhile_append_of_pos hbefore).trans (List.dropWhile_cons_of_neg (by decide))
    have htake : (key.toList ++ ' ' :: text).takeWhile (· != ' ') = key.toList := by
      rw [List.takeWhile_append_of_pos hbefore, List.takeWhile_cons_of_neg (by decide),
        List.append_nil]
    rw [definition?, hdrop]
    simp only [htake, String.ofList_toList]

section

variable {path content key value : String}

theorem mem_definitions_parse :
    (key, value) ∈ (parse path content).definitions ↔
      ∃ line ∈ Text.lines content.toList, Defines line key value := by
  rw [parse, List.mem_reverse, List.mem_filterMap]
  exact exists_congr fun line => and_congr_right' definition?_eq_some_iff

theorem lookup?_parse_eq_none_iff :
    (parse path content).lookup? key = none ↔ ¬IsDefined content key := by
  rw [lookup?, List.lookup_eq_none_iff]
  constructor
  · rintro h ⟨line, hline, other, hdefines⟩
    exact absurd (h _ (mem_definitions_parse.mpr ⟨line, hline, hdefines⟩)) (by simp)
  · rintro h ⟨k, other⟩ hmem
    obtain ⟨line, hline, hdefines⟩ := mem_definitions_parse.mp hmem
    rw [bne_iff_ne]
    rintro rfl
    exact h ⟨line, hline, other, hdefines⟩

theorem lookup?_parse_eq_some_iff :
    (parse path content).lookup? key = some value ↔ LastDefines content key value := by
  rw [lookup?, parse, List.lookup_eq_some_iff]
  -- the definitions stand in reverse, so the first one with the key is that of the last line
  constructor
  · rintro ⟨later, earlier, hsplit, hlater⟩
    rw [List.reverse_eq_iff, List.reverse_append, List.reverse_cons, List.append_assoc,
      List.filterMap_eq_append_iff] at hsplit
    obtain ⟨before, rest, hlines, -, hrest⟩ := hsplit
    obtain ⟨skipped, line, after, rfl, -, hline, hafter⟩ := List.filterMap_eq_cons_iff.mp hrest
    refine ⟨before ++ skipped, line, after, ?_, definition?_eq_some_iff.mp hline, ?_⟩
    · rw [hlines, List.append_assoc]
    · intro l hl other hdefines
      have hmem : (key, other) ∈ after.filterMap definition? :=
        List.mem_filterMap.mpr ⟨l, hl, definition?_eq_some_iff.mpr hdefines⟩
      rw [hafter] at hmem
      exact absurd (hlater _ (List.mem_reverse.mp hmem)) (by simp)
  · rintro ⟨before, line, after, hlines, hline, hafter⟩
    refine ⟨(after.filterMap definition?).reverse, (before.filterMap definition?).reverse, ?_, ?_⟩
    · rw [hlines, List.filterMap_append,
        List.filterMap_cons_some (definition?_eq_some_iff.mpr hline), List.reverse_append,
        List.reverse_cons, List.append_assoc, List.singleton_append]
    · rintro ⟨k, other⟩ hmem
      obtain ⟨l, hl, hdefines⟩ := List.mem_filterMap.mp (List.mem_reverse.mp hmem)
      rw [bne_iff_ne]
      rintro rfl
      exact hafter l hl other (definition?_eq_some_iff.mp hdefines)

/-- The key of a definition is part of one line. -/
theorem line_feed_not_mem_of_lookup? (h : (parse path content).lookup? key = some value) :
    '\n' ∉ key.toList := by
  obtain ⟨before, line, after, hlines, ⟨-, text, rfl, -⟩, -⟩ := lookup?_parse_eq_some_iff.mp h
  have hline : key.toList ++ ' ' :: text ∈ Text.lines content.toList := by
    rw [hlines]
    exact List.mem_append_right before List.mem_cons_self
  exact fun hmem => Text.line_feed_not_mem_of_mem_lines hline (List.mem_append_left _ hmem)

end

end Iocost.KeyedText
