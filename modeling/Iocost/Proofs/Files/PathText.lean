import Iocost.Files.Path
import Iocost.Proofs.Text.Encoding
import Iocost.Walk

/-!
# Lists of names as paths

A list of names that are texts is shown with slashes between them. Going down by one name puts its
text behind (`pathBelow_pathText`), and the shown path tells which names it was
(`shownPath_pathText_inj`).
-/

namespace Iocost

namespace FileName

/-- The text of a name, empty for a name that is none. -/
def text (name : FileName) : String := (Text.decode? name.bytes).getD ""

/-- The name is a text. -/
def IsText (name : FileName) : Prop := (Text.decode? name.bytes).isSome = true

instance : DecidablePred IsText := fun name =>
  inferInstanceAs (Decidable ((Text.decode? name.bytes).isSome = true))

theorem bytes_injective {a b : FileName} (h : a.bytes = b.bytes) : a = b := by
  cases a
  cases b
  cases h
  rfl

theorem decode?_bytes {name : FileName} (h : name.IsText) :
    Text.decode? name.bytes = some name.text := by
  obtain ⟨t, ht⟩ := Option.isSome_iff_exists.mp h
  rw [text, ht]
  rfl

theorem encode_text {name : FileName} (h : name.IsText) : Text.encode name.text = name.bytes :=
  Text.encode_of_decode? (decode?_bytes h)

theorem bytes_ne_nil (name : FileName) : name.bytes ≠ [] := by
  intro h
  have := name.isFileName_bytes
  simp [isFileName, h] at this

theorem slash_not_mem_bytes (name : FileName) : (47 : UInt8) ∉ name.bytes := by
  intro h
  have hname := name.isFileName_bytes
  simp only [isFileName, Bool.and_eq_true, List.all_eq_true] at hname
  have := hname.2 _ h
  exact absurd this (by decide)

theorem text_ne_empty {name : FileName} (h : name.IsText) : name.text ≠ "" := by
  intro hempty
  exact name.bytes_ne_nil ((encode_text h).symm.trans (Text.encode_eq_nil.mpr hempty))

theorem slash_not_mem_text {name : FileName} (h : name.IsText) : '/' ∉ name.text.toList := by
  intro hmem
  have := (Text.mem_encode_iff (c := '/') (by decide)).mpr hmem
  rw [encode_text h] at this
  exact name.slash_not_mem_bytes this

end FileName

/-- The names with slashes between them. -/
def pathText (names : List FileName) : String := String.intercalate "/" (names.map FileName.text)

theorem splitOn_pathText {names : List FileName} (h : ∀ name ∈ names, name.IsText)
    (hne : names ≠ []) :
    (pathText names).toList.splitOn '/' = names.map fun name => name.text.toList := by
  rw [pathText, String.toList_intercalate, List.map_map]
  refine List.splitOn_intercalate '/' (fun cs hcs => ?_) (by simpa using hne)
  obtain ⟨name, hname, rfl⟩ := List.mem_map.mp hcs
  exact FileName.slash_not_mem_text (h name hname)

/-- No path begins with a slash, nor is it empty. -/
theorem head?_splitOn_pathText {names : List FileName} (h : ∀ name ∈ names, name.IsText)
    (hne : names ≠ []) : ((pathText names).toList.splitOn '/').head? ≠ some [] := by
  rw [splitOn_pathText h hne, List.head?_map]
  intro hhead
  obtain ⟨name, hname, htext⟩ := Option.map_eq_some_iff.mp hhead
  exact FileName.text_ne_empty (h name (List.mem_of_head? hname))
    (String.toList_eq_nil_iff.mp htext)

theorem pathText_eq_empty {names : List FileName} (h : ∀ name ∈ names, name.IsText) :
    pathText names = "" ↔ names = [] := by
  constructor
  · intro hempty
    by_contra hne
    refine head?_splitOn_pathText h hne ?_
    rw [hempty]
    rfl
  · rintro rfl
    rfl

theorem pathBelow_pathText {names : List FileName} {name : FileName}
    (h : ∀ name ∈ names, name.IsText) :
    pathBelow (pathText names) name.text = pathText (names ++ [name]) := by
  unfold pathBelow
  split
  case isTrue hempty =>
    obtain rfl := (pathText_eq_empty h).mp (String.isEmpty_iff.mp hempty)
    exact (String.intercalate_singleton).symm
  case isFalse hempty =>
    have hne : names ≠ [] := by
      rintro rfl
      exact hempty rfl
    rw [pathText, pathText, List.map_append,
      String.intercalate_append_of_ne_nil (by simpa using hne) (by simp)]
    rfl

theorem pathText_inj {a b : List FileName} (ha : ∀ name ∈ a, name.IsText)
    (hb : ∀ name ∈ b, name.IsText) (h : pathText a = pathText b) : a = b := by
  by_cases hnil : a = []
  · subst hnil
    exact ((pathText_eq_empty hb).mp h.symm).symm
  have hnil' : b ≠ [] := by
    rintro rfl
    exact hnil ((pathText_eq_empty ha).mp h)
  have hsplit := (splitOn_pathText ha hnil).symm.trans (h ▸ splitOn_pathText hb hnil')
  have hbytes : a.map FileName.bytes = b.map FileName.bytes := by
    have hencode := congrArg (List.map fun cs => Text.encode (String.ofList cs)) hsplit
    simp only [List.map_map, Function.comp_def, String.ofList_toList] at hencode
    rwa [List.map_congr_left fun name hname => FileName.encode_text (ha name hname),
      List.map_congr_left fun name hname => FileName.encode_text (hb name hname)] at hencode
  exact List.map_injective_iff.mpr (fun _ _ => FileName.bytes_injective) hbytes

theorem pathText_ne_slash {names : List FileName} (h : ∀ name ∈ names, name.IsText) :
    pathText names ≠ "/" := by
  intro hslash
  have hne : names ≠ [] := by
    rintro rfl
    exact absurd hslash (by decide)
  refine head?_splitOn_pathText h hne ?_
  rw [hslash]
  rfl

/-- The path that is shown is a slash for the root, and has the names with slashes between them for
all others. -/
theorem shownPath_pathText {names : List FileName} (h : ∀ name ∈ names, name.IsText) :
    shownPath (pathText names) =
      if names = [] then "/" else String.intercalate "/" (names.map FileName.text) := by
  simp only [shownPath, String.isEmpty_iff, pathText_eq_empty h]
  rfl

theorem shownPath_pathText_inj {a b : List FileName} (ha : ∀ name ∈ a, name.IsText)
    (hb : ∀ name ∈ b, name.IsText) (h : shownPath (pathText a) = shownPath (pathText b)) :
    a = b := by
  unfold shownPath at h
  split at h <;> split at h
  · rename_i hea heb
    exact ((pathText_eq_empty ha).mp (String.isEmpty_iff.mp hea)).trans
      ((pathText_eq_empty hb).mp (String.isEmpty_iff.mp heb)).symm
  · exact absurd h.symm (pathText_ne_slash hb)
  · exact absurd h (pathText_ne_slash ha)
  · exact pathText_inj ha hb h

end Iocost
