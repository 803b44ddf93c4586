import Iocost.Keyed.Counters
import Iocost.Proofs.Association
import Iocost.Proofs.Keyed.Definitions

/-!
# Flat keyed texts read back

A text of keyed lines is parsed into their keys and values (`definitions_parse`). When no key is
repeated each key has the value of its line (`lookup?_parse`).
-/

namespace Iocost

/-- Keyed lines, one after the other. -/
def keyedLines (pairs : List (String × List Char)) : List Char :=
  pairs.flatMap fun pair => keyedLine pair.1 pair.2

/-- The text can be a key: it does not end within itself, nor does its line. -/
def IsKey (key : String) : Prop := ' ' ∉ key.toList ∧ '\n' ∉ key.toList

instance : DecidablePred IsKey := fun _ => inferInstanceAs (Decidable (_ ∧ _))

/-- The text can be a value: it is one line, without blanks at its ends. -/
structure IsValue (value : List Char) : Prop where
  head : ∀ c, value.head? = some c → Text.isBlank c = false
  last : ∀ c, value.getLast? = some c → Text.isBlank c = false
  oneLine : '\n' ∉ value

/-- All keys can be keys, and all values can be values. -/
def ArePairs (pairs : List (String × List Char)) : Prop :=
  ∀ pair ∈ pairs, IsKey pair.1 ∧ IsValue pair.2

theorem isValue_of_not_isBlank {value : List Char} (h : ∀ c ∈ value, Text.isBlank c = false) :
    IsValue value where
  head c hc := h c (List.mem_of_head? hc)
  last c hc := h c (List.mem_of_getLast? hc)
  oneLine hmem := absurd (h '\n' hmem) (by decide)

/-- Words with blanks between them are one value. -/
theorem isValue_intercalate {ws : List (List Char)}
    (h : ∀ w ∈ ws, w ≠ [] ∧ ∀ c ∈ w, Text.isBlank c = false) :
    IsValue (List.intercalate [' '] ws) := by
  induction ws with
  | nil => exact ⟨nofun, nofun, nofun⟩
  | cons w ws ih =>
    obtain ⟨⟨hne, hw⟩, hws⟩ := List.forall_mem_cons.mp h
    cases ws with
    | nil =>
      rw [List.intercalate_singleton]
      exact isValue_of_not_isBlank hw
    | cons w' ws =>
      have hrest : List.intercalate [' '] (w' :: ws) ≠ [] := by
        cases ws with
        | nil =>
          rw [List.intercalate_singleton]
          exact (hws w' List.mem_cons_self).1
        | cons =>
          rw [List.intercalate_cons_cons, List.append_assoc]
          exact List.append_ne_nil_of_left_ne_nil (hws w' List.mem_cons_self).1 _
      have hvalue := ih hws
      rw [List.intercalate_cons_cons, List.append_assoc, List.singleton_append]
      refine ⟨fun c hc => ?_, fun c hc => ?_, fun hmem => ?_⟩
      · rw [List.head?_append_of_ne_nil _ hne] at hc
        exact hw c (List.mem_of_head? hc)
      · rw [List.getLast?_append_cons, List.getLast?_cons_of_ne_nil hrest] at hc
        exact hvalue.last c hc
      · rcases List.mem_append.mp hmem with hmem | hmem
        · exact absurd (hw _ hmem) (by decide)
        · rcases List.mem_cons.mp hmem with hmem | hmem
          · cases hmem
          · exact hvalue.oneLine hmem

namespace KeyedText

theorem definition?_line {key : String} {value : List Char} (hkey : IsKey key)
    (hvalue : IsValue value) :
    definition? (key.toList ++ ' ' :: value) = some (key, String.ofList value) := by
  have hdefines : Defines (key.toList ++ ' ' :: value) key (String.ofList value) :=
    ⟨hkey.1, value, rfl, by rw [Text.trim_eq_self hvalue.head hvalue.last]⟩
  exact definition?_eq_some_iff.mpr hdefines

theorem lines_keyedLines {pairs : List (String × List Char)} (h : ArePairs pairs) :
    Text.lines (keyedLines pairs) = pairs.map fun pair => pair.1.toList ++ ' ' :: pair.2 := by
  have hlines : keyedLines pairs =
      (pairs.map fun pair => pair.1.toList ++ ' ' :: pair.2).flatMap (· ++ ['\n']) := by
    rw [keyedLines, List.flatMap_map]
    refine List.flatMap_congr fun pair _ => ?_
    rw [keyedLine, List.append_assoc, List.cons_append]
  rw [hlines]
  refine Text.lines_flatMap fun line hline => ?_
  obtain ⟨pair, hpair, rfl⟩ := List.mem_map.mp hline
  obtain ⟨hkey, hvalue⟩ := h pair hpair
  constructor
  · rw [List.mem_append, List.mem_cons]
    rintro (hmem | hmem | hmem)
    · exact hkey.2 hmem
    · cases hmem
    · exact hvalue.oneLine hmem
  · rw [List.getLast?_append_cons]
    intro hlast
    cases hv : pair.2.getLast? with
    | none =>
      rw [List.getLast?_cons, hv] at hlast
      cases hlast
    | some c =>
      rw [List.getLast?_cons, hv] at hlast
      cases hlast
      exact absurd (hvalue.last _ hv) (by decide)

theorem definitions_parse (path : String) {pairs : List (String × List Char)} (h : ArePairs pairs) :
    (parse path (String.ofList (keyedLines pairs))).definitions =
      (pairs.map fun pair => (pair.1, String.ofList pair.2)).reverse := by
  simp only [parse, String.toList_ofList, lines_keyedLines h, List.filterMap_map]
  congr 1
  rw [← List.filterMap_eq_map]
  refine List.filterMap_congr fun pair hpair => ?_
  exact definition?_line (h pair hpair).1 (h pair hpair).2

section

variable {pairs : List (String × List Char)} {key : String} {value : List Char}

/-- A key has the value of its line, as long as no other line has that key. -/
theorem lookup?_parse (path : String) (h : ArePairs pairs)
    (hnodup : (pairs.map Prod.fst).Nodup) (hmem : (key, value) ∈ pairs) :
    (parse path (String.ofList (keyedLines pairs))).lookup? key = some (String.ofList value) := by
  rw [lookup?, definitions_parse path h, Association.lookup_eq_some_iff_mem]
  · exact List.mem_reverse.mpr (List.mem_map.mpr ⟨_, hmem, rfl⟩)
  · rw [List.map_reverse, List.nodup_reverse, List.map_map]
    exact hnodup

theorem lookup?_parse_of_not_mem (path : String) (h : ArePairs pairs)
    (hkey : key ∉ pairs.map Prod.fst) :
    (parse path (String.ofList (keyedLines pairs))).lookup? key = none := by
  rw [lookup?, definitions_parse path h, Association.lookup_eq_none_iff_not_mem, List.map_reverse,
    List.mem_reverse, List.map_map]
  exact hkey

end

/-! ## Values -/

variable {α : Type} {t : KeyedText} {read : List Char → Option α} {key : String} {a : α}
  {value : List Char}

theorem readValue_of_read (h : read value = some a) :
    t.readValue read key (String.ofList value) = .ok a := by
  rw [readValue, String.toList_ofList, h]

theorem get_of_lookup? (hlookup : t.lookup? key = some (String.ofList value))
    (hread : read value = some a) : t.get read key = .ok a := by
  rw [get, required, hlookup]
  exact readValue_of_read hread

theorem optional_of_lookup? (hlookup : t.lookup? key = some (String.ofList value))
    (hread : read value = some a) : t.optional read key = .ok (some a) := by
  rw [optional, hlookup]
  simp only [readValue_of_read hread, Except.map]

theorem optional_of_lookup?_eq_none (hlookup : t.lookup? key = none) :
    t.optional read key = .ok none := by
  rw [optional, hlookup]

theorem list_of_lookup? {values : List α} {text : α → List Char}
    (hlookup : t.lookup? key = some (String.ofList value))
    (hwords : Text.words value = values.map text) (hread : ∀ a ∈ values, read (text a) = some a) :
    t.list read key = .ok values := by
  rw [list, required, hlookup]
  simp only [Except.bind, String.toList_ofList, hwords]
  clear hlookup hwords
  induction values with
  | nil => rfl
  | cons a values ih =>
    obtain ⟨ha, hvalues⟩ := List.forall_mem_cons.mp hread
    rw [List.map_cons, List.mapM_cons, readValue_of_read ha, ih hvalues]
    rfl

end KeyedText

end Iocost
