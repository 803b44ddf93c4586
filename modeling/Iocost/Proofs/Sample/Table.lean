import Iocost.Proofs.Sample.PathTail
import Iocost.Proofs.Text.Integer
import Iocost.Proofs.Text.Lines
import Iocost.Sample.Output
import Mathlib.Algebra.Ring.Nat

/-!
# The lines of a table

Numbers and labels hold no line feed, and filling a column up adds none. So the line feeds in a row
are those in the end of its path (`Table.count_line_feed_row`), and those in the preamble are in the
name of the device. The text of a table is cut into its lines accordingly
(`Sample.pieces_text_table`).
-/

namespace Iocost

/-! ## Texts without line feeds -/

namespace Text

@[simp]
theorem line_feed_not_mem_toDigits (n : Nat) : '\n' ∉ Nat.toDigits 10 n := fun h =>
  absurd (isDigit_of_mem_toDigits h) (by decide)

@[simp]
theorem line_feed_not_mem_replicate_blank (k : Nat) : '\n' ∉ List.replicate k ' ' := fun h =>
  absurd (List.eq_of_mem_replicate h) (by decide)

@[simp]
theorem line_feed_mem_padLeft {width : Nat} {cs : List Char} :
    '\n' ∈ padLeft width cs ↔ '\n' ∈ cs := by
  simp [padLeft]

@[simp]
theorem line_feed_mem_padRight {width : Nat} {cs : List Char} :
    '\n' ∈ padRight width cs ↔ '\n' ∈ cs := by
  simp [padRight]

@[simp]
theorem line_feed_not_mem_integer (i : Int) : '\n' ∉ integer i := by
  unfold integer
  split <;> simp

@[simp]
theorem line_feed_not_mem_signedInteger (i : Int) : '\n' ∉ signedInteger i := by
  unfold signedInteger
  split <;> simp

@[simp]
theorem line_feed_not_mem_zeroPadded (width : Nat) (i : Int) : '\n' ∉ zeroPadded width i := by
  unfold zeroPadded
  split <;> simp

end Text

open Text

@[simp]
theorem Binary64.line_feed_not_mem_signText (negative : Bool) : '\n' ∉ signText negative := by
  cases negative <;> decide

@[simp]
theorem Binary64.line_feed_not_mem_fixed (places : Nat) (v : Binary64) :
    '\n' ∉ v.fixed places := by
  cases v with
  | nan => simp [fixed]
  | infinite negative => simp [fixed]
  | finite negative m =>
    have hpoint (n : Nat) : '\n' ∉ pointText places n := by
      have hdigits : '\n' ∉ List.replicate (places + 1 - (Nat.toDigits 10 n).length) '0' ++
          Nat.toDigits 10 n := by simp
      intro h
      rcases List.mem_append.mp h with h | h
      · exact hdigits (List.mem_of_mem_take h)
      · rcases List.mem_cons.mp h with h | h
        · cases h
        · exact hdigits (List.mem_of_mem_drop h)
    simp [fixed, hpoint]

namespace Decimal

theorem line_feed_not_mem_significant (d : Decimal) : '\n' ∉ d.significant := by
  have hdigits := line_feed_not_mem_toDigits d.digits
  unfold significant
  split
  case h_1 => exact List.not_mem_nil
  case h_2 c cs heq =>
    rw [heq] at hdigits
    intro h
    rcases List.mem_cons.mp h with h | h
    · exact hdigits (h ▸ List.mem_cons_self)
    · have hmem := (List.dropWhile_sublist _).subset (List.mem_reverse.mp h)
      exact hdigits (List.mem_cons_of_mem _ (List.mem_reverse.mp hmem))

theorem line_feed_not_mem_positional (d : Decimal) : '\n' ∉ d.positional := by
  have hdigits := d.line_feed_not_mem_significant
  have htake (k : Nat) : '\n' ∉ d.significant.take k := fun h => hdigits (List.mem_of_mem_take h)
  have hdrop (k : Nat) : '\n' ∉ d.significant.drop k := fun h => hdigits (List.mem_of_mem_drop h)
  unfold positional
  split
  case h_1 => simp [hdigits]
  case h_2 => simp [hdigits]
  case h_3 k _ _ =>
    dsimp only
    split <;> simp [hdigits, htake, hdrop]

theorem line_feed_not_mem_scientific (d : Decimal) : '\n' ∉ d.scientific := by
  have hdigits := d.line_feed_not_mem_significant
  have hexponent (e : Int) : '\n' ∉ exponentText e := by
    unfold exponentText
    split <;> simp
  unfold scientific
  split
  case h_1 => exact List.not_mem_nil
  case h_2 c heq =>
    rw [heq] at hdigits
    simp_all
  case h_3 c cs _ heq =>
    rw [heq] at hdigits
    simp_all

end Decimal

@[simp]
theorem line_feed_not_mem_numberText (v : Binary64) : '\n' ∉ numberText v := by
  cases v with
  | nan => decide
  | infinite negative => simp [numberText]
  | finite negative m =>
    have hmagnitude : '\n' ∉ magnitudeText m := by
      unfold magnitudeText
      dsimp only
      split
      · decide
      · split
        · exact Decimal.line_feed_not_mem_positional _
        · exact Decimal.line_feed_not_mem_scientific _
    simp [numberText, hmagnitude]

@[simp]
theorem ControllerStats.line_feed_not_mem_profileLabel (s : ControllerStats) :
    '\n' ∉ s.profileLabel.toList := by
  unfold profileLabel
  cases s.profile with
  | none => decide
  | some profile => cases profile <;> decide

@[simp]
theorem ControllerState.line_feed_not_mem_label (s : ControllerState) : '\n' ∉ s.label.toList := by
  cases s <;> decide

/-! ## Lines -/

namespace Table

theorem line_feed_not_mem_header : '\n' ∉ header := by decide

@[simp]
theorem line_feed_not_mem_userMarks (s : ControllerStats) : '\n' ∉ userMarks s := by
  unfold userMarks
  cases s.userCostModel <;> cases s.userQosParams <;> decide

theorem line_feed_mem_preamble {device : String} {s : ControllerStats} :
    '\n' ∈ preamble device s ↔ '\n' ∈ device.toList := by
  simp [preamble]

theorem line_feed_not_mem_columns (s : NodeStats) : '\n' ∉ columns s := by
  have husages : '\n' ∉ List.intercalate [':'] (s.usages.map usageText) := by
    induction s.usages with
    | nil => exact List.not_mem_nil
    | cons v usages ih =>
      cases usages with
      | nil => simp [usageText]
      | cons w usages =>
        rw [List.map_cons, List.map_cons, List.intercalate_cons_cons]
        simpa [usageText] using ih
  cases hactive : s.isActive <;> simp [columns, counterColumn, husages, hactive]

/-- The line feeds in a row are those in what it shows of its path. -/
theorem count_line_feed_row (path : String) (s : NodeStats) :
    (row path s).count '\n' = (tail pathWidth path.toList).count '\n' := by
  have hfill (k : Nat) : (List.replicate k ' ').count '\n' = 0 :=
    List.count_eq_zero.mpr (line_feed_not_mem_replicate_blank k)
  have hcolumns : (' ' :: columns s).count '\n' = 0 :=
    List.count_eq_zero.mpr (by simp [line_feed_not_mem_columns])
  rw [row, toList_pathTail, padRight, List.count_append, List.count_append, hfill, hcolumns]
  rfl

end Table

namespace Sample

theorem toList_text_table (sample : Sample) :
    (sample.text .table).toList = (Table.lines sample).flatMap (· ++ ['\n']) := by
  rw [text, String.toList_join, pieces, List.flatMap_assoc]
  refine List.flatMap_congr fun line _ => ?_
  simp

/-- The text of a table is cut into the blank line, the preamble, the header, and those lines that
the rows come to. -/
theorem pieces_text_table {sample : Sample} (hdevice : '\n' ∉ sample.device.toList) :
    Text.pieces (· == '\n') (sample.text .table).toList =
      [] :: Table.preamble sample.device sample.controller :: Table.header ::
        (sample.rows.flatMap fun row => Text.pieces (· == '\n') (Table.row row.path row.stats)) ++
          [[]] := by
  rw [toList_text_table, pieces_flatMap_separator rfl, Table.lines, List.flatMap_cons,
    List.flatMap_cons, List.flatMap_cons, List.flatMap_map,
    pieces_of_line_feed_not_mem List.not_mem_nil,
    pieces_of_line_feed_not_mem (Table.line_feed_mem_preamble.not.mpr hdevice),
    pieces_of_line_feed_not_mem Table.line_feed_not_mem_header]
  rfl

/-- A table has three lines, one for each row, and one for each line feed in the end of a path. -/
theorem count_line_feed_text_table {sample : Sample} (hdevice : '\n' ∉ sample.device.toList) :
    (sample.text .table).toList.count '\n' = 3 + sample.rows.length +
      (sample.rows.map fun row => (tail Table.pathWidth row.path.toList).count '\n').sum := by
  have hcount (line : List Char) : (line ++ ['\n']).count '\n' = line.count '\n' + 1 :=
    List.count_append
  have hrows : (sample.rows.map fun row =>
      (Table.row row.path row.stats).count '\n' + 1).sum = sample.rows.length +
        (sample.rows.map fun row => (tail Table.pathWidth row.path.toList).count '\n').sum := by
    induction sample.rows with
    | nil => rfl
    | cons row rows ih =>
      rw [List.map_cons, List.sum_cons, Table.count_line_feed_row, ih, List.map_cons,
        List.sum_cons, List.length_cons]
      omega
  have hpreamble : (Table.preamble sample.device sample.controller).count '\n' = 0 :=
    List.count_eq_zero.mpr (Table.line_feed_mem_preamble.not.mpr hdevice)
  have hheader := List.count_eq_zero.mpr Table.line_feed_not_mem_header
  rw [toList_text_table, List.count_flatMap, Table.lines, List.map_cons, List.map_cons,
    List.map_cons, List.map_map, List.sum_cons, List.sum_cons, List.sum_cons]
  simp only [Function.comp_def, hcount, hrows, hpreamble, hheader, List.count_nil]
  omega

/-- Each row is a line if no path has a line feed in what is shown of it, and only then. -/
theorem pieces_text_table_eq_rows_iff {sample : Sample} (hdevice : '\n' ∉ sample.device.toList) :
    Text.pieces (· == '\n') (sample.text .table).toList =
        [] :: Table.preamble sample.device sample.controller :: Table.header ::
          (sample.rows.map fun row => Table.row row.path row.stats) ++ [[]] ↔
      ∀ row ∈ sample.rows, '\n' ∉ tail Table.pathWidth row.path.toList := by
  constructor
  · intro hlines row hrow
    have hlength := congrArg List.length hlines
    have hcount := count_line_feed_text_table hdevice
    rw [length_pieces, ← List.count_eq_countP] at hlength
    simp only [List.cons_append, List.length_cons, List.length_append, List.length_nil,
      List.length_map] at hlength
    have hsum : (sample.rows.map fun row =>
        (tail Table.pathWidth row.path.toList).count '\n').sum = 0 := by omega
    exact List.count_eq_zero.mp
      (List.sum_eq_zero_iff_forall_eq_nat.mp hsum _ (List.mem_map_of_mem hrow))
  · intro hpaths
    have hone : ∀ row ∈ sample.rows, Text.pieces (· == '\n') (Table.row row.path row.stats) =
        [Table.row row.path row.stats] := by
      intro row hrow
      have hfeeds : '\n' ∉ Table.row row.path row.stats := by
        rw [← List.count_eq_zero, Table.count_line_feed_row, List.count_eq_zero]
        exact hpaths row hrow
      exact pieces_of_line_feed_not_mem hfeeds
    rw [pieces_text_table hdevice, List.flatMap_congr hone, List.map_eq_flatMap]

end Sample

end Iocost
