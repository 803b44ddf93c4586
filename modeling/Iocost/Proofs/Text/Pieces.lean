import Iocost.Text.Pieces
import Mathlib.Data.List.Basic

/-!
# Lists cut at their separators

A separator ends a piece (`pieces_append_separator`), so the pieces of lines that each have their
separator behind them are those of the lines and an empty rest (`pieces_flatMap_separator`). Lines
without separators are the pieces themselves (`pieces_flatMap_append`). There is one piece more than
there are separators (`length_pieces`), and none of them in a piece (`eq_false_of_mem_pieces`).
-/

namespace Iocost.Text

variable {α : Type} {p : α → Bool}

theorem pieces_of_forall {cs : List α} (h : ∀ c ∈ cs, p c = false) : pieces p cs = [cs] := by
  induction cs with
  | nil => rfl
  | cons c cs ih =>
    simp only [pieces, h c List.mem_cons_self, Bool.false_eq_true, ↓reduceIte,
      ih fun d hd => h d (List.mem_cons_of_mem _ hd)]

theorem pieces_append_separator {c : α} (hc : p c = true) (cs rest : List α) :
    pieces p (cs ++ c :: rest) = pieces p cs ++ pieces p rest := by
  induction cs with
  | nil => simp only [List.nil_append, pieces, hc, ↓reduceIte, List.cons_append]
  | cons d cs ih =>
    obtain ⟨w, ws, hpieces⟩ := List.exists_cons_of_ne_nil (pieces_ne_nil p cs)
    rw [hpieces] at ih
    cases hd : p d with
    | true => simp only [List.cons_append, pieces, hd, ↓reduceIte, ih, hpieces]
    | false =>
      simp only [List.cons_append, pieces, hd, Bool.false_eq_true, ↓reduceIte, ih, hpieces]

theorem pieces_append_cons {cs rest : List α} {c : α} (h : ∀ d ∈ cs, p d = false)
    (hc : p c = true) : pieces p (cs ++ c :: rest) = cs :: pieces p rest := by
  rw [pieces_append_separator hc, pieces_of_forall h, List.singleton_append]

theorem pieces_flatMap_separator {c : α} (hc : p c = true) (lines : List (List α)) :
    pieces p (lines.flatMap (· ++ [c])) = lines.flatMap (pieces p) ++ [[]] := by
  induction lines with
  | nil => rfl
  | cons line lines ih =>
    rw [List.flatMap_cons, List.append_assoc, List.singleton_append, pieces_append_separator hc, ih,
      List.flatMap_cons, List.append_assoc]

theorem pieces_flatMap_append {lines : List (List α)} {c : α}
    (h : ∀ line ∈ lines, ∀ d ∈ line, p d = false) (hc : p c = true) :
    pieces p (lines.flatMap (· ++ [c])) = lines ++ [[]] := by
  rw [pieces_flatMap_separator hc,
    List.flatMap_congr fun line hline => pieces_of_forall (h line hline), List.flatMap_singleton']

theorem length_pieces (cs : List α) : (pieces p cs).length = cs.countP p + 1 := by
  induction cs with
  | nil => rfl
  | cons c cs ih =>
    obtain ⟨w, ws, hpieces⟩ := List.exists_cons_of_ne_nil (pieces_ne_nil p cs)
    rw [hpieces] at ih
    cases hc : p c with
    | true =>
      simp only [pieces, hc, ↓reduceIte, hpieces, List.length_cons, List.countP_cons, ← ih]
    | false =>
      simp only [pieces, hc, Bool.false_eq_true, ↓reduceIte, hpieces, List.length_cons,
        List.countP_cons, ← ih, Nat.add_zero]

theorem eq_false_of_mem_pieces {cs w : List α} (hw : w ∈ pieces p cs) : ∀ c ∈ w, p c = false := by
  induction cs generalizing w with
  | nil =>
    obtain rfl := List.mem_singleton.mp hw
    exact nofun
  | cons c cs ih =>
    obtain ⟨v, vs, hpieces⟩ := List.exists_cons_of_ne_nil (pieces_ne_nil p cs)
    cases hc : p c with
    | true =>
      simp only [pieces, hc, ↓reduceIte] at hw
      rcases List.mem_cons.mp hw with rfl | hw
      · exact nofun
      · exact ih hw
    | false =>
      simp only [pieces, hc, Bool.false_eq_true, ↓reduceIte, hpieces] at hw
      rw [hpieces] at ih
      rcases List.mem_cons.mp hw with rfl | hw
      · exact List.forall_mem_cons.mpr ⟨hc, ih List.mem_cons_self⟩
      · exact ih (List.mem_cons_of_mem _ hw)

end Iocost.Text
