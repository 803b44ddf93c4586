import Iocost.Proofs.Text.Pieces
import Iocost.Text.Blank

/-!
# Lines and words put together and cut again

What the lines of a text are is said by `HasLines`, apart from how they are cut (`hasLines_iff`).
Lines, each with a line feed behind it, are cut into those lines (`lines_flatMap`), and words with
blanks between them into those words (`words_intercalate`). No line has a line feed in it
(`line_feed_not_mem_of_mem_lines`). A text between characters that are not blank is trimmed already
(`trim_eq_self`), and a blank at the end of a text makes no difference (`trim_concat`).
-/

namespace Iocost.Text

theorem dropReturn_eq_self {line : List Char} (h : line.getLast? ≠ some '\r') :
    dropReturn line = line := by
  unfold dropReturn
  split
  case h_1 rest heq =>
    rw [← List.head?_reverse, heq] at h
    exact absurd rfl h
  case h_2 => rfl

theorem dropReturn_concat (line : List Char) : dropReturn (line ++ ['\r']) = line := by
  simp [dropReturn]

theorem pieces_of_line_feed_not_mem {line : List Char} (h : '\n' ∉ line) :
    pieces (· == '\n') line = [line] :=
  pieces_of_forall fun _ hc => beq_eq_false_iff_ne.mpr fun heq => h (heq ▸ hc)

theorem mem_of_mem_dropReturn {line : List Char} {c : Char} (h : c ∈ dropReturn line) :
    c ∈ line := by
  unfold dropReturn at h
  split at h
  case h_1 rest heq =>
    rw [← List.mem_reverse, heq]
    exact List.mem_cons_of_mem _ (List.mem_reverse.mp h)
  case h_2 => exact h

theorem line_feed_not_mem_of_mem_lines {cs line : List Char} (h : line ∈ lines cs) :
    '\n' ∉ line := by
  have hpiece : ∀ piece ∈ pieces (· == '\n') cs, '\n' ∉ piece := fun piece hpiece hmem =>
    Bool.noConfusion (eq_false_of_mem_pieces hpiece '\n' hmem)
  rcases List.mem_append.mp h with h | h
  · obtain ⟨piece, hmem, rfl⟩ := List.mem_map.mp h
    exact fun hfeed => hpiece piece (List.dropLast_subset _ hmem) (mem_of_mem_dropReturn hfeed)
  · exact hpiece line (List.mem_of_getLast? (Option.mem_toList.mp (List.mem_filter.mp h).1))

theorem lines_flatMap {ls : List (List Char)}
    (h : ∀ line ∈ ls, '\n' ∉ line ∧ line.getLast? ≠ some '\r') :
    lines (ls.flatMap (· ++ ['\n'])) = ls := by
  have hpieces : pieces (· == '\n') (ls.flatMap (· ++ ['\n'])) = ls ++ [[]] := by
    refine pieces_flatMap_append (fun line hline c hc => ?_) (beq_self_eq_true '\n')
    rw [beq_eq_false_iff_ne]
    rintro rfl
    exact (h line hline).1 hc
  have hreturn : ls.map dropReturn = ls :=
    (List.map_congr_left fun line hline => dropReturn_eq_self (h line hline).2).trans ls.map_id
  simp only [lines, hpieces, List.dropLast_concat, hreturn, List.getLast?_concat]
  exact List.append_nil ls

/-- These are the lines of the text. A line ends in a line feed, or in a carriage return and a line
feed; the last one may end with the text instead, unless it is empty. -/
inductive HasLines : List Char → List (List Char) → Prop where
  | empty : HasLines [] []
  | last {line : List Char} : line ≠ [] → '\n' ∉ line → HasLines line [line]
  | feed {line rest : List Char} {ls : List (List Char)} : '\n' ∉ line →
      line.getLast? ≠ some '\r' → HasLines rest ls → HasLines (line ++ '\n' :: rest) (line :: ls)
  | returnFeed {line rest : List Char} {ls : List (List Char)} : '\n' ∉ line →
      HasLines rest ls → HasLines (line ++ '\r' :: '\n' :: rest) (line :: ls)

theorem lines_of_line_feed_not_mem {line : List Char} (hne : line ≠ []) (h : '\n' ∉ line) :
    lines line = [line] := by
  simp [lines, pieces_of_line_feed_not_mem h, hne]

theorem lines_append_cons {line : List Char} (h : '\n' ∉ line) (rest : List Char) :
    lines (line ++ '\n' :: rest) = dropReturn line :: lines rest := by
  have hpieces : pieces (· == '\n') (line ++ '\n' :: rest) = line :: pieces (· == '\n') rest := by
    rw [pieces_append_separator rfl, pieces_of_line_feed_not_mem h, List.singleton_append]
  have hne := pieces_ne_nil (· == '\n') rest
  simp only [lines, hpieces, List.dropLast_cons_of_ne_nil hne, List.map_cons,
    List.getLast?_cons_of_ne_nil hne, List.cons_append]

theorem hasLines_lines (cs : List Char) : HasLines cs (lines cs) := by
  induction hn : cs.length using Nat.strongRecOn generalizing cs with
  | _ n ih =>
    by_cases hmem : '\n' ∈ cs
    · obtain ⟨line, rest, rfl, hline⟩ := List.eq_append_cons_of_mem hmem
      have hrest :=
        ih rest.length (by simp only [← hn, List.length_append, List.length_cons]; omega)
        rest rfl
      rw [lines_append_cons hline]
      by_cases hreturn : line.getLast? = some '\r'
      · obtain ⟨line, rfl⟩ := List.getLast?_eq_some_iff.mp hreturn
        rw [dropReturn_concat, List.append_assoc, List.singleton_append]
        exact .returnFeed (fun h => hline (List.mem_append_left _ h)) hrest
      · rw [dropReturn_eq_self hreturn]
        exact .feed hline hreturn hrest
    · cases cs with
      | nil => exact .empty
      | cons c cs =>
        rw [lines_of_line_feed_not_mem (List.cons_ne_nil c cs) hmem]
        exact .last (List.cons_ne_nil c cs) hmem

theorem HasLines.lines_eq {cs : List Char} {ls : List (List Char)} (h : HasLines cs ls) :
    lines cs = ls := by
  induction h with
  | empty => rfl
  | last hne hline => exact lines_of_line_feed_not_mem hne hline
  | feed hline hreturn _ ih => rw [lines_append_cons hline, dropReturn_eq_self hreturn, ih]
  | @returnFeed line rest ls hline _ ih =>
    have hreturned : '\n' ∉ line ++ ['\r'] := by simpa using hline
    have hassoc : line ++ '\r' :: '\n' :: rest = line ++ ['\r'] ++ '\n' :: rest := by simp
    rw [hassoc, lines_append_cons hreturned, dropReturn_concat, ih]

theorem hasLines_iff {cs : List Char} {ls : List (List Char)} : HasLines cs ls ↔ lines cs = ls :=
  ⟨HasLines.lines_eq, fun h => h ▸ hasLines_lines cs⟩

/-- The text ends where a line does. -/
def IsWholeLines (cs : List Char) : Prop := cs = [] ∨ cs.getLast? = some '\n'

instance : DecidablePred IsWholeLines := fun _ => inferInstanceAs (Decidable (_ ∨ _))

/-- The text with a carriage return before each line feed. -/
def withReturns (cs : List Char) : List Char :=
  cs.flatMap fun c => if c = '\n' then ['\r', '\n'] else [c]

/-- Each piece gets a carriage return at its end, but for the one that the text ends with. -/
theorem forall₂_pieces_withReturns (cs : List Char) :
    List.Forall₂ (fun returned piece => returned = piece ∨ returned = piece ++ ['\r'])
      (pieces (· == '\n') (withReturns cs)) (pieces (· == '\n') cs) := by
  induction cs with
  | nil => exact .cons (.inl rfl) .nil
  | cons c cs ih =>
    by_cases hc : c = '\n'
    · subst hc
      have hreturned : pieces (· == '\n') (withReturns ('\n' :: cs)) =
          ['\r'] :: pieces (· == '\n') (withReturns cs) :=
        pieces_append_separator (p := (· == '\n')) rfl ['\r'] (withReturns cs)
      rw [hreturned, pieces, if_pos (beq_self_eq_true '\n')]
      exact .cons (.inr rfl) ih
    · have hreturned : withReturns (c :: cs) = c :: withReturns cs := by
        rw [withReturns, List.flatMap_cons, if_neg hc, List.singleton_append, withReturns]
      have hbeq : (c == '\n') = false := beq_eq_false_iff_ne.mpr hc
      obtain ⟨w, ws, hpieces⟩ := List.exists_cons_of_ne_nil (pieces_ne_nil (· == '\n') cs)
      obtain ⟨v, vs, hreturns⟩ :=
        List.exists_cons_of_ne_nil (pieces_ne_nil (· == '\n') (withReturns cs))
      rw [hpieces, hreturns, List.forall₂_cons] at ih
      simp only [hreturned, pieces, hbeq, Bool.false_eq_true, ↓reduceIte, hpieces, hreturns]
      refine .cons ?_ ih.2
      rcases ih.1 with rfl | rfl
      · exact .inl rfl
      · exact .inr rfl

theorem words_of_forall {w : List Char} (hne : w ≠ []) (h : ∀ c ∈ w, isAsciiBlank c = false) :
    words w = [w] := by
  rw [words, pieces_of_forall h, List.filter_cons_of_pos (by simpa using hne), List.filter_nil]

theorem words_append_cons {w rest : List Char} {c : Char} (hne : w ≠ [])
    (h : ∀ d ∈ w, isAsciiBlank d = false) (hc : isAsciiBlank c = true) :
    words (w ++ c :: rest) = w :: words rest := by
  rw [words, pieces_append_cons h hc, List.filter_cons_of_pos (by simpa using hne), words]

theorem words_intercalate {ws : List (List Char)}
    (h : ∀ w ∈ ws, w ≠ [] ∧ ∀ c ∈ w, isAsciiBlank c = false) :
    words (List.intercalate [' '] ws) = ws := by
  induction ws with
  | nil => rfl
  | cons w ws ih =>
    obtain ⟨⟨hne, hw⟩, hws⟩ := List.forall_mem_cons.mp h
    cases ws with
    | nil => rw [List.intercalate_singleton, words_of_forall hne hw]
    | cons w' ws =>
      rw [List.intercalate_cons_cons, List.append_assoc, List.singleton_append,
        words_append_cons hne hw rfl, ih hws]

theorem trim_eq_self {cs : List Char} (hhead : ∀ c, cs.head? = some c → isBlank c = false)
    (hlast : ∀ c, cs.getLast? = some c → isBlank c = false) : trim cs = cs := by
  have hstart : cs.dropWhile isBlank = cs := by
    cases cs with
    | nil => rfl
    | cons c cs => exact List.dropWhile_cons_of_neg (Bool.eq_false_iff.mp (hhead c rfl))
  have hend : cs.reverse.dropWhile isBlank = cs.reverse := by
    cases hcs : cs.reverse with
    | nil => rfl
    | cons c rest =>
      refine List.dropWhile_cons_of_neg (Bool.eq_false_iff.mp (hlast c ?_))
      rw [← List.head?_reverse, hcs, List.head?_cons]
  rw [trim, hstart, dropEnd, hend, List.reverse_reverse]

theorem dropEnd_append {p : Char → Bool} {ends : List Char} (h : ∀ c ∈ ends, p c = true)
    (cs : List Char) : dropEnd p (cs ++ ends) = dropEnd p cs := by
  have hends : ∀ c ∈ ends.reverse, p c = true := fun c hc => h c (List.mem_reverse.mp hc)
  rw [dropEnd, List.reverse_append, List.dropWhile_append_of_pos hends, dropEnd]

theorem dropEnd_concat {p : Char → Bool} {c : Char} (h : p c = true) (cs : List Char) :
    dropEnd p (cs ++ [c]) = dropEnd p cs :=
  dropEnd_append (List.forall_mem_singleton.mpr h) cs

theorem trim_concat {c : Char} (h : isBlank c = true) (cs : List Char) :
    trim (cs ++ [c]) = trim cs := by
  rw [trim, trim, List.dropWhile_append]
  split
  case isTrue hempty =>
    rw [List.isEmpty_iff.mp hempty, List.dropWhile_cons_of_pos h]
    rfl
  case isFalse => exact dropEnd_concat h _

end Iocost.Text
