import Iocost.Proofs.Keyed.Definitions

/-!
# Looking up a key in a flat keyed text

The value of a key is that of the last line which defines it. So when texts are joined the later one
counts first (`lookup?_append`), lines that do not define a key make no difference to it
(`lookup?_insert`), and neither does the way in which lines end (`lookup?_withReturns`).
-/

namespace Iocost

namespace KeyedText

/-! ## Definitions of the pieces between line feeds -/

theorem definition?_concat_return (line : List Char) :
    definition? (line ++ ['\r']) = definition? line := by
  have hspan (key value : String) :
      Defines (line ++ ['\r']) key value ↔ Defines line key value := by
    constructor
    · rintro ⟨hkey, text, hline, rfl⟩
      -- the carriage return is not the blank behind the key, so it is the end of the value
      rcases List.eq_nil_or_concat' text with rfl | ⟨text, c, rfl⟩
      · exact absurd (List.append_inj_right' hline rfl) (by decide)
      · rw [← List.cons_append, ← List.append_assoc] at hline
        obtain ⟨rfl, hc⟩ := List.append_inj' hline rfl
        cases hc
        exact ⟨hkey, text, rfl, by rw [Text.trim_concat (by decide)]⟩
    · rintro ⟨hkey, text, rfl, rfl⟩
      refine ⟨hkey, text ++ ['\r'], ?_, by rw [Text.trim_concat (by decide)]⟩
      rw [List.append_assoc, List.cons_append]
  refine Option.ext fun ⟨key, value⟩ => ?_
  rw [definition?_eq_some_iff, definition?_eq_some_iff, hspan]

theorem definition?_dropReturn (line : List Char) :
    definition? (Text.dropReturn line) = definition? line := by
  by_cases hreturn : line.getLast? = some '\r'
  · obtain ⟨line, rfl⟩ := List.getLast?_eq_some_iff.mp hreturn
    rw [Text.dropReturn_concat, definition?_concat_return]
  · rw [Text.dropReturn_eq_self hreturn]

theorem filterMap_definition?_lines (cs : List Char) :
    (Text.lines cs).filterMap definition? =
      (Text.pieces (· == '\n') cs).filterMap definition? := by
  obtain ⟨init, piece, hpieces⟩ :=
    (List.eq_nil_or_concat' (Text.pieces (· == '\n') cs)).resolve_left (Text.pieces_ne_nil _ cs)
  have hlast : ([piece].filter fun l => !l.isEmpty).filterMap definition? =
      [piece].filterMap definition? := by
    cases piece <;> rfl
  have hreturns : definition? ∘ Text.dropReturn = definition? := funext definition?_dropReturn
  simp only [Text.lines, hpieces, List.dropLast_concat, List.getLast?_concat, Option.toList_some,
    List.filterMap_append, hlast, List.filterMap_map, hreturns]

theorem definitions_parse_eq (path content : String) :
    (parse path content).definitions =
      ((Text.pieces (· == '\n') content.toList).filterMap definition?).reverse := by
  rw [parse, filterMap_definition?_lines]

/-! ## Joined texts -/

theorem lookup?_append {a : String} (ha : Text.IsWholeLines a.toList) (path b key : String) :
    (parse path (a ++ b)).lookup? key =
      ((parse path b).lookup? key).or ((parse path a).lookup? key) := by
  rcases ha with ha | ha
  · obtain rfl : a = "" := String.toList_inj.mp ha
    have hnone : (parse path "").lookup? key = none := rfl
    rw [String.empty_append, hnone, Option.or_none]
  · obtain ⟨init, hinit⟩ := List.getLast?_eq_some_iff.mp ha
    have hcut (rest : List Char) :
        (Text.pieces (· == '\n') (init ++ '\n' :: rest)).filterMap definition? =
          (Text.pieces (· == '\n') init).filterMap definition? ++
            (Text.pieces (· == '\n') rest).filterMap definition? := by
      rw [Text.pieces_append_separator (p := (· == '\n')) rfl, List.filterMap_append]
    have hnil : (Text.pieces (· == '\n') []).filterMap definition? = [] := rfl
    simp only [lookup?, definitions_parse_eq, String.toList_append, hinit, List.append_assoc,
      List.singleton_append, hcut, hnil, List.append_nil, List.reverse_append, List.lookup_append]

/-- A line without a blank, or with another key, does not define the key. -/
theorem not_defines {line : List Char} {key : String}
    (h : ' ' ∉ line ∨ line.takeWhile (· != ' ') ≠ key.toList) (value : String) :
    ¬Defines line key value := by
  intro hdefines
  have hdefinition := definition?_eq_some_iff.mpr hdefines
  obtain ⟨-, text, rfl, -⟩ := hdefines
  rcases h with h | h
  · exact h (List.mem_append_right _ List.mem_cons_self)
  · unfold definition? at hdefinition
    split at hdefinition
    · cases hdefinition
    · obtain ⟨hkey, -⟩ := Prod.mk.inj (Option.some.inj hdefinition)
      exact h (String.toList_ofList.symm.trans (congrArg String.toList hkey))

theorem lookup?_lines_eq_none {ls : List (List Char)} {key : String}
    (hls : ∀ line ∈ ls, '\n' ∉ line ∧ (' ' ∉ line ∨ line.takeWhile (· != ' ') ≠ key.toList))
    (path : String) :
    (parse path (String.ofList (ls.flatMap (· ++ ['\n'])))).lookup? key = none := by
  have hpieces : Text.pieces (· == '\n') (ls.flatMap (· ++ ['\n'])) = ls ++ [[]] :=
    Text.pieces_flatMap_append (fun line hline c hc => beq_eq_false_iff_ne.mpr
      fun heq => (hls line hline).1 (heq ▸ hc)) (beq_self_eq_true '\n')
  rw [lookup?, List.lookup_eq_none_iff, definitions_parse_eq, String.toList_ofList, hpieces]
  rintro ⟨other, value⟩ hmem
  obtain ⟨line, hline, hdefinition⟩ := List.mem_filterMap.mp (List.mem_reverse.mp hmem)
  rw [bne_iff_ne]
  rintro rfl
  rcases List.mem_append.mp hline with hline | hline
  · exact not_defines (hls line hline).2 value (definition?_eq_some_iff.mp hdefinition)
  · obtain rfl := List.mem_singleton.mp hline
    cases hdefinition

theorem isWholeLines_flatMap (ls : List (List Char)) :
    Text.IsWholeLines (ls.flatMap (· ++ ['\n'])) := by
  rcases List.eq_nil_or_concat' ls with rfl | ⟨init, line, rfl⟩
  · exact .inl rfl
  · refine .inr ?_
    rw [List.flatMap_append, List.flatMap_singleton, ← List.append_assoc, List.getLast?_concat]

/-- Lines that do not define the key may be put where a line begins. -/
theorem lookup?_insert {a : String} (ha : Text.IsWholeLines a.toList) {ls : List (List Char)}
    {key : String}
    (hls : ∀ line ∈ ls, '\n' ∉ line ∧ (' ' ∉ line ∨ line.takeWhile (· != ' ') ≠ key.toList))
    (path b : String) :
    (parse path (a ++ (String.ofList (ls.flatMap (· ++ ['\n'])) ++ b))).lookup? key =
      (parse path (a ++ b)).lookup? key := by
  have hwhole : Text.IsWholeLines (String.ofList (ls.flatMap (· ++ ['\n']))).toList := by
    rw [String.toList_ofList]
    exact isWholeLines_flatMap ls
  rw [lookup?_append ha, lookup?_append hwhole, lookup?_lines_eq_none hls, Option.or_none,
    lookup?_append ha]

/-! ## Ends of lines -/

theorem filterMap_definition?_congr {returned pieces : List (List Char)}
    (h : List.Forall₂ (fun line piece => line = piece ∨ line = piece ++ ['\r']) returned pieces) :
    returned.filterMap definition? = pieces.filterMap definition? := by
  induction h with
  | nil => rfl
  | @cons line piece _ _ hline _ ih =>
    have hdefinition : definition? line = definition? piece := by
      rcases hline with rfl | rfl
      · rfl
      · exact definition?_concat_return piece
    simp only [List.filterMap_cons, hdefinition, ih]

theorem lookup?_withReturns (path content key : String) :
    (parse path (String.ofList (Text.withReturns content.toList))).lookup? key =
      (parse path content).lookup? key := by
  rw [lookup?, lookup?, definitions_parse_eq, definitions_parse_eq, String.toList_ofList,
    filterMap_definition?_congr (Text.forall₂_pieces_withReturns content.toList)]

/-- **A key has the value of the last line that defines it.** That line has the key before its first
blank, and the value is what stands behind, trimmed; a key has no value only if no line defines it.
So of two texts of which the first ends where a line does, the second one counts first; lines that
do not define the key may stand between them; and lines may end in a carriage return and a line feed
all the same. -/
theorem lookup_reads_last_line (path : String) :
    (∀ content key value, (parse path content).lookup? key = some value ↔
      ∃ before line after, Text.HasLines content.toList (before ++ line :: after) ∧
        Defines line key value ∧ ∀ later ∈ after, ∀ other, ¬Defines later key other) ∧
    (∀ content key, (parse path content).lookup? key = none ↔
      ∀ ls, Text.HasLines content.toList ls → ∀ line ∈ ls, ∀ value, ¬Defines line key value) ∧
    (∀ a b key, Text.IsWholeLines a.toList → (parse path (a ++ b)).lookup? key =
      ((parse path b).lookup? key).or ((parse path a).lookup? key)) ∧
    (∀ a b key (ls : List (List Char)), Text.IsWholeLines a.toList →
      (∀ line ∈ ls, '\n' ∉ line ∧ (' ' ∉ line ∨ line.takeWhile (· != ' ') ≠ key.toList)) →
      (parse path (a ++ (String.ofList (ls.flatMap (· ++ ['\n'])) ++ b))).lookup? key =
        (parse path (a ++ b)).lookup? key) ∧
    ∀ content key, (parse path (String.ofList (Text.withReturns content.toList))).lookup? key =
      (parse path content).lookup? key := by
  refine ⟨fun content key value => ?_, fun content key => ?_,
    fun a b key ha => lookup?_append ha path b key,
    fun a b key ls ha hls => lookup?_insert ha hls path b, lookup?_withReturns path⟩
  · simp only [Text.hasLines_iff]
    exact lookup?_parse_eq_some_iff
  · simp only [Text.hasLines_iff, forall_eq']
    rw [lookup?_parse_eq_none_iff, IsDefined]
    push Not
    rfl

/-- A weight behind doubled carriage returns, lines with other keys, and a weight between blanks of
two kinds at the end of the text. -/
theorem lookup_reads_last_line_blankEnds :
    let a := "weight 100\r\r\nweights 5\n"
    let ls := ["weight\t7".toList, " weight 8".toList, "weight=9 10".toList]
    let b := "weight \u00a0200 \r"
    let content := a ++ (String.ofList (ls.flatMap (· ++ ['\n'])) ++ b)
    (Text.IsWholeLines a.toList ∧
      ∀ line ∈ ls, '\n' ∉ line ∧ (' ' ∉ line ∨ line.takeWhile (· != ' ') ≠ "weight".toList)) ∧
    (parse "iocg.7" a).lookup? "weight" = some "100" ∧
    (parse "iocg.7" content).lookup? "weight" = some "200" := by
  intro a ls b content
  have ha : Text.IsWholeLines a.toList := by decide
  have hls : ∀ line ∈ ls,
      '\n' ∉ line ∧ (' ' ∉ line ∨ line.takeWhile (· != ' ') ≠ "weight".toList) := by decide
  obtain ⟨-, -, happend, hinsert, -⟩ := lookup_reads_last_line "iocg.7"
  have hfirst : (parse "iocg.7" a).lookup? "weight" = some "100" := by decide +kernel
  have hlast : (parse "iocg.7" b).lookup? "weight" = some "200" := by decide +kernel
  refine ⟨⟨ha, hls⟩, hfirst, ?_⟩
  rw [hinsert a b "weight" ls ha hls, happend a b "weight" ha, hlast, Option.or]

end KeyedText

end Iocost
