import Iocost.Proofs.Pattern.Engine

/-!
# Filters of paths

A filter is made of patterns that are texts of their own, and a path passes where one of them
matches at its start (`NameFilter.starts_of_ofPatterns`). A torn text is an exception: it is no
pattern by itself, and between the parentheses it may be one that matches elsewhere
(`NameFilter.not_starts_of_ofPatterns`).
-/

namespace Iocost.NameFilter

variable {engine : PatternEngine} {language : PatternLanguage} {patterns : List String}
  {filter : NameFilter}

/-! ## Filters and what is compiled -/

theorem ofPatterns_of_ne_nil (hne : patterns ≠ []) :
    ofPatterns engine patterns =
      (engine.compile (patterns.map anchored)).map fun set => ⟨some set⟩ := by
  rw [ofPatterns, if_neg fun hempty => hne (List.isEmpty_iff.mp hempty)]

theorem exists_compile_of_ofPatterns (h : ofPatterns engine patterns = .ok filter)
    (hne : patterns ≠ []) :
    ∃ set, engine.compile (patterns.map anchored) = .ok set ∧ filter = ⟨some set⟩ := by
  rw [ofPatterns_of_ne_nil hne] at h
  cases hcompile : engine.compile (patterns.map anchored) with
  | error e => rw [hcompile] at h; cases h
  | ok set => rw [hcompile] at h; exact ⟨set, rfl, (Except.ok.inj h).symm⟩

theorem isEmpty_of_ofPatterns (h : ofPatterns engine patterns = .ok filter)
    (hne : patterns ≠ []) : filter.isEmpty = false := by
  obtain ⟨set, -, rfl⟩ := exists_compile_of_ofPatterns h hne
  rfl

theorem isPattern_of_ofPatterns (hengine : engine.Compiles language)
    (h : ofPatterns engine patterns = .ok filter) :
    ∀ p ∈ patterns, language.IsPattern (anchored p) := by
  intro p hp
  obtain ⟨set, hcompile, -⟩ := exists_compile_of_ofPatterns h (List.ne_nil_of_mem hp)
  exact hengine.isPattern hcompile _ (List.mem_map_of_mem hp)

/-- Texts that are not too large are refused only because of one of them. -/
theorem exists_ofPatterns_iff (hengine : engine.Compiles language)
    (hsize : ∀ limit, ofPatterns engine patterns ≠ .error (.tooLarge limit)) :
    (∃ filter, ofPatterns engine patterns = .ok filter) ↔
      ∀ p ∈ patterns, language.IsPattern (anchored p) := by
  refine ⟨fun ⟨filter, hfilter⟩ => isPattern_of_ofPatterns hengine hfilter, fun hall => ?_⟩
  by_cases hne : patterns = []
  · exact ⟨⟨none⟩, by rw [hne]; rfl⟩
  rw [ofPatterns_of_ne_nil hne] at hsize ⊢
  cases hcompile : engine.compile (patterns.map anchored) with
  | ok set => exact ⟨⟨some set⟩, rfl⟩
  | error e =>
    cases e with
    | tooLarge limit => exact absurd (congrArg (Except.map _) hcompile) (hsize limit)
    | malformed =>
      obtain ⟨text, htext, hnot⟩ := hengine.exists_not_isPattern hcompile
      obtain ⟨p, hp, rfl⟩ := List.mem_map.mp htext
      exact absurd (hall p hp) hnot

/-- A path passes where one of the patterns matches, caret and all. -/
theorem accepts_iff (hengine : engine.Compiles language)
    (h : ofPatterns engine patterns = .ok filter) (hne : patterns ≠ []) {path : String} :
    filter.accepts path = true ↔
      ∃ p ∈ patterns, ∃ start, language.StartsAt (anchored p) path start := by
  obtain ⟨set, hcompile, rfl⟩ := exists_compile_of_ofPatterns h hne
  rw [accepts, Option.all_some, hengine.isMatch_iff hcompile]
  simp only [List.mem_map, exists_exists_and_eq_and]

/-! ## Matches at the start -/

/-- Where no text is torn and the patterns are not too large, there is a filter if and only if each
text is a pattern by itself that leaves room for what is put around it. Then a path passes if and
only if one of those patterns matches at its start. -/
theorem starts_of_ofPatterns (hengine : engine.Compiles language) (hgroups : language.HasGroups)
    (patterns : List String) (htorn : ∀ p ∈ patterns, ¬language.IsTorn p) :
    ((∀ limit, ofPatterns engine patterns ≠ .error (.tooLarge limit)) →
      ((∃ filter, ofPatterns engine patterns = .ok filter) ↔
        ∀ p ∈ patterns, language.IsPattern p ∧ language.LeavesRoom p)) ∧
    ∀ filter, ofPatterns engine patterns = .ok filter →
      (∀ p ∈ patterns, language.IsPattern p ∧ language.LeavesRoom p) ∧
      (patterns ≠ [] → ∀ path,
        (filter.accepts path = true ↔ ∃ p ∈ patterns, language.StartsAt p path 0)) := by
  have hanchored : (∀ p ∈ patterns, language.IsPattern (anchored p)) ↔
      ∀ p ∈ patterns, language.IsPattern p ∧ language.LeavesRoom p :=
    forall₂_congr fun p hp => PatternLanguage.isPattern_anchored_iff hgroups (htorn p hp)
  refine ⟨fun hsize => (exists_ofPatterns_iff hengine hsize).trans hanchored, ?_⟩
  intro filter hfilter
  have hroom := hanchored.mp (isPattern_of_ofPatterns hengine hfilter)
  refine ⟨hroom, fun hne path => ?_⟩
  rw [accepts_iff hengine hfilter hne]
  refine exists_congr fun p => and_congr_right fun hp => ?_
  simp only [PatternLanguage.startsAt_anchored_iff hgroups (htorn p hp) (hroom p hp).2.1,
    exists_eq_left]

/-- Each alternative has to match at the start of a path. -/
theorem starts_of_ofPatterns_alternatives : ∃ filter,
    ofPatterns Pattern.engine ["^db/", "x+|y"] = .ok filter ∧ filter.accepts "y/z" = true ∧
      filter.accepts "zy" = false := by
  have htorn : ∀ p ∈ ["^db/", "x+|y"], ¬Pattern.language.IsTorn p := by
    have hnone : ∀ p ∈ ["^db/", "x+|y"], ')' ∉ p.toList := by decide
    exact fun p hp => PatternLanguage.not_isTorn_of_not_mem (hnone p hp)
  obtain ⟨filter, hfilter⟩ : ∃ filter, ofPatterns Pattern.engine ["^db/", "x+|y"] = .ok filter :=
    ⟨_, (ofPatterns_of_ne_nil (List.cons_ne_nil _ _)).trans
      (congrArg (Except.map _) (Pattern.compile_of_fit rfl (by decide +kernel)))⟩
  obtain ⟨hroom, haccepts⟩ := (starts_of_ofPatterns Pattern.compiles_engine
    Pattern.hasGroups_language ["^db/", "x+|y"] htorn).2 filter hfilter
  have hstarts (path : String) := haccepts (List.cons_ne_nil _ _) path
  refine ⟨filter, hfilter, (hstarts "y/z").mpr ⟨"x+|y", by decide, ?_⟩,
    Bool.eq_false_iff.mpr fun hpasses => ?_⟩
  · exact (Pattern.startsAt_zero_language_iff.mpr (by decide)).1
  · obtain ⟨p, hp, hstart⟩ := (hstarts "zy").mp hpasses
    have hoccurs := Pattern.startsAt_zero_language_iff.mp ⟨hstart, (hroom p hp).1⟩
    have hnone : ∀ p ∈ ["^db/", "x+|y"],
        ((Pattern.parse? p.toList).any fun q => q.occursAtStart "zy".toList) = false := by decide
    rw [hnone p hp] at hoccurs
    cases hoccurs

/-- A torn text is no pattern by itself, but there may be a filter of it. -/
theorem not_starts_of_ofPatterns : ¬∀ (engine : PatternEngine) (language : PatternLanguage),
    engine.Compiles language → language.HasGroups → ∀ patterns : List String,
      ((∃ filter, ofPatterns engine patterns = .ok filter) ↔
        ∀ p ∈ patterns, language.IsPattern p) ∧
      ∀ filter, ofPatterns engine patterns = .ok filter → patterns ≠ [] → ∀ path,
        (filter.accepts path = true ↔ ∃ p ∈ patterns, language.StartsAt p path 0) := by
  intro h
  have hfilter : ∃ filter, ofPatterns Pattern.engine ["a)|(?:b"] = .ok filter :=
    ⟨_, (ofPatterns_of_ne_nil (List.cons_ne_nil _ _)).trans
      (congrArg (Except.map _) (Pattern.compile_of_fit rfl (by decide +kernel)))⟩
  have hpattern := (h Pattern.engine Pattern.language Pattern.compiles_engine
    Pattern.hasGroups_language ["a)|(?:b"]).1.mp hfilter _ List.mem_cons_self
  revert hpattern
  rw [Pattern.isPattern_language_iff]
  decide

end Iocost.NameFilter
