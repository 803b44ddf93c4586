import Iocost.Proofs.NameFilter
import Iocost.Proofs.Sampler.Selection

/-!
# Samples under several patterns

If an engine compiles a list of patterns whenever it compiles each of them, sizes apart, and finds
the matches of all of them, then only the set of the texts counts. Filters that are not empty leave
the choice to the patterns alone, and a sample under two lists of them shows what the samples under
each of the lists show (`Sampler.sample_append_patterns`).
-/

namespace Iocost

variable {engine : PatternEngine} {language : PatternLanguage}

namespace NameFilter

variable {patterns others : List String} {filter other : NameFilter}

/-- With more patterns, more paths pass. -/
theorem accepts_of_subset (hengine : engine.Compiles language)
    (h : ofPatterns engine patterns = .ok filter) (hne : patterns ≠ [])
    (h' : ofPatterns engine others = .ok other) (hsub : patterns ⊆ others) {path : String}
    (haccepts : filter.accepts path = true) : other.accepts path = true := by
  obtain ⟨p, hp, hmatch⟩ := (accepts_iff hengine h hne).mp haccepts
  have hne' : others ≠ [] := List.ne_nil_of_mem (hsub hp)
  exact (accepts_iff hengine h' hne').mpr ⟨p, hsub hp, hmatch⟩

theorem accepts_append {both : NameFilter} (hengine : engine.Compiles language)
    (h : ofPatterns engine patterns = .ok filter) (hne : patterns ≠ [])
    (h' : ofPatterns engine others = .ok other) (hne' : others ≠ [])
    (hboth : ofPatterns engine (patterns ++ others) = .ok both) {path : String} :
    both.accepts path = true ↔ filter.accepts path = true ∨ other.accepts path = true := by
  rw [accepts_iff hengine hboth (List.append_ne_nil_of_left_ne_nil hne others),
    accepts_iff hengine h hne, accepts_iff hengine h' hne']
  simp only [List.mem_append, or_and_right, exists_or]

end NameFilter

namespace Sampler

variable {Member Node Controller : Type}

/-- The sampler with another filter. -/
def withFilter (s : Sampler Member Controller) (filter : NameFilter) : Sampler Member Controller :=
  { s with settings := { s.settings with filter := filter } }

section

variable {s : Sampler Member Controller} {source : Source Member Node Controller}
  {controller : ControllerCounters} {filter : NameFilter}

/-- Under patterns an entry is shown if its path passes and its node can be read. -/
theorem row?_withFilter_eq_some_iff (hempty : filter.isEmpty = false)
    {entry : Entry Member Node} {row : Row} :
    (s.withFilter filter).row? source controller entry = some row ↔
      filter.accepts entry.path = true ∧ ∃ counters, source.readNode entry.node = .ok counters ∧
        row = source.row controller (entry, counters) := by
  cases hread : source.readNode entry.node with
  | error f => simp [row?, hread]
  | ok counters =>
    have hshown : filter.accepts entry.path = true ∧
        (filter.isEmpty = false ∨ counters.isActive = true) ↔ filter.accepts entry.path = true :=
      and_iff_left (.inl hempty)
    rw [row?_of_readNode hread]
    simp only [withFilter, hshown, Option.ite_none_right_eq_some, Option.some.injEq,
      Except.ok.injEq, exists_eq_left']
    exact and_congr_right' eq_comm

/-- Samples under different filters differ in their rows only. -/
theorem exists_sample_withFilter
    (hread : source.readController s.binding.controller = .ok controller) (timestamp : Binary64) :
    ∃ base : Sample, ∀ filter, (s.withFilter filter).sample source timestamp = .ok
      { base with
        rows := (s.entries source).filterMap ((s.withFilter filter).row? source controller) } := by
  refine ⟨⟨s.settings.device, timestamp, .derive controller source.constants, []⟩, fun filter => ?_⟩
  have hread' : source.readController (s.withFilter filter).binding.controller = .ok controller :=
    hread
  simp only [sample, hread']
  rfl

end

section

variable {s : Sampler Member Controller} {source : Source Member Node Controller}
  {controller : ControllerCounters} {first second : NameFilter}

theorem rows_sublist (hsecond : second.isEmpty = false)
    (haccepts : ∀ path, first.accepts path = true → second.accepts path = true) :
    ((s.entries source).filterMap ((s.withFilter first).row? source controller)).Sublist
      ((s.entries source).filterMap ((s.withFilter second).row? source controller)) := by
  change List.Sublist (((s.withFilter first).entries source).filterMap _)
    (((s.withFilter second).entries source).filterMap _)
  rw [filterMap_row?, filterMap_row?]
  refine (List.monotone_filter_right _ fun read hread => ?_).map _
  obtain ⟨hvisible, hpath, -⟩ := of_decide_eq_true hread
  exact decide_eq_true ⟨hvisible, haccepts _ hpath, .inl hsecond⟩

variable (hfirst : first.isEmpty = false) (hsecond : second.isEmpty = false)

include hfirst hsecond

theorem row?_congr (haccepts : ∀ path, first.accepts path = true ↔ second.accepts path = true) :
    (s.withFilter first).row? source controller = (s.withFilter second).row? source controller := by
  funext entry
  refine Option.ext fun row => ?_
  rw [row?_withFilter_eq_some_iff hfirst, row?_withFilter_eq_some_iff hsecond, haccepts]

theorem row?_eq_some_iff_or {both : NameFilter} (hboth : both.isEmpty = false)
    (haccepts : ∀ path, both.accepts path = true ↔
      first.accepts path = true ∨ second.accepts path = true) {entry : Entry Member Node}
    {row : Row} :
    (s.withFilter both).row? source controller entry = some row ↔
      (s.withFilter first).row? source controller entry = some row ∨
        (s.withFilter second).row? source controller entry = some row := by
  rw [row?_withFilter_eq_some_iff hboth, row?_withFilter_eq_some_iff hfirst,
    row?_withFilter_eq_some_iff hsecond, haccepts, or_and_right]

end

/-- **Patterns are combined by or.** Two lists of patterns that are put together make a filter if
each of them does, unless they are too large. Then an entry of the walk has a row under both lists
if it has that row under one of them, and nothing else in the sample depends on the patterns. So
only the set of the patterns counts, and what is shown under some of them is shown, in the same
order, under more. -/
theorem sample_append_patterns (hengine : engine.Compiles language)
    (source : Source Member Node Controller) (s : Sampler Member Controller)
    {controller : ControllerCounters}
    (hread : source.readController s.binding.controller = .ok controller) {ps qs : List String}
    (hps : ps ≠ []) (hqs : qs ≠ []) :
    ((∀ patterns ∈ [ps, qs, ps ++ qs], ∀ limit,
        NameFilter.ofPatterns engine patterns ≠ .error (.tooLarge limit)) →
      ((∃ both, NameFilter.ofPatterns engine (ps ++ qs) = .ok both) ↔
        (∃ first, NameFilter.ofPatterns engine ps = .ok first) ∧
          ∃ second, NameFilter.ofPatterns engine qs = .ok second) ∧
      ((∀ p, p ∈ ps ↔ p ∈ qs) →
        ((∃ first, NameFilter.ofPatterns engine ps = .ok first) ↔
          ∃ second, NameFilter.ofPatterns engine qs = .ok second))) ∧
    (∀ timestamp, ∃ base : Sample, ∀ filter, (s.withFilter filter).sample source timestamp = .ok
      { base with
        rows := (s.entries source).filterMap ((s.withFilter filter).row? source controller) }) ∧
    ∀ first second, NameFilter.ofPatterns engine ps = .ok first →
      NameFilter.ofPatterns engine qs = .ok second →
      (∀ both, NameFilter.ofPatterns engine (ps ++ qs) = .ok both → ∀ entry row,
        (s.withFilter both).row? source controller entry = some row ↔
          (s.withFilter first).row? source controller entry = some row ∨
            (s.withFilter second).row? source controller entry = some row) ∧
      (ps ⊆ qs → ∀ timestamp fewer more,
        (s.withFilter first).sample source timestamp = .ok fewer →
        (s.withFilter second).sample source timestamp = .ok more →
        fewer.rows.Sublist more.rows) ∧
      ((∀ p, p ∈ ps ↔ p ∈ qs) → ∀ timestamp,
        (s.withFilter first).sample source timestamp =
          (s.withFilter second).sample source timestamp) := by
  refine ⟨fun hsize => ?_, exists_sample_withFilter hread, fun first second hfirst hsecond =>
    ⟨fun both hboth entry row => ?_, fun hsub timestamp fewer more hfewer hmore => ?_,
      fun hsame timestamp => ?_⟩⟩
  · simp only [List.forall_mem_cons] at hsize
    obtain ⟨hps, hqs, hboth, -⟩ := hsize
    rw [NameFilter.exists_ofPatterns_iff hengine hps, NameFilter.exists_ofPatterns_iff hengine hqs,
      NameFilter.exists_ofPatterns_iff hengine hboth]
    exact ⟨List.forall_mem_append, fun hsame => forall_congr' fun p => imp_congr_left (hsame p)⟩
  · exact row?_eq_some_iff_or (NameFilter.isEmpty_of_ofPatterns hfirst hps)
      (NameFilter.isEmpty_of_ofPatterns hsecond hqs)
      (NameFilter.isEmpty_of_ofPatterns hboth (List.append_ne_nil_of_left_ne_nil hps qs))
      fun path => NameFilter.accepts_append hengine hfirst hps hsecond hqs hboth
  · obtain ⟨base, hbase⟩ := exists_sample_withFilter hread timestamp
    rw [hbase] at hfewer hmore
    cases hfewer
    cases hmore
    exact rows_sublist (NameFilter.isEmpty_of_ofPatterns hsecond hqs)
      fun path => NameFilter.accepts_of_subset hengine hfirst hps hsecond hsub
  · obtain ⟨base, hbase⟩ := exists_sample_withFilter hread timestamp
    have hrow : (s.withFilter first).row? source controller =
        (s.withFilter second).row? source controller :=
      row?_congr (NameFilter.isEmpty_of_ofPatterns hfirst hps)
        (NameFilter.isEmpty_of_ofPatterns hsecond hqs) fun path =>
          ⟨NameFilter.accepts_of_subset hengine hfirst hps hsecond fun p hp => (hsame p).mp hp,
            NameFilter.accepts_of_subset hengine hsecond hqs hfirst fun p hp => (hsame p).mpr hp⟩
    rw [hbase, hbase, hrow]

/-- The idle root and a member below an offline one, each shown for a pattern of its own. -/
theorem sample_append_patterns_activeBelow :
    let source := activeBelow.source
    let s : Sampler Nat Queue := ⟨⟨"sda", ⟨none⟩, .ofParts 1 0, .table, false⟩, ⟨0, 7, 7⟩⟩
    Pattern.engine.Compiles Pattern.language ∧
      ∃ both, NameFilter.ofPatterns Pattern.engine (["/"] ++ ["a"]) = .ok both ∧
        ((s.withFilter both).row? source {} ⟨0, "/", (0, 7)⟩).isSome = true ∧
        ((s.withFilter both).row? source {} ⟨2, "a/b", (2, 7)⟩).isSome = true := by
  intro source s
  have hread : source.readController s.binding.controller = .ok {} := rfl
  obtain ⟨-, -, hrows⟩ := sample_append_patterns Pattern.compiles_engine source s hread
    (List.cons_ne_nil "/" []) (List.cons_ne_nil "a" [])
  have hfirst : NameFilter.ofPatterns Pattern.engine ["/"] = .ok ⟨some ⟨_⟩⟩ := rfl
  have hsecond : NameFilter.ofPatterns Pattern.engine ["a"] = .ok ⟨some ⟨_⟩⟩ := rfl
  have hboth : NameFilter.ofPatterns Pattern.engine (["/"] ++ ["a"]) = .ok ⟨some ⟨_⟩⟩ := rfl
  have hshown := (hrows _ _ hfirst hsecond).1 _ hboth
  refine ⟨Pattern.compiles_engine, _, hboth, ?_, ?_⟩
  · exact Option.isSome_iff_exists.mpr ⟨_, (hshown _ _).mpr (.inl rfl)⟩
  · exact Option.isSome_iff_exists.mpr ⟨_, (hshown _ _).mpr (.inr rfl)⟩

end Sampler

end Iocost
