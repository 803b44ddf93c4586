import Iocost.Pattern.Engine
import Iocost.Proofs.Pattern.Anchored
import Iocost.Proofs.Pattern.Language

/-!
# The language of the engine

The patterns that the command reads are a language with groups (`hasGroups_language`), and its
engine compiles them (`compiles_engine`).
-/

namespace Iocost.Pattern

/-- The patterns that the command reads. -/
def language : PatternLanguage where
  read? text := (nested? text.toList).map fun nested =>
    ⟨nested.depth, fun path start => start ≤ path.toList.length ∧
      ∃ stop, nested.pattern.Covers (Place.list path.toList) start stop⟩
  depthLimit := depthLimit

theorem isSome_read?_language (text : String) :
    (language.read? text).isSome = (nested? text.toList).isSome := Option.isSome_map

theorem takesParenthesis_language_iff {text : String} :
    language.TakesParenthesis text ↔ (nested? (text.toList ++ [')'])).isSome := by
  rw [PatternLanguage.TakesParenthesis, isSome_read?_language, String.toList_append]
  rfl

theorem isTorn_language {text : String} (h : IsTorn text.toList) : language.IsTorn text := by
  obtain ⟨front, rest, htext, hfront, hclose⟩ := h
  refine ⟨String.ofList front, String.ofList rest, ?_, ?_, ?_⟩
  · refine String.toList_inj.mp ?_
    simp only [htext, String.toList_append, String.toList_ofList, List.append_assoc]
    rfl
  · rwa [isSome_read?_language, String.toList_ofList]
  · rw [takesParenthesis_language_iff, String.toList_ofList, hclose]
    exact Bool.false_ne_true

theorem toList_group (text : String) :
    ("(?:" ++ text ++ ")").toList = '(' :: '?' :: ':' :: (text.toList ++ [')']) := by
  rw [String.toList_append, String.toList_append, List.append_assoc]
  rfl

/-- What a text means in parentheses, unless it is torn. -/
theorem nested?_group {text : String} (h : ¬language.IsTorn text) :
    nested? ("(?:" ++ text ++ ")").toList =
      if (nested? (text.toList ++ [')'])).isSome then none
      else (nested? text.toList).map plainGroup.enclose := by
  rw [toList_group, nested?_group_eq, nested?_enclosed fun htorn => h (isTorn_language htorn)]

theorem nested?_caret {text : String} (h : ¬language.IsTorn text) :
    nested? ("^" ++ ("(?:" ++ text ++ ")")).toList =
      if (nested? (text.toList ++ [')'])).isSome then none
      else (nested? text.toList).map caretGroup.enclose := by
  rw [String.toList_append, toList_group]
  exact (nested?_caret_eq text.toList).trans
    (nested?_enclosed (fun htorn => h (isTorn_language htorn)) caretGroup)

theorem hasGroups_language : language.HasGroups where
  group htorn htakes := by
    rw [takesParenthesis_language_iff] at htakes
    simp only [language, nested?_group htorn, htakes, Bool.false_eq_true, ↓reduceIte,
      Option.map_map]
    rfl
  openGroup htorn htakes := by
    rw [takesParenthesis_language_iff] at htakes
    simp only [language, nested?_group htorn, htakes, ↓reduceIte, Option.map_none]
  caret {text} htorn := by
    simp only [language, nested?_group htorn, nested?_caret htorn]
    split
    case isTrue => rfl
    case isFalse =>
      cases nested? text.toList with
      | none => rfl
      | some nested =>
        have hstarts (path : String) (start : Nat) : (start ≤ path.toList.length ∧
            ∃ stop, (atStart nested.pattern).Covers (Place.list path.toList) start stop) ↔
              start = 0 ∧ 0 ≤ path.toList.length ∧
                ∃ stop, (group none nested.pattern).Covers (Place.list path.toList) 0 stop := by
          rw [covers_atStart_iff]
          exact ⟨fun ⟨_, hzero, hcovers⟩ => ⟨hzero, Nat.zero_le _, hcovers⟩,
            fun ⟨hzero, _, hcovers⟩ => ⟨hzero ▸ Nat.zero_le _, hzero, hcovers⟩⟩
        simp only [Option.map_some, enclose_caretGroup, enclose_plainGroup, hstarts]

theorem isPattern_language_iff {text : String} :
    language.IsPattern text ↔ (parse? text.toList).isSome := by
  rw [PatternLanguage.IsPattern, parse?_eq]
  simp only [language]
  cases nested? text.toList with
  | none => simp
  | some nested => simp [Option.isSome_iff_exists]

theorem startsAt_language_iff {text path : String} {p : Pattern}
    (hparse : parse? text.toList = some p) {start : Nat} :
    language.StartsAt text path start ↔
      start ≤ path.toList.length ∧ ∃ stop, p.Covers (Place.list path.toList) start stop := by
  rw [parse?_eq] at hparse
  obtain ⟨nested, hnested, hdepth⟩ := Option.bind_eq_some_iff.mp hparse
  split at hdepth
  case isFalse => cases hdepth
  case isTrue =>
    cases hdepth
    simp [PatternLanguage.StartsAt, language, hnested]

theorem startsAt_zero_language_iff {text path : String} :
    language.StartsAt text path 0 ∧ language.IsPattern text ↔
      (parse? text.toList).any fun p => p.occursAtStart path.toList := by
  cases hparse : parse? text.toList with
  | none => simp [isPattern_language_iff, hparse]
  | some p =>
    simp [isPattern_language_iff, startsAt_language_iff hparse, hparse, occursAtStart_iff]

/-- The patterns of texts that can all be read. -/
theorem mapM_eq_some_iff {α β : Type} {read : α → Option β} {texts : List α} {values : List β} :
    texts.mapM read = some values ↔
      (∀ text ∈ texts, (read text).isSome = true) ∧ values = texts.filterMap read := by
  induction texts generalizing values with
  | nil => exact ⟨fun h => ⟨nofun, (Option.some.inj h).symm⟩, fun h => congrArg some h.2.symm⟩
  | cons text texts ih =>
    rw [List.mapM_cons, List.forall_mem_cons]
    cases hread : read text with
    | none => simp
    | some value =>
      rw [List.filterMap_cons_some hread]
      constructor
      · intro h
        obtain ⟨rest, hrest, h⟩ :
            ∃ rest, texts.mapM read = some rest ∧ some (value :: rest) = some values :=
          Option.bind_eq_some_iff.mp h
        obtain ⟨hall, rfl⟩ := ih.mp hrest
        exact ⟨⟨rfl, hall⟩, (Option.some.inj h).symm⟩
      · rintro ⟨⟨-, hall⟩, rfl⟩
        rw [ih.mpr ⟨hall, rfl⟩]
        rfl

/-- What texts compile to that can all be read and are not too large. -/
theorem compile_of_fit {texts : List String} {patterns : List Pattern}
    (hread : (texts.mapM fun text => parse? text.toList) = some patterns)
    (hfit : fit patterns = true) :
    engine.compile texts = .ok ⟨fun text => patterns.any (·.occursIn text.toList)⟩ := by
  simp only [engine, hread, hfit, ↓reduceIte]

theorem patterns_of_compile {texts : List String} {set : PatternSet}
    (h : engine.compile texts = .ok set) :
    (∀ text ∈ texts, (parse? text.toList).isSome) ∧
      ∀ path, set.isMatch path = true ↔
        ∃ text ∈ texts, ∃ p, parse? text.toList = some p ∧ p.occursIn path.toList = true := by
  simp only [engine] at h
  split at h
  case h_1 => cases h
  case h_2 patterns hread =>
    obtain ⟨hall, rfl⟩ := mapM_eq_some_iff.mp hread
    split at h
    case isFalse => cases h
    case isTrue =>
      cases h
      refine ⟨hall, fun path => ?_⟩
      simp only [List.any_eq_true, List.mem_filterMap]
      constructor
      · rintro ⟨p, ⟨text, htext, hparse⟩, hoccurs⟩
        exact ⟨text, htext, p, hparse, hoccurs⟩
      · rintro ⟨text, htext, p, hparse, hoccurs⟩
        exact ⟨p, ⟨text, htext, hparse⟩, hoccurs⟩

theorem compiles_engine : engine.Compiles language where
  isPattern h text htext := isPattern_language_iff.mpr ((patterns_of_compile h).1 text htext)
  exists_not_isPattern {texts} h := by
    by_contra hall
    have hread : ∀ text ∈ texts, (parse? text.toList).isSome := by
      intro text htext
      by_contra hnone
      exact hall ⟨text, htext, fun hpattern => hnone (isPattern_language_iff.mp hpattern)⟩
    simp only [engine, mapM_eq_some_iff.mpr ⟨hread, rfl⟩] at h
    split at h <;> cases h
  isMatch_iff h path := by
    rw [(patterns_of_compile h).2 path]
    refine exists_congr fun text => and_congr_right fun htext => ?_
    constructor
    · rintro ⟨p, hparse, hoccurs⟩
      obtain ⟨start, stop, hstart, hcovers⟩ := (occursIn_iff p path.toList).mp hoccurs
      exact ⟨start, (startsAt_language_iff hparse).mpr ⟨hstart, stop, hcovers⟩⟩
    · rintro ⟨start, hstart⟩
      obtain ⟨p, hparse⟩ := Option.isSome_iff_exists.mp ((patterns_of_compile h).1 text htext)
      obtain ⟨hstart, stop, hcovers⟩ := (startsAt_language_iff hparse).mp hstart
      exact ⟨p, hparse, (occursIn_iff p path.toList).mpr ⟨start, stop, hstart, hcovers⟩⟩

end Iocost.Pattern
