import Iocost.NameFilter

/-!
# What patterns mean

A language says which texts are patterns, how deep they nest, and where in another text their
matches begin. It has groups (`PatternLanguage.HasGroups`) if a text in parentheses means what it
means by itself and a caret in front of them holds its matches to the start, as long as the text
leaves the parentheses around it alone. An engine compiles the patterns of a language
(`PatternEngine.Compiles`) if it refuses no list of them but for its size, and finds the matches of
all of them.
-/

namespace Iocost

/-- What the text of a pattern means. -/
structure PatternMeaning where
  /-- How deep the text nests. -/
  depth : Nat
  /-- A match in a text begins behind so many of its characters. -/
  StartsAt : String → Nat → Prop

/-- A language of patterns. -/
structure PatternLanguage where
  /-- What a text means as a pattern, however deep it nests. -/
  read? : String → Option PatternMeaning
  /-- The depth that patterns may not exceed. -/
  depthLimit : Nat

theorem NameFilter.anchored_eq (pattern : String) :
    anchored pattern = "^" ++ ("(?:" ++ pattern ++ ")") := by
  rw [anchored, ← String.append_assoc, ← String.append_assoc]
  rfl

namespace PatternLanguage

variable (language : PatternLanguage)

/-- The text is a pattern by itself. -/
def IsPattern (text : String) : Prop :=
  ∃ meaning, language.read? text = some meaning ∧ meaning.depth ≤ language.depthLimit

/-- A match of the pattern begins in the text behind so many characters. -/
def StartsAt (pattern text : String) (start : Nat) : Prop :=
  ∃ meaning, language.read? pattern = some meaning ∧ meaning.StartsAt text start

/-- The text makes a closing parenthesis behind it its own, as one does that ends in a comment or
leaves a group open. -/
def TakesParenthesis (text : String) : Prop := (language.read? (text ++ ")")).isSome

/-- The text has a closing parenthesis that no opening one belongs to. What is in front of it is a
text of its own, which does not make the parenthesis its own. -/
def IsTorn (text : String) : Prop :=
  ∃ front rest, text = front ++ ")" ++ rest ∧ (language.read? front).isSome ∧
    ¬language.TakesParenthesis front

/-- Parentheses hold together a text that is not torn, and a caret in front of them stands for the
start. -/
structure HasGroups : Prop where
  group {text : String} : ¬language.IsTorn text → ¬language.TakesParenthesis text →
    language.read? ("(?:" ++ text ++ ")") =
      (language.read? text).map fun meaning => { meaning with depth := meaning.depth + 1 }
  openGroup {text : String} : ¬language.IsTorn text → language.TakesParenthesis text →
    language.read? ("(?:" ++ text ++ ")") = none
  caret {text : String} : ¬language.IsTorn text →
    language.read? ("^" ++ ("(?:" ++ text ++ ")")) =
      (language.read? ("(?:" ++ text ++ ")")).map fun meaning =>
        ⟨meaning.depth + 1, fun path start => start = 0 ∧ meaning.StartsAt path 0⟩

/-- The text can be put into a group behind a caret: it leaves the parenthesis to the group, and
does not nest too deeply for that. -/
def LeavesRoom (text : String) : Prop :=
  ¬language.TakesParenthesis text ∧
    ∀ meaning, language.read? text = some meaning → meaning.depth + 2 ≤ language.depthLimit

variable {language} {pattern : String}

theorem not_isTorn_of_not_mem {text : String} (h : ')' ∉ text.toList) :
    ¬language.IsTorn text := by
  rintro ⟨front, rest, rfl, -⟩
  refine h ?_
  rw [String.toList_append, String.toList_append]
  exact List.mem_append_left _ (List.mem_append_right _ (List.mem_singleton_self _))

theorem read?_anchored_of_takesParenthesis (hgroups : language.HasGroups)
    (htorn : ¬language.IsTorn pattern) (htakes : language.TakesParenthesis pattern) :
    language.read? (NameFilter.anchored pattern) = none := by
  rw [NameFilter.anchored_eq, hgroups.caret htorn, hgroups.openGroup htorn htakes, Option.map_none]

theorem read?_anchored (hgroups : language.HasGroups) (htorn : ¬language.IsTorn pattern)
    (htakes : ¬language.TakesParenthesis pattern) :
    language.read? (NameFilter.anchored pattern) = (language.read? pattern).map fun meaning =>
      ⟨meaning.depth + 2, fun path start => start = 0 ∧ meaning.StartsAt path 0⟩ := by
  rw [NameFilter.anchored_eq, hgroups.caret htorn, hgroups.group htorn htakes, Option.map_map]
  rfl

theorem isPattern_anchored_iff (hgroups : language.HasGroups) (htorn : ¬language.IsTorn pattern) :
    language.IsPattern (NameFilter.anchored pattern) ↔
      language.IsPattern pattern ∧ language.LeavesRoom pattern := by
  by_cases htakes : language.TakesParenthesis pattern
  · rw [IsPattern, read?_anchored_of_takesParenthesis hgroups htorn htakes]
    exact ⟨fun ⟨_, hnone, _⟩ => (nomatch hnone), fun ⟨_, hroom⟩ => absurd htakes hroom.1⟩
  · unfold IsPattern LeavesRoom
    rw [read?_anchored hgroups htorn htakes]
    cases language.read? pattern with
    | none => simp
    | some meaning =>
      simp only [Option.map_some, Option.some.injEq, exists_eq_left', forall_eq', htakes,
        not_false_eq_true, true_and]
      exact ⟨fun hdepth => ⟨Nat.le_of_add_right_le hdepth, hdepth⟩, And.right⟩

theorem startsAt_anchored_iff (hgroups : language.HasGroups) (htorn : ¬language.IsTorn pattern)
    (htakes : ¬language.TakesParenthesis pattern) {path : String} {start : Nat} :
    language.StartsAt (NameFilter.anchored pattern) path start ↔
      start = 0 ∧ language.StartsAt pattern path 0 := by
  rw [StartsAt, StartsAt, read?_anchored hgroups htorn htakes]
  cases language.read? pattern <;> simp

end PatternLanguage

/-- The engine compiles the patterns of a language, all of a list together. It refuses a list for
its size, or because of a text that is no pattern. -/
structure PatternEngine.Compiles (engine : PatternEngine) (language : PatternLanguage) :
    Prop where
  isPattern {texts : List String} {set : PatternSet} : engine.compile texts = .ok set →
    ∀ text ∈ texts, language.IsPattern text
  exists_not_isPattern {texts : List String} : engine.compile texts = .error .malformed →
    ∃ text ∈ texts, ¬language.IsPattern text
  isMatch_iff {texts : List String} {set : PatternSet} : engine.compile texts = .ok set →
    ∀ path, set.isMatch path = true ↔ ∃ text ∈ texts, ∃ start, language.StartsAt text path start

end Iocost
