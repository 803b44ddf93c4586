/-!
Filters of paths by patterns. Each pattern is put into a group behind a caret, so that it has to
match at the start of a path, and a path passes when one of the patterns matches. Without patterns
every path passes. What the text of a pattern means is left to the engine that compiles it.
-/

namespace Iocost

/-- Why patterns cannot be used. -/
inductive PatternError where
  /-- A text writes no pattern. -/
  | malformed
  /-- The patterns take up more than the limit, in bytes. -/
  | tooLarge (limit : Nat)
deriving DecidableEq

namespace PatternError

/-- What is said of patterns that cannot be used, without the cause. -/
def message (_ : PatternError) : String := "invalid cgroup regex"

/-- What is said of patterns that cannot be used, followed by the cause if it is their size. -/
def chain (e : PatternError) : String :=
  match e with
  | malformed => e.message
  | tooLarge limit =>
    e.message ++ ": Compiled regex exceeds size limit of " ++ toString limit ++ " bytes."

end PatternError

/-- Patterns that have been compiled together. -/
structure PatternSet where
  /-- One of the patterns matches somewhere in a text. -/
  isMatch : String → Bool

/-- What compiles the texts of patterns, all of a list together. -/
structure PatternEngine where
  compile : List String → Except PatternError PatternSet

/-- A list of patterns, any of which may match. There is no set if the list is empty. -/
structure NameFilter where
  set : Option PatternSet

namespace NameFilter

/-- The text of a pattern with the caret and the group around it. -/
def anchored (pattern : String) : String := "^(?:" ++ pattern ++ ")"

/-- The filter of a list of patterns. An empty list is not compiled. -/
def ofPatterns (engine : PatternEngine) (patterns : List String) :
    Except PatternError NameFilter :=
  if patterns.isEmpty then .ok ⟨none⟩
  else (engine.compile (patterns.map anchored)).map fun set => ⟨some set⟩

def isEmpty (f : NameFilter) : Bool := f.set.isNone

/-- A path passes if one of the patterns matches it. A filter without patterns lets all pass. -/
def accepts (f : NameFilter) (path : String) : Bool := f.set.all fun set => set.isMatch path

end NameFilter

end Iocost
