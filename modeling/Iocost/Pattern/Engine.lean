import Iocost.NameFilter
import Iocost.Pattern.Match
import Iocost.Pattern.Parse
import Iocost.Pattern.Size

/-!
The engine that the command compiles patterns with.
-/

namespace Iocost.Pattern

/-- All texts are read before they are found too large. -/
def engine : PatternEngine where
  compile texts :=
    match texts.mapM fun text => parse? text.toList with
    | none => .error .malformed
    | some patterns =>
      if fit patterns then .ok ⟨fun text => patterns.any (·.occursIn text.toList)⟩
      else .error (.tooLarge sizeLimit)

end Iocost.Pattern
