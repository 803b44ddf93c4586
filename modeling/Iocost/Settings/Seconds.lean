import Iocost.Binary64.Literal
import Iocost.Settings.Duration

/-!
Lengths of time given as a number of seconds.
-/

namespace Iocost.Duration

/-- Why a text is no number of seconds. -/
inductive SecondsError where
  | literal (cause : Binary64.LiteralError)
  | negative
  /-- Too large for 64 bits, or not a number. -/
  | tooBig
deriving DecidableEq

def SecondsError.message : SecondsError → String
  | literal cause => cause.message
  | negative => "cannot convert float seconds to Duration: value is negative"
  | tooBig => "cannot convert float seconds to Duration: value is either too big or NaN"

/-- The length of a number of seconds, to the nearest nanosecond, a half going to the even
neighbour. -/
def ofSeconds (v : Binary64) : Except SecondsError Duration :=
  if v.lt .zero then .error .negative
  else
    match v with
    | .finite _ m =>
      if m.units < Text.wordCount * Magnitude.one then
        .ok ⟨divEven (m.units * second) Magnitude.one⟩
      else
        .error .tooBig
    | _ => .error .tooBig

def readSeconds (s : String) : Except SecondsError Duration :=
  match Binary64.read s with
  | .ok v => ofSeconds v
  | .error cause => .error (.literal cause)

end Iocost.Duration
