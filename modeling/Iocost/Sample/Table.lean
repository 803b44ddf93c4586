import Iocost.Sample.Basic
import Iocost.Sample.Number
import Iocost.Text.Column

/-!
A sample as a table with columns of fixed width: a blank line, a preamble on the controller, a
header, and one line for each node.
-/

namespace Iocost.Table

open Text

/-- Width of the column of paths. A longer path keeps its end. -/
def pathWidth : Nat := 28

/-- The greatest debt in milliseconds that is shown. -/
def maxDebt : Int := 999

/-- The greatest delay count that is shown. -/
def maxUseDelay : Int := 99

/-- The greatest delay in milliseconds that is shown. -/
def maxDelay : Int := 999

/-- The greatest usage in percent that is shown. -/
def maxUsage : Int := 999

/-- Which parameters of the controller are set by the user: `C` for the cost model, `Q` for the
quality of service. -/
def userMarks (s : ControllerStats) : List Char :=
  if s.userCostModel || s.userQosParams then
    '(' :: ((if s.userCostModel then ['C'] else []) ++ (if s.userQosParams then ['Q'] else []) ++
      [')'])
  else
    []

def preamble (device : String) (s : ControllerStats) : List Char :=
  device.toList ++ " ".toList ++ padRight 4 s.state.label.toList ++
    " per=".toList ++ numberText s.period ++
    "ms cur_per=".toList ++ s.periodAt.fixed 3 ++ ":v".toList ++ s.vperiodAt.fixed 3 ++
    " busy=".toList ++ padLeft 3 (signedInteger s.busyLevel.toInt) ++
    " vrate=".toList ++ padLeft 6 (s.vrate.fixed 2) ++
    "% params=".toList ++ s.profileLabel.toList ++ userMarks s

def header : List Char :=
  padRight 25 [] ++ " active ".toList ++ padLeft 9 "weight".toList ++ " ".toList ++
    padLeft 13 "hweight%".toList ++ " ".toList ++ padLeft 6 "inflt%".toList ++ " ".toList ++
    padLeft 3 "dbt".toList ++ " ".toList ++ padLeft 6 "delay".toList ++ " usages%".toList

/-- A number rounded up to an integer, at most `cap`. -/
def ceilCapped (v : Binary64) (cap : Int) : Int := min v.ceil cap

/-- A slot of the usage history: three digits. -/
def usageText (v : Binary64) : List Char := zeroPadded 3 (min v.roundEven maxUsage)

/-- A natural number at the right end of a column. -/
def counterColumn (width : Nat) (n : UInt64) : List Char := padLeft width (Nat.toDigits 10 n.toNat)

def columns (s : NodeStats) : List Char :=
  (if s.isActive then '*' else ' ') :: ' ' ::
    (counterColumn 5 s.inuse ++ "/".toList ++ counterColumn 5 s.active ++ " ".toList ++
      padLeft 6 (s.hweightInuse.fixed 2) ++ "/".toList ++ padLeft 6 (s.hweightActive.fixed 2) ++
      " ".toList ++ padLeft 6 ((s.inflight.getD .zero).fixed 2) ++ " ".toList ++
      padLeft 3 (integer (ceilCapped s.debt maxDebt)) ++ " ".toList ++
      padLeft 2 (integer (min s.useDelay.toInt maxUseDelay)) ++ "*".toList ++
      zeroPadded 3 (ceilCapped s.delay maxDelay) ++ " ".toList ++
      List.intercalate [':'] (s.usages.map usageText))

/-- The end of a path that fits into a column, cut off before the first character that fits. Where
no character is the first one, the whole path is taken. -/
def pathTail (path : String) (width : Nat) : String :=
  match (charOffsets 0 path.toList)[path.length - width]? with
  | some (start, _) => String.Pos.Raw.extract path ⟨start⟩ path.rawEndPos
  | none => path

def row (path : String) (s : NodeStats) : List Char :=
  padRight pathWidth (pathTail path pathWidth).toList ++ ' ' :: columns s

def lines (s : Sample) : List (List Char) :=
  [] :: preamble s.device s.controller :: header :: s.rows.map fun r => row r.path r.stats

end Iocost.Table
