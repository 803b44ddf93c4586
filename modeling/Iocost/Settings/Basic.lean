import Iocost.Files.Path
import Iocost.NameFilter
import Iocost.Sample.Output
import Iocost.Settings.Duration

/-!
Options, which may be given in several layers, and the settings they come to. Later layers win
where they say something.
-/

namespace Iocost

/-- What can be chosen, in a settings file or on the command line. -/
structure Options where
  /-- Patterns of the paths to show. -/
  patterns : List String := []
  /-- The time between two samples. -/
  interval : Option Duration := none
  json : Bool := false
  includeDying : Bool := false
  /-- The directory of the snapshot. -/
  snapshotDir : Option FilePath := none
deriving DecidableEq

/-- What a run goes by. -/
structure Settings where
  device : String
  filter : NameFilter
  interval : Duration
  format : OutputFormat
  includeDying : Bool

namespace Options

/-- The time between two samples unless another one is chosen: a second. -/
def defaultInterval : Duration := .ofParts 1 0

/-- The options with `above` on top of them. Patterns replace patterns if there are any, and what is
switched on stays on. -/
def merge (o above : Options) : Options where
  patterns := if above.patterns.isEmpty then o.patterns else above.patterns
  interval := above.interval <|> o.interval
  json := o.json || above.json
  includeDying := o.includeDying || above.includeDying
  snapshotDir := above.snapshotDir <|> o.snapshotDir

/-- The settings for a device. The patterns have to be readable. -/
def settings (o : Options) (engine : PatternEngine) (device : String) :
    Except PatternError Settings :=
  (NameFilter.ofPatterns engine o.patterns).map fun filter =>
    { device := device
      filter := filter
      interval := o.interval.getD defaultInterval
      format := if o.json then .json else .table
      includeDying := o.includeDying }

end Options

end Iocost
