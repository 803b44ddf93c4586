import Iocost.Stats

/-!
A sample: the statistics of a controller and of the accounting nodes that are shown, at one time.
-/

namespace Iocost

/-- An accounting node in a sample. -/
structure Row where
  path : String
  stats : NodeStats
deriving DecidableEq

/-- Everything that is shown for one time. -/
structure Sample where
  device : String
  /-- Seconds since the epoch. -/
  timestamp : Binary64
  controller : ControllerStats
  /-- The nodes in the order of the walk. -/
  rows : List Row
deriving DecidableEq

end Iocost
