import Iocost.Command.Start
import Iocost.Pattern.Engine
import Iocost.Settings.Text

/-!
What the command itself reads settings files and compiles patterns with.
-/

namespace Iocost

def Tools.own : Tools where
  ofText? := Options.ofText?
  engine := Pattern.engine

end Iocost
