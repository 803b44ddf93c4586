/-!
The size of an automaton while it is made. Only the number of its states and the room of their
transitions are kept; a state is known by its number.
-/

namespace Iocost.Pattern

/-- How large an automaton is. The next state gets the number of states as its own. -/
structure AutomatonSize where
  states : Nat
  /-- How many bytes the transitions take. -/
  transitions : Nat
deriving DecidableEq

namespace AutomatonSize

def bytes (a : AutomatonSize) : Nat := 32 * a.states + a.transitions

def addStates (a : AutomatonSize) (count : Nat) : AutomatonSize :=
  { a with states := a.states + count }

/-- Adds transitions to any of several states, of which none has a range of bytes. -/
def addBranches (a : AutomatonSize) (count : Nat) : AutomatonSize :=
  { a with transitions := a.transitions + 4 * count }

/-- Adds a state with a transition for each of several ranges of bytes. -/
def addChoice (a : AutomatonSize) (ranges : Nat) : AutomatonSize :=
  { states := a.states + 1, transitions := a.transitions + 8 * ranges }

end AutomatonSize

end Iocost.Pattern
