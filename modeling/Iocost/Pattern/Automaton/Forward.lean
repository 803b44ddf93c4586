import Iocost.Pattern.Automaton.Basic
import Iocost.Pattern.Automaton.Sharing
import Iocost.Pattern.ByteRange

/-!
Automata that read the bytes of a character of a set forwards. Sequences come in order, so those
that begin alike come together: their common start is kept open, as a list of states of which only
the last transition may still change. What is behind it is made when a sequence leaves it, from its
end on, and a state with the transitions of one that is remembered is not made again.
-/

namespace Iocost.Pattern.Forward

/-- A transition to the state with a number. -/
structure Transition where
  range : ByteRange
  target : Nat
deriving DecidableEq

def Transition.numbers (t : Transition) : List UInt64 :=
  [t.range.low.toUInt64, t.range.high.toUInt64, t.target.toUInt64]

/-- A state that is open: its transitions, the latest first, and the range of one more that has no
target yet. -/
structure OpenState where
  transitions : List Transition := []
  last : Option ByteRange := none

/-- All transitions of an open state, the last one to `target`. -/
def OpenState.close (s : OpenState) (target : Nat) : OpenState :=
  match s.last with
  | some range => ⟨⟨range, target⟩ :: s.transitions, none⟩
  | none => s

/-- An automaton that is being made, with the states that are remembered. -/
structure Making where
  size : AutomatonSize
  table : SharingTable (List Transition) := {}

def places : UInt64 := 10000

/-- The number of the state with the transitions of an open one. -/
def Making.state (m : Making) (s : OpenState) : Nat × Making :=
  let transitions := s.transitions.reverse
  let place := placeOf places (transitions.flatMap Transition.numbers)
  match m.table.find? place transitions with
  | some state => (state, m)
  | none =>
    let state := m.size.states
    (state,
      { size := m.size.addChoice transitions.length
        table := m.table.put place transitions state })

/-- Makes open states, each of which leads to the next one and the last one to `target`. The result
is the number of the first one, or `target` if there is none. -/
def Making.finish (m : Making) (target : Nat) : List OpenState → Nat × Making
  | [] => (target, m)
  | s :: inner =>
    let (next, m) := m.finish target inner
    m.state (s.close next)

/-- Adds a sequence to open states, the first of which is the first state of the automaton. -/
def Making.add (m : Making) (target : Nat) :
    List OpenState → List ByteRange → List OpenState × Making
  | s :: inner, range :: ranges =>
    if s.last = some range then
      let (inner, m) := m.add target inner ranges
      (s :: inner, m)
    else
      let (next, m) := m.finish target inner
      ({ s.close next with last := some range } :: ranges.map fun r => { last := some r }, m)
  | [], ranges => (ranges.map fun r => { last := some r }, m)
  | states, [] => (states, m)

/-- Adds the automaton of a set of sequences, which ends in a state of its own. -/
def addSet (a : AutomatonSize) (sequences : List (List ByteRange)) : AutomatonSize :=
  let target := a.states
  let (states, m) :=
    sequences.foldl (fun (states, m) sequence => Making.add m target states sequence)
      ([{}], { size := a.addStates 1 })
  (m.finish target states).2.size

end Iocost.Pattern.Forward
