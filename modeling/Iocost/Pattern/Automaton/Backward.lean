import Iocost.Pattern.Automaton.Basic
import Iocost.Pattern.Automaton.Sharing
import Iocost.Pattern.ByteRange

/-!
Automata that read the bytes of a character of a set backwards, from the last byte to the first one.
Each sequence is a chain of states with one transition each, which is made from its end, where the
first byte is read; the part that it shares with a chain that is remembered is not made again.
-/

namespace Iocost.Pattern.Backward

/-- A state with one transition: its range and its target. -/
structure Link where
  range : ByteRange
  target : Nat
deriving DecidableEq

def places : UInt64 := 1000

/-- An automaton that is being made, with the states that are remembered. -/
structure Making where
  size : AutomatonSize
  table : SharingTable Link := {}

def Making.state (m : Making) (link : Link) : Nat × Making :=
  let place :=
    placeOf places [link.target.toUInt64, link.range.low.toUInt64, link.range.high.toUInt64]
  match m.table.find? place link with
  | some state => (state, m)
  | none =>
    let state := m.size.states
    (state, { size := m.size.addStates 1, table := m.table.put place link state })

/-- Adds the chain of a sequence that ends in the state `target`. -/
def Making.add (m : Making) (target : Nat) : List ByteRange → Making
  | [] => { m with size := m.size.addBranches 1 }
  | range :: ranges =>
    let (state, m) := m.state ⟨range, target⟩
    m.add state ranges

/-- Adds the automaton of a set of sequences: a state that branches to the chains, the state where
they end, and the chains. -/
def addSet (a : AutomatonSize) (sequences : List (List ByteRange)) : AutomatonSize :=
  let target := a.states + 1
  (sequences.foldl (fun m sequence => Making.add m target sequence)
    { size := a.addStates 2 : Making }).size

end Iocost.Pattern.Backward
