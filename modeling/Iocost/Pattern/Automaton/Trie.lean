import Iocost.Pattern.Automaton.Basic

/-!
Tries of byte sequences, the automata of alternatives that are nothing but texts. Earlier
alternatives go first: where a text ends, a node is closed and what comes later is put behind its
end.
-/

namespace Iocost.Pattern

/-- What a node of a trie does, in order. Between ends the bytes increase. -/
inductive Trie where
  | done
  /-- A text ends here. -/
  | ends (rest : Trie)
  /-- A byte leads to another node. -/
  | byte (b : UInt8) (next rest : Trie)

namespace Trie

/-- No byte leads on from the node. -/
def isLeaf : Trie → Bool
  | done => true
  | ends rest => rest.isLeaf
  | byte .. => false

/-- Some text ends at the node. -/
def hasEnd : Trie → Bool
  | done => false
  | ends _ => true
  | byte _ _ rest => rest.hasEnd

/-- Lets a text end at the node, behind all that is there. -/
def addEnd : Trie → Trie
  | done => ends done
  | ends rest => ends rest.addEnd
  | byte b next rest => byte b next rest.addEnd

def insert : List UInt8 → Trie → Trie
  | [], t => if t.isLeaf && t.hasEnd then t else t.addEnd
  | b :: bs, done => byte b (insert bs done) done
  | b :: bs, ends rest => ends (insert (b :: bs) rest)
  | b :: bs, byte c next rest =>
    if rest.hasEnd then byte c next (insert (b :: bs) rest)
    else if b = c then byte c (insert bs next) rest
    else if b < c then byte b (insert bs done) (byte c next rest)
    else byte c next (insert (b :: bs) rest)
termination_by bytes t => (bytes.length, sizeOf t)

def ofTexts (texts : List (List UInt8)) : Trie := texts.foldl (fun t text => insert text t) done

/-- How many bytes lead on from the node before, between and behind the ends. -/
def chunks : Trie → List Nat
  | done => [0]
  | ends rest => 0 :: rest.chunks
  | byte _ _ rest =>
    match rest.chunks with
    | n :: ns => (n + 1) :: ns
    | [] => [1]

/-- Adds a state for each chunk with bytes, and one that branches to them and to the end. -/
def addChunks (chunks : List Nat) (a : AutomatonSize) : AutomatonSize :=
  let filled := chunks.filter (· ≠ 0)
  let a := filled.foldl (fun a n => if n = 1 then a.addStates 1 else a.addChoice n) a
  (a.addStates 1).addBranches (filled.length + (chunks.length - 1))

/-- Adds the automata of the nodes below that are no leaves. -/
def addBelow : Trie → AutomatonSize → AutomatonSize
  | done, a => a
  | ends rest, a => rest.addBelow a
  | byte _ next rest, a =>
    rest.addBelow (if next.isLeaf then a else addChunks next.chunks (next.addBelow a))

/-- Adds the automaton of the trie, with the state where it ends. -/
def addTo (t : Trie) (a : AutomatonSize) : AutomatonSize :=
  addChunks t.chunks (t.addBelow (a.addStates 1))

end Trie

end Iocost.Pattern
