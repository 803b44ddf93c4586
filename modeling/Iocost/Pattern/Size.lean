import Iocost.Pattern.Automaton.Backward
import Iocost.Pattern.Automaton.Forward
import Iocost.Pattern.Automaton.Trie
import Iocost.Pattern.Shape
import Iocost.Text.Utf8

/-!
How large the automata of patterns are. A list of patterns is made into one automaton that reads a
text forwards and one that reads it backwards, and neither may be too large. States are counted in
the order in which they are made, because the states of sets are shared by their numbers.
-/

namespace Iocost.Pattern

def sizeLimit : Nat := 10485760

/-- The order in which an automaton reads a text. -/
inductive Direction where
  | forward
  | backward
deriving DecidableEq

/-- Adds something to an automaton, unless it gets too large. -/
abbrev Extension := AutomatonSize → Option AutomatonSize

namespace Extension

def times (f : Extension) : Nat → Extension
  | 0, a => some a
  | n + 1, a =>
    (f a).bind fun a => if a.bytes ≤ sizeLimit then times f n a else none

/-- Adds any of several things. The state that branches to them and the one where they join are
made after the second thing. -/
def anyOf : List Extension → Extension
  | [], a => some (a.addStates 1)
  | [f], a => f a
  | f :: g :: rest, a => do
    let a ← g (← f a)
    rest.foldlM (fun a f => f a) ((a.addStates 2).addBranches (rest.length + 2))

/-- Adds one thing after the other, in the order in which they are read. -/
def sequence (d : Direction) (f g : Extension) : Extension := fun a =>
  match d with
  | .forward => (f a).bind g
  | .backward => (g a).bind f

/-- Adds something up to `count` times, with a state before each time from which the rest can be
left out. -/
def upTo (f : Extension) (count : Nat) : Extension := fun a =>
  times (fun a => f ((a.addStates 1).addBranches 2)) count (a.addStates 1)

/-- Adds a repetition. `filled` says that the thing repeated is never empty. -/
def rep (f : Extension) (filled : Bool) (least : Nat) (most : Option Nat) : Extension := fun a =>
  match least, most with
  | 0, some 1 => (f (a.addStates 1)).map fun a => (a.addStates 1).addBranches 2
  | 0, none =>
    if filled then (f (a.addStates 1)).map (·.addBranches 2)
    else (f a).map fun a => (a.addStates 3).addBranches 4
  | least + 1, none => (times f (least + 1) a).map fun a => (a.addStates 1).addBranches 2
  | 0, some most => upTo f most (a.addStates 1)
  | least, some most =>
    (times f least a).bind fun a => if least = most then some a else upTo f (most - least) a

end Extension

def addSet (d : Direction) (ranges : List (Nat × Nat)) (a : AutomatonSize) : AutomatonSize :=
  if ranges.all fun r => decide (r.2 < 0x80) then (a.addStates 1).addChoice ranges.length
  else
    match d with
    | .forward => Forward.addSet a (byteSequences ranges)
    | .backward => Backward.addSet a (byteSequences ranges)

/-- The bytes of a text in the order in which they are read. -/
def bytesIn (d : Direction) (characters : List Char) : List UInt8 :=
  let bytes := Text.encode (String.ofList characters)
  match d with
  | .forward => bytes
  | .backward => bytes.reverse

namespace Shape

/-- The texts of alternatives that are nothing but texts. -/
def texts? : Shape → Option (List (List Char))
  | s@(alt ..) => s.branches.mapM fun
    | text characters => some characters
    | _ => none
  | _ => none

/-- Adds the automaton of a shape, given how its alternatives are added. -/
def extend (d : Direction) (s : Shape) (branches : List Extension) : Extension :=
  match s.texts? with
  | some texts => fun a => some ((Trie.ofTexts (texts.map (bytesIn d))).addTo a)
  | none => .anyOf branches

def extensions (d : Direction) : Shape → List Extension
  | empty => [fun a => some (a.addStates 1)]
  | text characters => [fun a => some (a.addStates (bytesIn d characters).length)]
  | set ranges => [fun a => some (addSet d ranges a)]
  | look _ => [fun a => some (a.addStates 1)]
  | group _ inner => [inner.extend d (inner.extensions d)]
  | rep inner least most _ =>
    [.rep (inner.extend d (inner.extensions d)) (inner.minLength.any (0 < ·)) least most]
  | seq first rest =>
    [.sequence d (first.extend d (first.extensions d)) (rest.extend d (rest.extensions d))]
  | alt first rest => first.extend d (first.extensions d) :: rest.extensions d

/-- Each match of the shape reaches the end of the text from which an automaton reads. -/
def isAnchored (d : Direction) (s : Shape) : Bool :=
  match d with
  | .forward => s.startsText
  | .backward => s.endsText

end Shape

/-- The automaton of patterns, unless it gets too large. Unless all patterns are anchored it begins
with a loop over all bytes. -/
def automaton (d : Direction) (shapes : List Shape) : Option AutomatonSize :=
  let start : AutomatonSize :=
    if shapes.all (·.isAnchored d) then ⟨1, 0⟩
    else (((⟨0, 0⟩ : AutomatonSize).addStates 2).addChoice 1).addBranches 2
  let branches : List Extension := shapes.map fun s a =>
    (s.extend d (s.extensions d) a).map (·.addStates 1)
  Extension.anyOf branches start

/-- Neither automaton of the patterns is too large. -/
def fit (patterns : List Pattern) : Bool :=
  let shapes := patterns.map shape
  [Direction.forward, Direction.backward].all fun d =>
    (automaton d shapes).any fun a => decide (a.bytes ≤ sizeLimit)

end Iocost.Pattern
