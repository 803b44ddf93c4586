import Iocost.Pattern.Basic

/-!
Shapes of patterns: what is left of a pattern when it is made into an automaton. Characters that
follow one another form a text, sequences and alternatives are flat, alternatives that are single
characters or sets become one set, and parts that all alternatives begin with are taken out.
-/

namespace Iocost.Pattern

/-- The shape of a pattern. In a sequence the first part is no sequence, and in a list of
alternatives the first one is no such list. -/
inductive Shape where
  | empty
  | text (characters : List Char)
  /-- One character of the ranges, which are in normal form. -/
  | set (ranges : List (Nat × Nat))
  | look (condition : Look)
  | group (number : Nat) (inner : Shape)
  | rep (inner : Shape) (least : Nat) (most : Option Nat) (eager : Bool)
  | seq (first rest : Shape)
  | alt (first rest : Shape)
deriving DecidableEq

namespace Shape

def nodes : Shape → Nat
  | group _ inner => inner.nodes + 1
  | rep inner .. => inner.nodes + 1
  | seq first rest => first.nodes + rest.nodes + 1
  | alt first rest => first.nodes + rest.nodes + 1
  | _ => 1

/-- The shape matches nothing but empty stretches. -/
def isBlank : Shape → Bool
  | empty => true
  | text _ => false
  | set _ => false
  | look _ => true
  | group _ inner => inner.isBlank
  | rep inner .. => inner.isBlank
  | seq first rest => first.isBlank && rest.isBlank
  | alt first rest => first.isBlank && rest.isBlank

/-- The fewest characters that a stretch has; none if the shape is known to match nothing. -/
def minLength : Shape → Option Nat
  | empty => some 0
  | text characters => some characters.length
  | set ranges => if ranges.isEmpty then none else some 1
  | look _ => some 0
  | group _ inner => inner.minLength
  | rep inner least .. => inner.minLength.map (· * least)
  | seq first rest => return (← first.minLength) + (← rest.minLength)
  | alt first rest => return min (← first.minLength) (← rest.minLength)

/-- Each stretch starts where the text starts, because a condition says so. -/
def startsText : Shape → Bool
  | look condition => condition == .textStart
  | group _ inner => inner.startsText
  | rep inner least .. => decide (0 < least) && inner.startsText
  | seq first rest => first.startsText || (first.isBlank && rest.startsText)
  | alt first rest => first.startsText && rest.startsText
  | _ => false

/-- Each stretch ends where the text ends, because a condition says so. -/
def endsText : Shape → Bool
  | look condition => condition == .textEnd
  | group _ inner => inner.endsText
  | rep inner least .. => decide (0 < least) && inner.endsText
  | seq first rest => rest.endsText || (rest.isBlank && first.endsText)
  | alt first rest => first.endsText && rest.endsText
  | _ => false

def parts : Shape → List Shape
  | empty => []
  | seq first rest => first :: rest.parts
  | s => [s]

def branches : Shape → List Shape
  | alt first rest => first :: rest.branches
  | s => [s]

/-- The shape of one character of ranges in normal form. -/
def ofRanges (ranges : List (Nat × Nat)) : Shape :=
  match ranges with
  | [(low, high)] => if low = high then text [Char.ofNat low] else set ranges
  | _ => set ranges

/-- Puts a part in front of parts; texts that meet become one. -/
def consPart : Shape → List Shape → List Shape
  | text a, text b :: rest => text (a ++ b) :: rest
  | part, rest => part :: rest

def joinParts : List Shape → Shape
  | [] => empty
  | [part] => part
  | part :: rest => seq part (joinParts rest)

def ofSeq (shapes : List Shape) : Shape :=
  joinParts ((shapes.flatMap parts).foldr consPart [])

/-- The shape of a repetition. What matches empty stretches only is not repeated. -/
def ofRep (inner : Shape) (least : Nat) (most : Option Nat) (eager : Bool) : Shape :=
  let (least, most) :=
    if inner.isBlank then (min least 1, some (min (most.getD 1) 1)) else (least, most)
  if most = some 0 then empty
  else if least = 1 ∧ most = some 1 then inner
  else rep inner least most eager

/-- The number of the character that a shape is the text of. -/
def character? : Shape → Option Nat
  | text [c] => some c.toNat
  | _ => none

def ranges? : Shape → Option (List (Nat × Nat))
  | set ranges => some ranges
  | _ => none

/-- The longest list that two lists begin with. -/
def commonStart : List Shape → List Shape → List Shape
  | a :: as, b :: bs => if a = b then a :: commonStart as bs else []
  | _, _ => []

/-- What all of several sequences begin with; there must be no other shapes among them. -/
def sharedStart : List Shape → List Shape
  | [] => []
  | [s] => match s with | seq .. => s.parts | _ => []
  | s :: rest => match s with | seq .. => commonStart s.parts (sharedStart rest) | _ => []

/-- The shape of alternatives that are no lists of alternatives. -/
def joinBranches : List Shape → Shape
  | [] => set []
  | [branch] => branch
  | branch :: rest => alt branch (joinBranches rest)

/-- The shape of alternatives, with `fuel` for as often as a shared start is taken out. -/
def ofAltWithin : (fuel : Nat) → List Shape → Shape
  | 0, shapes => joinBranches (shapes.flatMap branches)
  | fuel + 1, shapes =>
    let all := shapes.flatMap branches
    match all with
    | [] => set []
    | [branch] => branch
    | _ =>
      match all.mapM character?, all.mapM ranges? with
      | some characters, _ => ofRanges (Text.joinRanges (characters.map fun n => (n, n)))
      | none, some ranges => ofRanges (Text.joinRanges ranges.flatten)
      | none, none =>
        match sharedStart all with
        | [] => joinBranches all
        | start =>
          ofSeq (start ++
            [ofAltWithin fuel (all.map fun s => ofSeq (s.parts.drop start.length))])

/-- The shape of alternatives. Each time a shared start is taken out there are fewer nodes. -/
def ofAlt (shapes : List Shape) : Shape :=
  ofAltWithin ((shapes.map nodes).foldr (· + ·) 0) shapes

end Shape

/-- The shapes of the alternatives of a pattern that is no group. -/
def branchShapes : Pattern → List Shape
  | empty => [.empty]
  | one set => [.ofRanges set.ranges]
  | look condition => [.look condition]
  | seq p q => [.ofSeq [.ofAlt p.branchShapes, .ofAlt q.branchShapes]]
  | alt p q => .ofAlt p.branchShapes :: q.branchShapes
  | group none p => [.ofAlt p.branchShapes]
  | group (some number) p => [.group number (.ofAlt p.branchShapes)]
  | rep p least most eager => [.ofRep (.ofAlt p.branchShapes) least most eager]

def shape (p : Pattern) : Shape := .ofAlt p.branchShapes

end Iocost.Pattern
