import Iocost.Pattern.Basic

/-!
Matching by sets of places. A pattern turns the places where it may start into the places where it
may end, and a repetition is followed until it reaches no new place.
-/

namespace Iocost.Pattern

/-- A set of places of a text: whether each of them is in it, in order. -/
abbrev PlaceSet := List Bool

def PlaceSet.union (s t : PlaceSet) : PlaceSet := List.zipWith (· || ·) s t

def PlaceSet.filter (s : PlaceSet) (test : Place → Bool) (places : List Place) : PlaceSet :=
  List.zipWith (fun reached place => reached && test place) s places

def PlaceSet.next (s : PlaceSet) : PlaceSet := (false :: s).dropLast

/-- Applies `f` as often as said; once it changes nothing, the rest is left out. -/
def repeated (f : PlaceSet → PlaceSet) : Nat → PlaceSet → PlaceSet
  | 0, s => s
  | n + 1, s =>
    let t := f s
    if t == s then s else repeated f n t

/-- What applying `f` up to `n` times reaches; once it reaches nothing new, the rest is left
out. -/
def reached (f : PlaceSet → PlaceSet) : Nat → PlaceSet → PlaceSet
  | 0, s => s
  | n + 1, s =>
    let t := s.union (f s)
    if t == s then s else reached f n t

/-- The places where a pattern may end when it starts at one of a set of places. -/
def advance (places : List Place) : Pattern → PlaceSet → PlaceSet
  | empty, s => s
  | one set, s => (s.filter (fun place => place.after.any set.mem) places).next
  | look condition, s => s.filter condition.holds places
  | seq p q, s => q.advance places (p.advance places s)
  | alt p q, s => (p.advance places s).union (q.advance places s)
  | group _ p, s => p.advance places s
  | rep p least most _, s =>
    reached (p.advance places)
      (match most with
        | some most => most - least
        | none => places.length)
      (repeated (p.advance places) least s)

/-- The pattern covers some stretch of the text. -/
def occursIn (p : Pattern) (text : List Char) : Bool :=
  let places := Place.list text
  (p.advance places (places.map fun _ => true)).any id

/-- The pattern covers a stretch at the start of the text. -/
def occursAtStart (p : Pattern) (text : List Char) : Bool :=
  let places := Place.list text
  (p.advance places (places.map fun place => place.before.isNone)).any id

theorem repeated_eq_of_fixed {f : PlaceSet → PlaceSet} {s : PlaceSet} (h : f s = s) (n : Nat) :
    repeated f n s = s := by
  cases n <;> simp [repeated, h]

theorem reached_eq_of_fixed {f : PlaceSet → PlaceSet} {s : PlaceSet} (h : s.union (f s) = s)
    (n : Nat) : reached f n s = s := by
  cases n <;> simp [reached, h]

end Iocost.Pattern
