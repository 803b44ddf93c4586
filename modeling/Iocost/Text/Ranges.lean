/-!
Sets of characters as lists of ranges of their numbers. A list is in normal form when its ranges are
in increasing order and neither overlap nor touch; the tables of character properties are kept so.
-/

namespace Iocost.Text

/-- The number lies in one of the ranges, which are in increasing order with both ends included. -/
def inRanges : List (Nat × Nat) → Nat → Bool
  | [], _ => false
  | (low, high) :: rest, n => decide (low ≤ n) && (decide (n ≤ high) || inRanges rest n)

/-- Joins ranges that overlap or touch, when they come by increasing lower ends. -/
def joinNeighbours : List (Nat × Nat) → List (Nat × Nat)
  | [] => []
  | [r] => [r]
  | r :: s :: rest =>
    if s.1 ≤ r.2 + 1 then joinNeighbours ((r.1, max r.2 s.2) :: rest)
    else r :: joinNeighbours (s :: rest)
termination_by ranges => ranges.length

/-- The normal form of a list of ranges. -/
def joinRanges (ranges : List (Nat × Nat)) : List (Nat × Nat) :=
  joinNeighbours (ranges.mergeSort fun r s => decide (r.1 ≤ s.1))

def interRanges : List (Nat × Nat) → List (Nat × Nat) → List (Nat × Nat)
  | [], _ => []
  | _, [] => []
  | (a, b) :: rs, (c, d) :: ss =>
    let rest := if b < d then interRanges rs ((c, d) :: ss) else interRanges ((a, b) :: rs) ss
    if max a c ≤ min b d then (max a c, min b d) :: rest else rest
termination_by rs ss => rs.length + ss.length

/-- The number of the last character. -/
def lastScalar : Nat := 0x10ffff

/-- The number of the next character; those of surrogates belong to none. -/
def nextScalar (n : Nat) : Nat := if n = 0xd7ff then 0xe000 else n + 1

/-- The number of the character before. -/
def previousScalar (n : Nat) : Nat := if n = 0xe000 then 0xd7ff else n - 1

/-- The characters from the number `low` on that are in none of the ranges. -/
def gapsFrom (low : Nat) : List (Nat × Nat) → List (Nat × Nat)
  | [] => if low ≤ lastScalar then [(low, lastScalar)] else []
  | (a, b) :: rest =>
    let later := gapsFrom (nextScalar b) rest
    if low < a then (low, previousScalar a) :: later else later

/-- The characters that are in none of the ranges. -/
def complRanges (ranges : List (Nat × Nat)) : List (Nat × Nat) := gapsFrom 0 ranges

end Iocost.Text
