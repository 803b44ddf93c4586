import Std.Data.HashMap

/-!
Tables of states that are shared. A table has a fixed number of places; the place of a state is the
hash of what it does, and a state that is put where another one is makes the table forget that one.
-/

namespace Iocost.Pattern

/-- Mixes a number into a hash. -/
def mixHash (hash number : UInt64) : UInt64 := (hash ^^^ number) * 1099511628211

/-- The hash of numbers, and where they belong in a table with a number of places. -/
def placeOf (places : UInt64) (numbers : List UInt64) : UInt64 :=
  numbers.foldl mixHash 14695981039346656037 % places

/-- A table of the numbers of states by what they do. -/
structure SharingTable (Key : Type) where
  entries : Std.HashMap UInt64 (Key × Nat) := {}

namespace SharingTable

variable {Key : Type} [DecidableEq Key]

/-- The state that is remembered at a place for a key. -/
def find? (t : SharingTable Key) (place : UInt64) (key : Key) : Option Nat :=
  match t.entries[place]? with
  | some (k, state) => if k = key then some state else none
  | none => none

def put (t : SharingTable Key) (place : UInt64) (key : Key) (state : Nat) : SharingTable Key :=
  ⟨t.entries.insert place (key, state)⟩

end SharingTable

end Iocost.Pattern
