/-!
Names of files: a limited number of bytes without slashes and zeros, other than the two names that
stand for a directory itself and for the one above it. Names are ordered by their bytes.
-/

namespace Iocost

def nameLimit : Nat := 255

def isFileName (bytes : List UInt8) : Bool :=
  !bytes.isEmpty && bytes != [46] && bytes != [46, 46] && decide (bytes.length ≤ nameLimit) &&
    bytes.all fun b => b != 47 && b != 0

/-- The name of a file in its directory. -/
structure FileName where
  bytes : List UInt8
  isFileName_bytes : isFileName bytes = true
deriving DecidableEq

namespace FileName

/-- The name with the bytes, if they can name a file. -/
def ofBytes? (bytes : List UInt8) : Option FileName :=
  if h : isFileName bytes = true then some ⟨bytes, h⟩ else none

def before (a b : FileName) : Bool := decide (a.bytes < b.bytes)

/-- Puts a name into a list of names in increasing order, unless it is there. -/
def insert (a : FileName) : List FileName → List FileName
  | [] => [a]
  | b :: bs =>
    if a.before b then a :: b :: bs
    else if a = b then b :: bs
    else b :: insert a bs

/-- The names of a list in increasing order, each once. -/
def sorted (names : List FileName) : List FileName := names.foldr insert []

theorem mem_insert {x a : FileName} {bs : List FileName} :
    x ∈ insert a bs ↔ x = a ∨ x ∈ bs := by
  induction bs with
  | nil => simp [insert]
  | cons b bs ih =>
    unfold insert
    split
    · simp
    · split
      case isTrue h => simp [h]
      case isFalse => simp [ih, or_left_comm]

@[simp] theorem mem_sorted {x : FileName} {names : List FileName} :
    x ∈ sorted names ↔ x ∈ names := by
  induction names with
  | nil => exact Iff.rfl
  | cons a names ih => rw [sorted, List.foldr_cons, mem_insert, List.mem_cons, ← ih, sorted]

end FileName

end Iocost
