import Iocost.Binary64.Magnitude

/-!
Binary64 numbers: a sign with a magnitude, the two infinities, and one value that is not a number.
Each operation takes the exact result and rounds it once, to the nearest number, a half going to
the even significand.
-/

namespace Iocost

/-- A binary64 number. Zero has a sign. -/
inductive Binary64 where
  | nan
  | infinite (negative : Bool)
  | finite (negative : Bool) (magnitude : Magnitude)
deriving DecidableEq

namespace Binary64

instance : Inhabited Binary64 := ⟨.finite false .zero⟩

/-- The number zero, without a minus sign. -/
def zero : Binary64 := .finite false .zero

/-- The number nearest to `n / d` units, infinite when `n / d` is beyond the finite numbers. -/
def ofUnits (negative : Bool) (n d : Nat) : Binary64 :=
  match Magnitude.round? n d with
  | some m => .finite negative m
  | none => .infinite negative

def ofNat (n : Nat) : Binary64 := ofUnits false (n * Magnitude.one) 1

def ofInt (i : Int) : Binary64 := ofUnits (decide (i < 0)) (i.natAbs * Magnitude.one) 1

def isNaN : Binary64 → Bool
  | .nan => true
  | _ => false

/-- The number is neither an infinity nor a NaN. -/
def isFinite : Binary64 → Bool
  | .finite _ _ => true
  | _ => false

/-- The place of a number in the order: its signed units, with the infinities beyond them all. -/
def rank? : Binary64 → Option Int
  | .nan => none
  | .infinite negative => some (if negative then -Magnitude.limit else Magnitude.limit)
  | .finite negative m => some (if negative then -m.units else m.units)

/-- The numerical order, in which the two zeros are equal and a NaN is never less. -/
def lt (a b : Binary64) : Bool :=
  match a.rank?, b.rank? with
  | some x, some y => decide (x < y)
  | _, _ => false

/-- The numerical order with equality. -/
def le (a b : Binary64) : Bool :=
  match a.rank?, b.rank? with
  | some x, some y => decide (x ≤ y)
  | _, _ => false

def isPositive (a : Binary64) : Bool := zero.lt a

/-- The larger of two numbers; a NaN gives way to the other operand. -/
def max (a b : Binary64) : Binary64 :=
  if a.isNaN then b else if a.lt b then b else a

/-- The product, rounded once. -/
def mul : Binary64 → Binary64 → Binary64
  | .nan, _ => .nan
  | _, .nan => .nan
  | .infinite s, .infinite t => .infinite (s != t)
  | .infinite s, .finite t m => if m.units = 0 then .nan else .infinite (s != t)
  | .finite s m, .infinite t => if m.units = 0 then .nan else .infinite (s != t)
  | .finite s m, .finite t n => ofUnits (s != t) (m.units * n.units) Magnitude.one

/-- The quotient, rounded once. -/
def div : Binary64 → Binary64 → Binary64
  | .nan, _ => .nan
  | _, .nan => .nan
  | .infinite _, .infinite _ => .nan
  | .infinite s, .finite t _ => .infinite (s != t)
  | .finite s _, .infinite t => .finite (s != t) .zero
  | .finite s m, .finite t n =>
    if n.units = 0 then
      if m.units = 0 then .nan else .infinite (s != t)
    else
      ofUnits (s != t) (m.units * Magnitude.one) n.units

instance : Mul Binary64 := ⟨mul⟩

instance : Div Binary64 := ⟨div⟩

/-- The least and the greatest integer of 64 bits with a sign. -/
def integerRange : Int × Int := (-9223372036854775808, 9223372036854775807)

/-- An integer brought into the range of 64 bits with a sign. -/
def saturate (i : Int) : Int := Max.max integerRange.1 (Min.min integerRange.2 i)

/-- The integer that `ofSigned` gives for the sign and the units, kept in the range of 64 bits;
the end of the range for an infinity, zero for a NaN. -/
def toInteger (ofSigned : Bool → Nat → Int) : Binary64 → Int
  | .nan => 0
  | .infinite negative => if negative then integerRange.1 else integerRange.2
  | .finite negative m => saturate (ofSigned negative m.units)

/-- The least integer that is not below the number. -/
def ceil (a : Binary64) : Int :=
  a.toInteger fun negative n =>
    if negative then -(n / Magnitude.one) else (n + (Magnitude.one - 1)) / Magnitude.one

/-- The nearest integer, a half going to the even neighbour. -/
def roundEven (a : Binary64) : Int :=
  a.toInteger fun negative n =>
    if negative then -(divEven n Magnitude.one) else divEven n Magnitude.one

end Binary64

end Iocost
