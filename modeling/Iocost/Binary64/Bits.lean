import Iocost.Binary64.Basic

/-!
The interchange encoding of binary64 numbers: one bit for the sign, 11 for the exponent and 52 for
the fraction. All encodings of values that are not numbers are read as one value.
-/

namespace Iocost.Binary64

/-- How many fractions there are, which is the first of the numbers of 53 bits. -/
def fractionCount : Nat := 4503599627370496

/-- The number that 64 bits encode. -/
def ofBits (bits : UInt64) : Binary64 :=
  let n := bits.toNat
  let negative := n.testBit 63
  let exponent := n / fractionCount % 2048
  let fraction := n % fractionCount
  if exponent = 2047 then
    if fraction = 0 then .infinite negative else .nan
  else if exponent = 0 then
    ofUnits negative fraction 1
  else
    ofUnits negative ((fractionCount + fraction) * Nat.pow 2 (exponent - 1)) 1

/-- The encoding of a magnitude without its sign. -/
def magnitudeBits (m : Magnitude) : Nat :=
  if m.units < fractionCount then m.units
  else
    let k := m.units.log2 - 52
    (k + 1) * fractionCount + (m.units / Nat.pow 2 k - fractionCount)

/-- The encoding of a number; the quiet one without a sign for the value that is not a number. -/
def toBits : Binary64 → UInt64
  | .nan => 0x7ff8000000000000
  | .infinite negative => if negative then 0xfff0000000000000 else 0x7ff0000000000000
  | .finite negative m =>
    UInt64.ofNat ((if negative then 0x8000000000000000 else 0) + magnitudeBits m)

end Iocost.Binary64
