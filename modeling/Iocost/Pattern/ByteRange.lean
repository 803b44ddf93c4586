import Iocost.Text.Ranges

/-!
Sets of characters as sets of byte sequences. The UTF-8 encodings of the characters of a range are
cut into rectangles: sequences of byte ranges from each of which any byte may be chosen.
-/

namespace Iocost.Pattern

/-- The bytes from `low` to `high`, both included. -/
structure ByteRange where
  low : UInt8
  high : UInt8
deriving DecidableEq

/-- The bytes that encode the character with a number. -/
def scalarBytes (n : Nat) : List UInt8 :=
  let tail (shift : Nat) : UInt8 := UInt8.ofNat (0x80 + n / shift % 64)
  if n < 0x80 then [UInt8.ofNat n]
  else if n < 0x800 then [UInt8.ofNat (0xc0 + n / 64), tail 1]
  else if n < 0x10000 then [UInt8.ofNat (0xe0 + n / 4096), tail 64, tail 1]
  else [UInt8.ofNat (0xf0 + n / 262144), tail 4096, tail 64, tail 1]

/-- The cut of a range after a number inside it: where the lower part ends and the upper part
starts. -/
def cutAfter? (low high n : Nat) : Option (Nat × Nat) :=
  if low ≤ n ∧ n < high then some (n, n + 1) else none

/-- The cut of a range before a multiple of `block`, if it reaches from one block into another and
holds only a part of one of them. -/
def cutBlock? (low high block : Nat) : Option (Nat × Nat) :=
  if low / block = high / block then none
  else if low % block ≠ 0 then some ((low / block + 1) * block - 1, (low / block + 1) * block)
  else if high % block ≠ block - 1 then some (high / block * block - 1, high / block * block)
  else none

/-- The first cut that a range needs before its encodings are a rectangle: surrogates are left out,
all encodings have one length, and behind a byte that differs all bytes may follow. -/
def cut? (low high : Nat) : Option (Nat × Nat) :=
  if low < 0xe000 ∧ 0xd7ff < high then some (0xd7ff, 0xe000)
  else
    cutAfter? low high 0x7f <|> cutAfter? low high 0x7ff <|> cutAfter? low high 0xffff <|>
      if high < 0x80 then none
      else cutBlock? low high 64 <|> cutBlock? low high 4096 <|> cutBlock? low high 262144

/-- The rectangles of a range, in order. -/
def rectangles (low high : Nat) : List (List ByteRange) :=
  if low ≤ high then
    match cut? low high with
    | some (a, b) =>
      if a < high ∧ low < b then rectangles low a ++ rectangles b high
      else []
    | none => [List.zipWith ByteRange.mk (scalarBytes low) (scalarBytes high)]
  else
    []
termination_by high + 1 - low

/-- The rectangles of ranges of characters. -/
def byteSequences (ranges : List (Nat × Nat)) : List (List ByteRange) :=
  ranges.flatMap fun (low, high) => rectangles low high

end Iocost.Pattern
