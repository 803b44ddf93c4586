/-!
Bytes as text. Bytes that are UTF-8 have one text; other bytes are shown with a replacement
character for each longest part that could have begun a character.
-/

namespace Iocost.Text

/-- The text that bytes encode, if they are UTF-8. -/
def decode? (bytes : List UInt8) : Option String := String.fromUTF8? ⟨bytes.toArray⟩

def encode (s : String) : List UInt8 := s.toUTF8.data.toList

/-- How a character of several bytes begins: the bits of its first byte, the range of its second
byte, and how many bytes follow the second one. -/
structure Lead where
  bits : Nat
  low : UInt8
  high : UInt8
  more : Nat

/-- What a first byte announces, if it can begin a character of several bytes. -/
def lead? (b : UInt8) : Option Lead :=
  let n := b.toNat
  if n < 0xc2 then none
  else if n < 0xe0 then some ⟨n - 0xc0, 0x80, 0xbf, 0⟩
  else if n = 0xe0 then some ⟨0, 0xa0, 0xbf, 1⟩
  else if n = 0xed then some ⟨0xd, 0x80, 0x9f, 1⟩
  else if n < 0xf0 then some ⟨n - 0xe0, 0x80, 0xbf, 1⟩
  else if n = 0xf0 then some ⟨0, 0x90, 0xbf, 2⟩
  else if n < 0xf4 then some ⟨n - 0xf0, 0x80, 0xbf, 2⟩
  else if n = 0xf4 then some ⟨4, 0x80, 0x8f, 2⟩
  else none

/-- Where a reader of bytes stands: between two characters, or inside one of which some bits are
known, with the range of the next byte and the count of bytes behind it. -/
inductive Pending where
  | none
  | inside (bits : Nat) (low high : UInt8) (more : Nat)

def replacement : Char := '\ufffd'

def first (b : UInt8) : List Char × Pending :=
  if b < 0x80 then ([Char.ofNat b.toNat], .none)
  else
    match lead? b with
    | some l => ([], .inside l.bits l.low l.high l.more)
    | none => ([replacement], .none)

/-- Reads one byte. A byte that cannot go on the character begun before it ends that one, which is
replaced, and is read afresh. -/
def advance (pending : Pending) (b : UInt8) : List Char × Pending :=
  match pending with
  | .none => first b
  | .inside bits low high more =>
    if low ≤ b ∧ b ≤ high then
      let bits := bits * 64 + b.toNat % 64
      match more with
      | 0 => ([Char.ofNat bits], .none)
      | more + 1 => ([], .inside bits 0x80 0xbf more)
    else
      let (cs, next) := first b
      (replacement :: cs, next)

def readLossy : Pending → List UInt8 → List Char
  | .none, [] => []
  | .inside .., [] => [replacement]
  | pending, b :: bs =>
    let (cs, next) := advance pending b
    cs ++ readLossy next bs

def decodeLossy (bytes : List UInt8) : String := String.ofList (readLossy .none bytes)

end Iocost.Text
