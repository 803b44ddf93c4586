/-!
Columns of a table: texts filled up to a width, and the end of a text that is too long. Widths
count characters.
-/

namespace Iocost.Text

/-- Fills a text up with blanks behind it. -/
def padRight (width : Nat) (cs : List Char) : List Char :=
  cs ++ List.replicate (width - cs.length) ' '

/-- Fills a text up with blanks in front of it. -/
def padLeft (width : Nat) (cs : List Char) : List Char :=
  List.replicate (width - cs.length) ' ' ++ cs

/-- The last `width` characters, but all of them if the width is zero. -/
def tail (width : Nat) (cs : List Char) : List Char :=
  if width = 0 then cs else cs.drop (cs.length - width)

/-- Characters with their offsets in bytes, the first one at `offset`. -/
def charOffsets (offset : Nat) : List Char → List (Nat × Char)
  | [] => []
  | c :: cs => (offset, c) :: charOffsets (offset + c.utf8Size) cs

/-- An integer in decimal digits, with a minus sign where it is negative. -/
def integer (i : Int) : List Char :=
  if i < 0 then '-' :: Nat.toDigits 10 i.natAbs else Nat.toDigits 10 i.natAbs

/-- An integer in decimal digits, always with a sign. -/
def signedInteger (i : Int) : List Char :=
  (if i < 0 then '-' else '+') :: Nat.toDigits 10 i.natAbs

/-- An integer filled up to a width with zeros, which stand behind the sign. -/
def zeroPadded (width : Nat) (i : Int) : List Char :=
  let digits := Nat.toDigits 10 i.natAbs
  if i < 0 then '-' :: (List.replicate (width - 1 - digits.length) '0' ++ digits)
  else List.replicate (width - digits.length) '0' ++ digits

theorem length_padRight (width : Nat) (cs : List Char) :
    (padRight width cs).length = max width cs.length := by
  simp only [padRight, List.length_append, List.length_replicate]
  omega

theorem length_tail {width : Nat} (h : width ≠ 0) (cs : List Char) :
    (tail width cs).length = min width cs.length := by
  simp only [tail, h, ↓reduceIte, List.length_drop]
  omega

end Iocost.Text
