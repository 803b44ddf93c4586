import Iocost.Text.Pieces
import Iocost.Text.Ranges

/-!
Blank characters, and texts cut at characters: trimming, words, lines.
-/

namespace Iocost.Text

/-- The ranges of the Unicode property `White_Space`. -/
def blankRanges : List (Nat × Nat) :=
  [(0x9, 0xd), (0x20, 0x20), (0x85, 0x85), (0xa0, 0xa0), (0x1680, 0x1680), (0x2000, 0x200a),
  (0x2028, 0x2029), (0x202f, 0x202f), (0x205f, 0x205f), (0x3000, 0x3000)]

/-- The character has the Unicode property `White_Space`. -/
def isBlank (c : Char) : Bool := inRanges blankRanges c.toNat

/-- The blank characters of ASCII without the vertical tab. -/
def isAsciiBlank (c : Char) : Bool :=
  c == ' ' || c == '\t' || c == '\n' || c == '\r' || c == '\x0c'

theorem isBlank_of_isAsciiBlank {c : Char} (h : isAsciiBlank c) : isBlank c := by
  simp only [isAsciiBlank, Bool.or_eq_true, beq_iff_eq] at h
  rcases h with (((rfl | rfl) | rfl) | rfl) | rfl <;> decide

/-- Removes the last characters as long as they satisfy `p`. -/
def dropEnd (p : Char → Bool) (cs : List Char) : List Char := (cs.reverse.dropWhile p).reverse

/-- Removes the blank characters at either end. -/
def trim (cs : List Char) : List Char := dropEnd isBlank (cs.dropWhile isBlank)

/-- The words of a text: its pieces between ASCII blanks, without the empty ones. -/
def words (cs : List Char) : List (List Char) :=
  (pieces isAsciiBlank cs).filter fun w => !w.isEmpty

/-- Removes one carriage return at the end. -/
def dropReturn (cs : List Char) : List Char :=
  match cs.reverse with
  | '\r' :: rest => rest.reverse
  | _ => cs

/-- The lines of a text. A line ends in a line feed, which a carriage return may precede; what
follows the last line feed is a line of its own unless it is empty. -/
def lines (cs : List Char) : List (List Char) :=
  let ps := pieces (· == '\n') cs
  ps.dropLast.map dropReturn ++ (ps.getLast?.toList.filter fun l => !l.isEmpty)

end Iocost.Text
