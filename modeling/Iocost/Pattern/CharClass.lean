import Iocost.Pattern.CaseVariants
import Iocost.Pattern.Property
import Iocost.Text.Blank

/-!
Sets of characters as they are written in patterns. A set is a term, `CharClass.mem` says which
characters are in it, and `CharClass.ranges` lists them.
-/

namespace Iocost

/-- A set of characters. -/
inductive CharClass where
  | none
  /-- The characters from `low` to `high`, both included. -/
  | range (low high : Char)
  /-- The characters of words. -/
  | word
  /-- The decimal digits. -/
  | digit
  /-- The blank characters. -/
  | blank
  /-- The characters with the property `Alphabetic`. -/
  | alphabetic
  /-- The characters that stand for numbers. -/
  | numeric
  | union (a b : CharClass)
  | inter (a b : CharClass)
  | compl (a : CharClass)
  /-- The characters of `a` in either case; with `ascii` the case of ASCII letters alone. -/
  | folded (ascii : Bool) (a : CharClass)
deriving DecidableEq

namespace CharClass

open Pattern Text

def mem : CharClass → Char → Bool
  | none, _ => false
  | range low high, c => decide (low ≤ c) && decide (c ≤ high)
  | word, c => inRanges wordRanges c.toNat
  | digit, c => inRanges settledDigitRanges c.toNat
  | blank, c => isBlank c
  | alphabetic, c => inRanges settledAlphabeticRanges c.toNat
  | numeric, c => inRanges settledNumericRanges c.toNat
  | union a b, c => a.mem c || b.mem c
  | inter a b, c => a.mem c && b.mem c
  | compl a, c => !a.mem c
  | folded ascii a, c =>
    a.mem c || (if ascii then asciiVariants c else caseVariants c).any a.mem

/-- The ranges of the numbers of the characters, in normal form. -/
def ranges : CharClass → List (Nat × Nat)
  | none => []
  | range low high => if low ≤ high then [(low.toNat, high.toNat)] else []
  | word => wordRanges
  | digit => settledDigitRanges
  | blank => blankRanges
  | alphabetic => settledAlphabeticRanges
  | numeric => settledNumericRanges
  | union a b => joinRanges (a.ranges ++ b.ranges)
  | inter a b => interRanges a.ranges b.ranges
  | compl a => complRanges a.ranges
  | folded ascii a =>
    let ranges := a.ranges
    joinRanges (ranges ++ pairedRanges (if ascii then asciiCasePairs else casePairs) ranges)

def single (c : Char) : CharClass := range c c

def any : CharClass := compl none

/-- The characters of `a` that are not in `b`. -/
def diff (a b : CharClass) : CharClass := inter a (compl b)

/-- The characters that are in one of the sets only. -/
def symmDiff (a b : CharClass) : CharClass := union (diff a b) (diff b a)

def ofRanges (ranges : List (Char × Char)) : CharClass :=
  ranges.foldr (fun r c => union (range r.1 r.2) c) none

/-- The characters of words within ASCII. -/
def asciiWord : CharClass := ofRanges [('0', '9'), ('A', 'Z'), ('_', '_'), ('a', 'z')]

def asciiBlank : CharClass := ofRanges [('\t', '\r'), (' ', ' ')]

/-- The set of ASCII characters with a name such as `alpha`. -/
def named? : String → Option CharClass
  | "alnum" => some (ofRanges [('0', '9'), ('A', 'Z'), ('a', 'z')])
  | "alpha" => some (ofRanges [('A', 'Z'), ('a', 'z')])
  | "ascii" => some (range '\x00' '\x7f')
  | "blank" => some (ofRanges [('\t', '\t'), (' ', ' ')])
  | "cntrl" => some (ofRanges [('\x00', '\x1f'), ('\x7f', '\x7f')])
  | "digit" => some (range '0' '9')
  | "graph" => some (range '!' '~')
  | "lower" => some (range 'a' 'z')
  | "print" => some (range ' ' '~')
  | "punct" => some (ofRanges [('!', '/'), (':', '@'), ('[', '\x60'), ('\x7b', '~')])
  | "space" => some asciiBlank
  | "upper" => some (range 'A' 'Z')
  | "word" => some asciiWord
  | "xdigit" => some (ofRanges [('0', '9'), ('A', 'F'), ('a', 'f')])
  | _ => Option.none

@[simp] theorem mem_none (c : Char) : none.mem c = false := rfl

@[simp] theorem mem_union (a b : CharClass) (c : Char) :
    (union a b).mem c = (a.mem c || b.mem c) := rfl

@[simp] theorem mem_inter (a b : CharClass) (c : Char) :
    (inter a b).mem c = (a.mem c && b.mem c) := rfl

@[simp] theorem mem_compl (a : CharClass) (c : Char) : (compl a).mem c = !a.mem c := rfl

@[simp] theorem mem_any (c : Char) : any.mem c = true := rfl

end CharClass

end Iocost
