import Iocost.Pattern.CharClass

/-!
Patterns of texts, and the places of a text between its characters. A pattern says which stretches
of a text it covers. Groups and the eagerness of repetitions make no difference to that, but they
show in the size of the automaton.
-/

namespace Iocost

/-- A place in a text: the characters on its two sides, if there are any. -/
structure Place where
  before : Option Char
  after : Option Char
deriving DecidableEq

/-- The places of a text that follows the character `before`, from the first to the one at its
end. -/
def Place.listAfter (before : Option Char) : List Char → List Place
  | [] => [⟨before, none⟩]
  | c :: cs => ⟨before, some c⟩ :: Place.listAfter (some c) cs

def Place.list (text : List Char) : List Place := Place.listAfter none text

@[simp] theorem Place.length_listAfter (before : Option Char) (text : List Char) :
    (Place.listAfter before text).length = text.length + 1 := by
  induction text generalizing before with
  | nil => rfl
  | cons c cs ih => simp [Place.listAfter, ih]

@[simp] theorem Place.length_list (text : List Char) :
    (Place.list text).length = text.length + 1 := Place.length_listAfter none text

/-- A condition on where a word starts or ends. -/
inductive Edge where
  /-- A word starts or ends here. -/
  | boundary
  | noBoundary
  | start
  | finish
  /-- No character of a word is before. -/
  | startHalf
  /-- No character of a word is after. -/
  | finishHalf
deriving DecidableEq

/-- A condition on a place. -/
inductive Look where
  | textStart
  | textEnd
  /-- A line starts here; with `crlf` a carriage return ends lines too, except before a line
  feed. -/
  | lineStart (crlf : Bool)
  | lineEnd (crlf : Bool)
  /-- An edge of words made of the characters `letters`. -/
  | edge (kind : Edge) (letters : CharClass)
deriving DecidableEq

/-- The condition, given whether the characters before and after belong to words. -/
def Edge.holds : Edge → Bool → Bool → Bool
  | boundary, before, after => before != after
  | noBoundary, before, after => before == after
  | start, before, after => !before && after
  | finish, before, after => before && !after
  | startHalf, before, _ => !before
  | finishHalf, _, after => !after

def Look.holds : Look → Place → Bool
  | textStart, p => p.before.isNone
  | textEnd, p => p.after.isNone
  | lineStart crlf, p =>
    p.before.isNone || p.before == some '\n' ||
      (crlf && p.before == some '\r' && p.after != some '\n')
  | lineEnd crlf, p =>
    p.after.isNone ||
      (if crlf then p.after == some '\r' || (p.after == some '\n' && p.before != some '\r')
      else p.after == some '\n')
  | edge kind letters, p => kind.holds (p.before.any letters.mem) (p.after.any letters.mem)

/-- A pattern of texts. -/
inductive Pattern where
  | empty
  /-- One character of a set. -/
  | one (set : CharClass)
  /-- A place that meets a condition. -/
  | look (condition : Look)
  | seq (p q : Pattern)
  | alt (p q : Pattern)
  /-- A part in parentheses, with its number if it has one. -/
  | group (number : Option Nat) (p : Pattern)
  /-- At least `least` times, and at most `most` times if there is a limit. -/
  | rep (p : Pattern) (least : Nat) (most : Option Nat) (eager : Bool)
deriving DecidableEq

namespace Pattern

def ofSeq : List Pattern → Pattern
  | [] => empty
  | [p] => p
  | p :: ps => seq p (ofSeq ps)

def ofAlt : List Pattern → Pattern
  | [] => one .none
  | [p] => p
  | p :: ps => alt p (ofAlt ps)

end Pattern

end Iocost
