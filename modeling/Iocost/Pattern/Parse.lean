import Iocost.Pattern.Bracket

/-!
Reading the text of a pattern. The reader keeps what it has read of the current group and, on a
stack, what it had read of the groups around it. It takes the text step by step
(`Reading.stepAt`); `Pattern.parse?` runs the steps and refuses a pattern that nests too deeply.
-/

namespace Iocost.Pattern

/-- A pattern, with the depth to which its text nests. -/
structure Nested where
  pattern : Pattern
  depth : Nat

/-- A part of a sequence: a pattern, or flags that hold from there on. -/
inductive Part where
  | pattern (nested : Nested)
  | flags

def Part.depth : Part → Nat
  | pattern nested => nested.depth
  | flags => 0

def Part.pattern? : Part → Option Pattern
  | pattern nested => some nested.pattern
  | flags => none

/-- The depth of a node above nodes of the depths given: nothing is added above a single one. -/
def depthAbove : List Nat → Nat
  | [] => 0
  | [depth] => depth
  | depths => depths.foldl max 0 + 1

/-- What has been read of a group. -/
structure OpenGroup where
  /-- The parts of the current branch, the latest first. -/
  parts : List Part
  /-- The finished branches, the latest first. -/
  branches : List Nested

namespace OpenGroup

/-- A group of which nothing has been read. -/
def start : OpenGroup := ⟨[], []⟩

def push (g : OpenGroup) (nested : Nested) : OpenGroup :=
  { g with parts := .pattern nested :: g.parts }

def branch (g : OpenGroup) : Nested where
  pattern := ofSeq (g.parts.reverse.filterMap Part.pattern?)
  depth := depthAbove (g.parts.map Part.depth)

def nextBranch (g : OpenGroup) : OpenGroup := ⟨[], g.branch :: g.branches⟩

/-- The branches as one pattern. -/
def close (g : OpenGroup) : Nested :=
  let branches := g.nextBranch.branches.reverse
  ⟨ofAlt (branches.map Nested.pattern), depthAbove (branches.map Nested.depth)⟩

/-- Repeats the last part of the current branch, which has to be a pattern. -/
def rep? (g : OpenGroup) (least : Nat) (most : Option Nat) (eager : Bool) : Option OpenGroup :=
  match g.parts with
  | .pattern last :: parts =>
    some { g with parts := .pattern ⟨.rep last.pattern least most eager, last.depth + 1⟩ :: parts }
  | _ => none

end OpenGroup

/-- A group that waits for the end of the one inside it: what was read of it, the flags to go on
with, and the number of the one inside it. -/
structure Waiting where
  group : OpenGroup
  flags : Flags
  number : Option Nat

/-- How far the text of a pattern has been read. -/
structure Reading where
  flags : Flags
  group : OpenGroup
  waiting : List Waiting
  /-- The names of groups so far. -/
  names : List (List Char)
  /-- How many groups with a number have begun. -/
  numbered : Nat
  rest : List Char

/-- Whether a question mark follows a repetition, and the text without it. -/
def readMark : List Char → Bool × List Char
  | '?' :: cs => (true, cs)
  | cs => (false, cs)

/-- A count: decimal digits, with blanks around them. An empty text of digits is no count. -/
def readCount (f : Flags) (cs : List Char) : Option (Option Nat × List Char) :=
  let (digits, rest) := f.span Char.isDigit false (f.skipInCount cs)
  let n := digits.foldl (fun n c => 10 * n + (c.toNat - '0'.toNat)) 0
  if digits.isEmpty then some (none, f.skipInCount rest)
  else if n < 4294967296 then some (some n, f.skipInCount rest)
  else none

/-- The counts after an opening brace: `n`, `n,` or `n,m` with `n ≤ m`. -/
def readCounts (f : Flags) (cs : List Char) : Option ((Nat × Option Nat) × List Char) := do
  let (least, rest) ← readCount f cs
  let least ← least
  match rest with
  | '\x7d' :: rest => some ((least, some least), rest)
  | ',' :: rest =>
    match f.skip rest with
    | '\x7d' :: rest => some ((least, none), rest)
    | rest =>
      let (most, rest) ← readCount f rest
      let most ← most
      match rest with
      | '\x7d' :: rest => if least ≤ most then some ((least, some most), rest) else none
      | _ => none
  | _ => none

def isNameStart (c : Char) : Bool := c == '_' || isAlphabetic c

def isNameRest (c : Char) : Bool :=
  c == '_' || c == '.' || c == '[' || c == ']' || isAlphabetic c || isNumeric c

/-- The name of a group up to the closing angle bracket. -/
def readName (cs : List Char) : Option (List Char × List Char) :=
  match cs.takeWhile (· != '>'), cs.dropWhile (· != '>') with
  | c :: name, _ :: rest =>
    if isNameStart c && name.all isNameRest then some (c :: name, rest) else none
  | _, _ => none

namespace Reading

def start (text : List Char) : Reading := ⟨.initial, .start, [], [], 0, text⟩

def push (r : Reading) (nested : Nested) (rest : List Char) : Reading :=
  { r with group := r.group.push nested, rest := rest }

def enter (r : Reading) (flags : Flags) (rest : List Char) : Reading :=
  { r with
    flags := flags
    group := .start
    waiting := ⟨r.group, r.flags, none⟩ :: r.waiting
    rest := rest }

def enterNumbered (r : Reading) (rest : List Char) : Reading :=
  { r with
    group := .start
    waiting := ⟨r.group, r.flags, some r.numbered⟩ :: r.waiting
    numbered := r.numbered + 1
    rest := rest }

/-- A group with a name that no group before it has. -/
def enterNamed (r : Reading) (cs : List Char) : Option Reading := do
  let (name, rest) ← readName cs
  guard (!r.names.contains name)
  some { r.enterNumbered rest with names := name :: r.names }

/-- Flags for the rest of the group, or for a group of their own. -/
def setFlags (r : Reading) (cs : List Char) : Option Reading :=
  let isEnd (c : Char) : Bool := c == ':' || c == ')'
  let letters := cs.takeWhile (!isEnd ·)
  if Flags.areLetters letters then
    match cs.dropWhile (!isEnd ·) with
    | ':' :: rest => some (r.enter (r.flags.update letters) rest)
    | _ :: rest =>
      if letters.isEmpty then none
      else
        some { r with
          flags := r.flags.update letters
          group := { r.group with parts := .flags :: r.group.parts }
          rest := rest }
    | [] => none
  else
    none

/-- What follows an opening parenthesis. There are no conditions on what is around a match. -/
def openGroup (r : Reading) (cs : List Char) : Option Reading :=
  match r.flags.skip cs with
  | '?' :: '=' :: _ => none
  | '?' :: '!' :: _ => none
  | '?' :: '<' :: '=' :: _ => none
  | '?' :: '<' :: '!' :: _ => none
  | '?' :: 'P' :: '<' :: rest => r.enterNamed rest
  | '?' :: '<' :: rest => r.enterNamed rest
  | '?' :: rest => r.setFlags rest
  | rest => some (r.enterNumbered rest)

/-- Goes back to the group around the one that ends. -/
def closeGroup (r : Reading) (cs : List Char) : Option Reading :=
  match r.waiting with
  | [] => none
  | outer :: waiting =>
    let closed := r.group.close
    some { r with
      flags := outer.flags
      group := outer.group.push ⟨.group outer.number closed.pattern, closed.depth + 1⟩
      waiting := waiting
      rest := cs }

def rep (r : Reading) (least : Nat) (most : Option Nat) (rest : List Char) : Option Reading :=
  let (marked, rest) := readMark rest
  (r.group.rep? least most (marked == r.flags.swapped)).map fun group =>
    { r with group := group, rest := rest }

/-- Takes the next thing from the text `c :: cs`. -/
def stepAt (r : Reading) (c : Char) (cs : List Char) : Option Reading :=
  match c with
  | '(' => r.openGroup cs
  | ')' => r.closeGroup cs
  | '|' => some { r with group := r.group.nextBranch, rest := cs }
  | '[' =>
    (readClass r.flags cs).map fun (nested, rest) => r.push ⟨.one nested.set, nested.depth⟩ rest
  | '?' => r.rep 0 (some 1) cs
  | '*' => r.rep 0 none cs
  | '+' => r.rep 1 none cs
  | '\x7b' => do
    let ((least, most), rest) ← readCounts r.flags cs
    r.rep least most (r.flags.skip rest)
  | '.' => r.flags.dot.map fun set => r.push ⟨.one set, 0⟩ cs
  | '^' => some (r.push ⟨.look r.flags.caret, 0⟩ cs)
  | '$' => some (r.push ⟨.look r.flags.dollar, 0⟩ cs)
  | '\\' => do
    let (primitive, rest) ← readEscape r.flags cs
    some (r.push ⟨← primitive.toPattern? r.flags, 0⟩ rest)
  | c => ((Primitive.literal c false).toPattern? r.flags).map fun p => r.push ⟨p, 0⟩ cs

/-- The pattern that has been read, at the end of the text. No group may be open. -/
def finish (r : Reading) : Option Nested :=
  if r.waiting.isEmpty then some r.group.close else none

/-- Reads on to the end of the text. Each step takes at least one character, so `fuel` need not
exceed the length of the text. -/
def run : (fuel : Nat) → Reading → Option Nested
  | 0, _ => none
  | fuel + 1, r =>
    match r.flags.skip r.rest with
    | [] => r.finish
    | c :: cs => (r.stepAt c cs).bind (run fuel)

end Reading

def depthLimit : Nat := 250

def parse? (text : List Char) : Option Pattern :=
  ((Reading.start text).run (text.length + 1)).bind fun nested =>
    if nested.depth ≤ depthLimit then some nested.pattern else none

end Iocost.Pattern
