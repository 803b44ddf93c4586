/-!
Strings and keys of TOML. A reader is given the text behind an opening mark and answers with what
it has read and the text that follows. Strings are read step by step: each step takes some of the
text, and the last one takes the closing mark.
-/

namespace Iocost.Toml

/-- A double quotation mark. -/
def quote : Char := '\x22'

/-- A single quotation mark. -/
def apostrophe : Char := '\x27'

/-- A space or a tab. -/
def isSpace (c : Char) : Bool := c == ' ' || c == '\t'

/-- The character may stand in a comment or in a string: no control character but the tab. -/
def isText (c : Char) : Bool := c == '\t' || (decide (0x20 ≤ c.toNat) && c != '\x7f')

/-- The text behind the end of a line at its start. -/
def afterLineEnd? : List Char → Option (List Char)
  | '\n' :: cs => some cs
  | '\r' :: '\n' :: cs => some cs
  | _ => none

/-- One step in a string: what it stands for and the text that follows. -/
inductive StringStep where
  | more (taken rest : List Char)
  | done (taken rest : List Char)

/-- Takes steps to the end of a string. Each step takes at least one character, so `fuel` need not
exceed the length of the text. -/
def collect (step : List Char → Option StringStep) :
    (fuel : Nat) → List Char → Option (List Char × List Char)
  | 0, _ => none
  | fuel + 1, cs =>
    match step cs with
    | none => none
    | some (.done taken rest) => some (taken, rest)
    | some (.more taken rest) =>
      (collect step fuel rest).map fun (more, rest) => (taken ++ more, rest)

def hexValue? (c : Char) : Option Nat :=
  if c.isDigit then some (c.toNat - '0'.toNat)
  else if 'a' ≤ c ∧ c ≤ 'f' then some (c.toNat - 'a'.toNat + 10)
  else if 'A' ≤ c ∧ c ≤ 'F' then some (c.toNat - 'A'.toNat + 10)
  else none

/-- The character with a number of so many hexadecimal digits. -/
def readCode (width : Nat) (cs : List Char) : Option StringStep := do
  let digits ← (cs.take width).mapM hexValue?
  guard (digits.length = width)
  let n := digits.foldl (fun n d => 16 * n + d) 0
  if h : n.isValidChar then some (.more [Char.ofNatAux n h] (cs.drop width)) else none

def readEscape : List Char → Option StringStep
  | 'b' :: cs => some (.more ['\x08'] cs)
  | 't' :: cs => some (.more ['\t'] cs)
  | 'n' :: cs => some (.more ['\n'] cs)
  | 'f' :: cs => some (.more ['\x0c'] cs)
  | 'r' :: cs => some (.more ['\r'] cs)
  | 'e' :: cs => some (.more ['\x1b'] cs)
  | '\\' :: cs => some (.more ['\\'] cs)
  | 'x' :: cs => readCode 2 cs
  | 'u' :: cs => readCode 4 cs
  | 'U' :: cs => readCode 8 cs
  | c :: cs => if c = quote then some (.more [quote] cs) else none
  | [] => none

/-- The text from its first character that is neither blank nor the end of a line. -/
def dropEmptyLines : List Char → List Char
  | '\r' :: '\n' :: cs => dropEmptyLines cs
  | c :: cs => if isSpace c || c == '\n' then dropEmptyLines cs else c :: cs
  | [] => []

/-- A step in a string that ends at `mark`, with escapes or without. -/
def lineStep (mark : Char) (escapes : Bool) : List Char → Option StringStep
  | [] => none
  | c :: cs =>
    if c = mark then some (.done [] cs)
    else if escapes ∧ c = '\\' then readEscape cs
    else if isText c then some (.more [c] cs)
    else none

/-- A step in a string of several lines, which ends at three marks in a row; up to two more before
them belong to it. A backslash at the end of a line takes away all blanks and line ends behind
it. -/
def blockStep (mark : Char) (escapes : Bool) (cs : List Char) : Option StringStep :=
  match cs with
  | [] => none
  | c :: rest =>
    if c = mark then
      let marks := cs.takeWhile (· == mark)
      if marks.length < 3 then some (.more [mark] rest)
      else
        let inside := min (marks.length - 3) 2
        some (.done (List.replicate inside mark) (cs.drop (inside + 3)))
    else if escapes ∧ c = '\\' then
      match afterLineEnd? (rest.dropWhile isSpace) with
      | some below => some (.more [] (dropEmptyLines below))
      | none => readEscape rest
    else
      match afterLineEnd? cs with
      | some below => some (.more (cs.take (cs.length - below.length)) below)
      | none => if isText c then some (.more [c] rest) else none

def readString (cs : List Char) : Option (List Char × List Char) :=
  match cs with
  | [] => none
  | mark :: rest =>
    if mark = quote ∨ mark = apostrophe then
      let escapes := mark == quote
      if rest.take 2 = [mark, mark] then
        let inside := rest.drop 2
        collect (blockStep mark escapes) (cs.length + 1) ((afterLineEnd? inside).getD inside)
      else
        collect (lineStep mark escapes) (cs.length + 1) rest
    else
      none

/-- The character may stand in a key without quotation marks. -/
def isBare (c : Char) : Bool := c.isAlphanum || c == '_' || c == '-'

/-- A key of one part: bare, or a string on one line. -/
def readKey (cs : List Char) : Option (List Char × List Char) :=
  match cs with
  | [] => none
  | c :: rest =>
    if c = quote ∨ c = apostrophe then collect (lineStep c (c == quote)) (cs.length + 1) rest
    else
      match cs.takeWhile isBare with
      | [] => none
      | key => some (key, cs.dropWhile isBare)

end Iocost.Toml
