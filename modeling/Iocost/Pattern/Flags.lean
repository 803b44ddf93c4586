import Iocost.Pattern.Basic

/-!
Flags, which say how the text of a pattern is read: `i` folds case, `m` lets `^` and `$` stand for
the ends of lines, `s` lets a dot be any character, `R` takes carriage returns as ends of lines,
`u` reads characters of all of Unicode, `x` leaves out blanks and comments, and `U` swaps eager and
lazy repetition.
-/

namespace Iocost.Pattern

/-- How the text of a pattern is read. -/
structure Flags where
  foldCase : Bool
  multiLine : Bool
  dotAll : Bool
  crlf : Bool
  unicode : Bool
  extended : Bool
  swapped : Bool
deriving DecidableEq

namespace Flags

def initial : Flags where
  foldCase := false
  multiLine := false
  dotAll := false
  crlf := false
  unicode := true
  extended := false
  swapped := false

def set (f : Flags) (letter : Char) (value : Bool) : Flags :=
  match letter with
  | 'i' => { f with foldCase := value }
  | 'm' => { f with multiLine := value }
  | 's' => { f with dotAll := value }
  | 'R' => { f with crlf := value }
  | 'u' => { f with unicode := value }
  | 'x' => { f with extended := value }
  | 'U' => { f with swapped := value }
  | _ => f

/-- Sets the flags before the first hyphen of a list of letters and clears those after it. -/
def update (f : Flags) (letters : List Char) : Flags :=
  let on := letters.takeWhile (· != '-')
  let off := letters.dropWhile (· != '-')
  off.foldl (fun f letter => f.set letter false) (on.foldl (fun f letter => f.set letter true) f)

/-- The letters can be put into a group: each is a flag, none comes twice, and the one hyphen there
may be has a flag after it. -/
def areLetters (letters : List Char) : Bool :=
  letters.all ("imsUuRx-".toList.contains ·) && decide letters.Nodup && letters.getLast? != some '-'

/-- The text without the blanks and comments at its start. A comment goes from a number sign to the
end of the line. -/
def dropComments : (inComment : Bool) → List Char → List Char
  | _, [] => []
  | true, c :: cs => dropComments (c != '\n') cs
  | false, c :: cs =>
    if Text.isBlank c then dropComments false cs
    else if c == '#' then dropComments true cs
    else c :: cs

/-- The text from its first character that counts. -/
def skip (f : Flags) (cs : List Char) : List Char :=
  if f.extended then dropComments false cs else cs

/-- The text from its first character that is not blank, within a count. -/
def skipInCount (f : Flags) (cs : List Char) : List Char :=
  if f.extended then dropComments false cs else cs.dropWhile Text.isBlank

/-- The character at the start of a text, after blanks and a number sign. -/
def peek (f : Flags) (cs : List Char) : Option Char :=
  if f.extended then
    match cs.dropWhile Text.isBlank with
    | '#' :: rest => (rest.dropWhile Text.isBlank).head?
    | rest => rest.head?
  else
    cs.head?

/-- The characters at the start of a text that satisfy `p`, and what follows them, when they are
read one by one and what does not count between them is left out. -/
def span (f : Flags) (p : Char → Bool) :
    (inComment : Bool) → List Char → List Char × List Char
  | _, [] => ([], [])
  | true, c :: cs => f.span p (c != '\n') cs
  | false, c :: cs =>
    if p c then
      let (taken, rest) := f.span p false cs
      (c :: taken, rest)
    else if f.extended && Text.isBlank c then f.span p false cs
    else if f.extended && c == '#' then f.span p true cs
    else ([], c :: cs)

/-- The set of a class such as `\w`; without Unicode it is cut to ASCII. -/
def letterClass? (f : Flags) (letter : Char) : Option CharClass :=
  match letter with
  | 'd' => some (if f.unicode then .digit else .range '0' '9')
  | 's' => some (if f.unicode then .blank else .asciiBlank)
  | 'w' => some (if f.unicode then .word else .asciiWord)
  | _ => none

def wordClass (f : Flags) : CharClass := if f.unicode then .word else .asciiWord

/-- A set with the letters in either case where case is folded. -/
def fold (f : Flags) (set : CharClass) : CharClass :=
  if f.foldCase then .folded (!f.unicode) set else set

/-- A set that is complete: folded, then turned into its complement if it is negated. Without
Unicode it may hold ASCII characters only. -/
def finish (f : Flags) (negated : Bool) (set : CharClass) : Option CharClass :=
  let set := f.fold set
  let set := if negated then .compl set else set
  if !f.unicode && set.mem '\x80' then none else some set

/-- The set that a dot stands for. -/
def dot (f : Flags) : Option CharClass :=
  if !f.unicode then none
  else if f.dotAll then some .any
  else if f.crlf then some (.compl (.union (.single '\r') (.single '\n')))
  else some (.compl (.single '\n'))

/-- What `^` asks for. -/
def caret (f : Flags) : Look := if f.multiLine then .lineStart f.crlf else .textStart

/-- What `$` asks for. -/
def dollar (f : Flags) : Look := if f.multiLine then .lineEnd f.crlf else .textEnd

end Flags

end Iocost.Pattern
