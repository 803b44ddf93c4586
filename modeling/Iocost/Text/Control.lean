import Iocost.Text.Utf8

/-!
Texts without control sequences. A sequence begins with the escape character and says by its next
characters where it ends; line breaks and tabulators inside it stay, as they do elsewhere, while
other control characters are left out. After a line break or tabulator inside a sequence the text is
shown again, up to the next character that is left out; from there on the sequence is taken up where
it was.
-/

namespace Iocost.Text

/-- Where a reader of control sequences stands. -/
inductive ControlState where
  /-- In no sequence. -/
  | outside
  /-- Behind the escape character. -/
  | escape
  /-- In a sequence of two or more characters, the last of which ends it. -/
  | escapeMore
  /-- In a sequence with parameters, which a letter ends. -/
  | parameters
  /-- At the start of a device string. -/
  | device
  /-- In the parameters of a device string. -/
  | deviceParameters
  /-- Behind the parameters of a device string. -/
  | deviceMore
  /-- In a string that a byte `9c` ends, be it a part of a character. -/
  | body
  /-- In a command for the operating system, which the bell ends. -/
  | command
deriving DecidableEq

/-- The character is a line break or a tabulator. -/
def isLayout (c : Char) : Bool := c == '\t' || c == '\n' || c == '\x0c' || c == '\r'

/-- The character is shown outside of sequences. -/
def isShown (c : Char) : Bool := isLayout c || (decide (' ' ≤ c) && c != '\x7f')

namespace ControlState

/-- Takes a character, and says whether it is shown. -/
def take (s : ControlState) (c : Char) : ControlState × Bool :=
  let within (low high : Char) : Bool := decide (low ≤ c) && decide (c ≤ high)
  if c == '\x18' || c == '\x1a' then (outside, false)
  else if c == '\x1b' then (escape, false)
  else
    match s with
    | outside => (outside, isShown c)
    | escape =>
      if within ' ' '/' then (escapeMore, false)
      else if c == '[' then (parameters, false)
      else if c == ']' then (command, false)
      else if c == 'P' then (device, false)
      else if c == 'X' || c == '^' || c == '_' then (body, false)
      else if within '0' '~' then (outside, false)
      else (escape, isLayout c)
    | escapeMore => if within '0' '~' then (outside, false) else (escapeMore, isLayout c)
    | parameters => if within '@' '~' then (outside, false) else (parameters, isLayout c)
    | device =>
      if within '@' '~' then (body, false)
      else if within '0' '?' then (deviceParameters, false)
      else if within ' ' '/' then (deviceMore, false)
      else (device, false)
    | deviceParameters =>
      if within '<' '~' then (body, false)
      else if within ' ' '/' then (deviceMore, false)
      else (deviceParameters, false)
    | deviceMore => if within '0' '~' then (body, false) else (deviceMore, false)
    | body => (if (encode (String.ofList [c])).contains 0x9c then outside else body, false)
    | command => (if c == '\x07' then outside else command, false)

end ControlState

/-- What is shown of characters, from a state on. When `showing`, characters are taken as if outside
of sequences until one is left out. -/
def shownFrom : (showing : Bool) → ControlState → List Char → List Char
  | _, _, [] => []
  | true, s, c :: cs =>
    if isShown c then c :: shownFrom true (if c.toNat < 0x80 then s else .outside) cs
    else shownFrom false (s.take c).1 cs
  | false, s, c :: cs =>
    let (next, isVisible) := s.take c
    if isVisible then c :: shownFrom true next cs else shownFrom false next cs

/-- What is shown of a text without its control sequences. -/
def withoutControls (s : String) : String := String.ofList (shownFrom false .outside s.toList)

end Iocost.Text
