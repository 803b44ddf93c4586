import Iocost.Pattern.Flags

/-!
Escapes: what a backslash and the characters after it stand for.
-/

namespace Iocost.Pattern

/-- The smallest things that the text of a pattern is made of. -/
inductive Primitive where
  /-- A character as such; `byte` if it was written as two hexadecimal digits. -/
  | literal (c : Char) (byte : Bool)
  | set (members : CharClass)
  | look (condition : Look)
deriving DecidableEq

/-- The set of a literal. Without Unicode, two hexadecimal digits name a byte, and one beyond ASCII
is part of no text. -/
def literalSet? (f : Flags) (c : Char) (byte : Bool) : Option CharClass :=
  if !f.unicode && byte && decide (0x80 ≤ c.toNat) then none else some (.single c)

/-- The pattern of a primitive outside of classes. -/
def Primitive.toPattern? (f : Flags) : Primitive → Option Pattern
  | literal c byte => (literalSet? f c byte).map fun set => .one (f.fold set)
  | set members => some (.one members)
  | look condition => some (.look condition)

/-- The characters that have a meaning in patterns, and so may always be escaped. -/
def isMeta (c : Char) : Bool := "\\.+*?()|[]\x7b\x7d^$#&-~".toList.contains c

/-- The character may be escaped to stand for itself: any of ASCII but letters, digits and the
signs of the edges of words. -/
def isEscapable (c : Char) : Bool :=
  isMeta c || (decide (c.toNat < 0x80) && !c.isAlphanum && c != '<' && c != '>')

def hexValue (c : Char) : Option Nat :=
  if c.isDigit then some (c.toNat - '0'.toNat)
  else if 'a' ≤ c ∧ c ≤ 'f' then some (c.toNat - 'a'.toNat + 10)
  else if 'A' ≤ c ∧ c ≤ 'F' then some (c.toNat - 'A'.toNat + 10)
  else none

/-- The character with the number that hexadecimal digits write. -/
def charOfHex? (digits : List Char) : Option Char :=
  let n := digits.foldl (fun n c => 16 * n + (hexValue c).getD 0) 0
  if h : n.isValidChar then some (Char.ofNatAux n h) else none

def readHexDigits (f : Flags) : Nat → List Char → Option (List Char × List Char)
  | 0, cs => some ([], cs)
  | n + 1, cs =>
    match f.skip cs with
    | [] => none
    | c :: rest =>
      if (hexValue c).isSome then
        (readHexDigits f n rest).map fun (digits, rest) => (c :: digits, rest)
      else
        none

/-- A character by its number: `width` hexadecimal digits, or any number of them in braces. -/
def readHex (f : Flags) (width : Nat) (cs : List Char) : Option (Primitive × List Char) :=
  match f.skip cs with
  | '\x7b' :: rest =>
    match f.span (fun c => (hexValue c).isSome) false rest with
    | ([], _) => none
    | (digits, '\x7d' :: rest) => (charOfHex? digits).map fun c => (.literal c false, rest)
    | _ => none
  | cs => do
    let (digits, rest) ← readHexDigits f width cs
    let c ← charOfHex? digits
    some (.literal c (width == 2), rest)

def Edge.named? : String → Option Edge
  | "start" => some .start
  | "end" => some .finish
  | "start-half" => some .startHalf
  | "end-half" => some .finishHalf
  | _ => none

/-- The edge after `\b`: a name in braces, or any edge. Braces with something else in them are left
for a repetition. -/
def readEdge (f : Flags) (cs : List Char) : Option (Edge × List Char) :=
  match cs with
  | '\x7b' :: inside =>
    let inName (c : Char) : Bool := c.isAlpha || c == '-'
    match f.skip inside with
    | [] => none
    | c :: rest =>
      if inName c then
        match f.span inName false (c :: rest) with
        | (name, '\x7d' :: rest) => (Edge.named? (String.ofList name)).map fun edge => (edge, rest)
        | _ => none
      else
        some (.boundary, cs)
  | _ => some (.boundary, cs)

/-- The set of one of six Unicode properties by its name, in which case, blanks, hyphens and low
lines do not count. No other property is known: a pattern that names a script, or a general category
other than numbers and decimal digits, is refused. -/
def propertyNamed? (name : List Char) : Option CharClass :=
  let name := (name.filter fun c => !(c == ' ' || c == '-' || c == '_')).map Char.toLower
  match String.ofList name with
  | "any" => some .any
  | "ascii" => some (.range '\x00' '\x7f')
  | "alphabetic" | "alpha" => some .alphabetic
  | "whitespace" | "wspace" | "space" => some .blank
  | "nd" | "digit" | "decimalnumber" => some .digit
  | "n" | "number" => some .numeric
  | _ => none

/-- The set of a Unicode property: a name of one letter, or a longer one in braces. -/
def readProperty (f : Flags) (negated : Bool) (cs : List Char) :
    Option (Primitive × List Char) := do
  guard f.unicode
  let (name, rest) ←
    match f.skip cs with
    | [] => none
    | '\x7b' :: rest =>
      match f.span (· != '\x7d') false rest with
      | (name, '\x7d' :: rest) => some (name, rest)
      | _ => none
    | '\\' :: _ => none
    | c :: rest => some ([c], rest)
  let set ← propertyNamed? name
  some (.set (← f.finish negated set), rest)

/-- What a backslash before `cs` stands for, and the text that follows. -/
def readEscape (f : Flags) : List Char → Option (Primitive × List Char)
  | [] => none
  | c :: cs =>
    if isEscapable c then some (.literal c false, cs)
    else
      match c with
      | 'x' => readHex f 2 cs
      | 'u' => readHex f 4 cs
      | 'U' => readHex f 8 cs
      | 'p' => readProperty f false cs
      | 'P' => readProperty f true cs
      | 'd' | 's' | 'w' => (f.letterClass? c).map fun set => (.set set, cs)
      | 'D' | 'S' | 'W' => do
        guard f.unicode
        let set ← f.letterClass? c.toLower
        some (.set (.compl set), cs)
      | 'a' => some (.literal '\x07' false, cs)
      | 'f' => some (.literal '\x0c' false, cs)
      | 't' => some (.literal '\t' false, cs)
      | 'n' => some (.literal '\n' false, cs)
      | 'r' => some (.literal '\r' false, cs)
      | 'v' => some (.literal '\x0b' false, cs)
      | 'A' => some (.look .textStart, cs)
      | 'z' => some (.look .textEnd, cs)
      | 'b' => (readEdge f cs).map fun (edge, rest) => (.look (.edge edge f.wordClass), rest)
      | 'B' => some (.look (.edge .noBoundary f.wordClass), cs)
      | '<' => some (.look (.edge .start f.wordClass), cs)
      | '>' => some (.look (.edge .finish f.wordClass), cs)
      | _ => none

end Iocost.Pattern
