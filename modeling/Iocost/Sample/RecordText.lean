import Iocost.Sample.Record

/-!
How records are written: each one as an object on a line of its own, in pieces. A line holds
printable ASCII only. A quote, a backslash and the control characters have escapes; of the fragments
between them, any character that is not printable ASCII is written as its UTF-16 units.
-/

namespace Iocost.Record

/-- A number below `2 ^ 16` as an escape with four hexadecimal digits. -/
def unitEscape (n : Nat) : List Char :=
  let digits := Nat.toDigits 16 n
  '\\' :: 'u' :: (List.replicate (4 - digits.length) '0' ++ digits)

def utf16Units (c : Char) : List Nat :=
  let n := c.toNat
  if n < 0x10000 then [n] else [0xd800 + (n - 0x10000) / 0x400, 0xdc00 + (n - 0x10000) % 0x400]

/-- The character is printable ASCII. -/
def isPlain (c : Char) : Bool := decide (' ' ≤ c) && decide (c ≤ '~')

/-- The pieces in which a fragment is written from a character on. What lies between two characters
that are not plain is cut out of the fragment at its offsets in bytes: `start` is the offset of what
has not been written, `offset` that of the next character. -/
def fragmentPiecesFrom (fragment : String) (start offset : Nat) : List Char → List String
  | [] => [String.Pos.Raw.extract fragment ⟨start⟩ fragment.rawEndPos]
  | c :: cs =>
    let next := offset + c.utf8Size
    if isPlain c then fragmentPiecesFrom fragment start next cs
    else
      String.Pos.Raw.extract fragment ⟨start⟩ ⟨offset⟩ ::
        ((utf16Units c).map fun unit => String.ofList (unitEscape unit)) ++
        fragmentPiecesFrom fragment next next cs

def fragmentPieces (fragment : String) : List String :=
  fragmentPiecesFrom fragment 0 0 fragment.toList

/-- How a character is escaped that does not stand in a fragment. -/
def escape? (c : Char) : Option (List Char) :=
  if c = '"' ∨ c = '\\' then some ['\\', c]
  else if c = '\x08' then some ['\\', 'b']
  else if c = '\x0c' then some ['\\', 'f']
  else if c = '\n' then some ['\\', 'n']
  else if c = '\r' then some ['\\', 'r']
  else if c = '\t' then some ['\\', 't']
  else if c < ' ' then some (unitEscape c.toNat)
  else none

/-- The pieces of a text behind `fragment`, the characters since the last escape. -/
def contentPieces (fragment : List Char) : List Char → List String
  | [] => if fragment.isEmpty then [] else fragmentPieces (String.ofList fragment)
  | c :: cs =>
    match escape? c with
    | none => contentPieces (fragment ++ [c]) cs
    | some escape =>
      (if fragment.isEmpty then [] else fragmentPieces (String.ofList fragment)) ++
        String.ofList escape :: contentPieces [] cs

def quotedPieces (s : String) : List String := "\"" :: contentPieces [] s.toList ++ ["\""]

/-- The pieces of keys with their values, a comma before each but the first of all. -/
def fieldPieces (isFirst : Bool) : List (String × String) → List String
  | [] => []
  | (key, value) :: fields =>
    (if isFirst then [] else [", "]) ++ quotedPieces key ++ ": " :: quotedPieces value ++
      fieldPieces false fields

def objectPieces (r : Record) : List String :=
  "\x7b" :: fieldPieces true r.fields ++ ["\x7d"]

/-- The pieces in which the record is written, with its end of line. -/
def pieces (r : Record) : List String := r.objectPieces ++ ["\n"]

/-- The line of the record, without its end. -/
def line (r : Record) : List Char := (String.join r.objectPieces).toList

end Iocost.Record
