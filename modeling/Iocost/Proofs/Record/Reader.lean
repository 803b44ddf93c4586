import Iocost.Sample.RecordText
import Iocost.Text.Utf8

/-!
# Reading a record

A line is read as an object whose values are texts, with blanks between its tokens: first its
characters into tokens, by a machine with the escapes of texts and the surrogate pairs of UTF-16,
then the tokens into fields, in order.
-/

namespace Iocost.Record

/-- The parts of an object. -/
inductive Token where
  | opening
  | closing
  | colon
  | comma
  | text (s : String)
deriving DecidableEq

/-- Where a reader of characters stands. Inside a text it keeps the UTF-16 units read so far. -/
inductive Reading where
  | between
  | inside (units : List Nat)
  /-- Behind a backslash. -/
  | escaped (units : List Nat)
  /-- In the digits of an escape, with their value so far and how many follow the next one. -/
  | digits (units : List Nat) (value left : Nat)
deriving DecidableEq

/-- The value of a hexadecimal digit. -/
def hexDigit? (c : Char) : Option Nat :=
  if '0' ≤ c ∧ c ≤ '9' then some (c.toNat - 48)
  else if 'a' ≤ c ∧ c ≤ 'f' then some (c.toNat - 87)
  else if 'A' ≤ c ∧ c ≤ 'F' then some (c.toNat - 55)
  else none

theorem hexDigit?_digitChar {d : Nat} (h : d < 16) : hexDigit? d.digitChar = some d := by
  have all : ∀ d < 16, hexDigit? d.digitChar = some d := by decide
  exact all d h

/-- The character that a letter stands for behind a backslash. -/
def unescape? : Char → Option Char
  | '"' => some '"'
  | '\\' => some '\\'
  | '/' => some '/'
  | 'b' => some '\x08'
  | 'f' => some '\x0c'
  | 'n' => some '\n'
  | 'r' => some '\r'
  | 't' => some '\t'
  | _ => none

/-- The characters with these UTF-16 units, if each surrogate has its pair. -/
def joinUnits : List Nat → Option (List Char)
  | [] => some []
  | high :: rest =>
    if 0xd800 ≤ high ∧ high < 0xdc00 then
      match rest with
      | [] => none
      | low :: rest =>
        if 0xdc00 ≤ low ∧ low < 0xe000 then
          (joinUnits rest).map fun cs =>
            Char.ofNat (0x10000 + (high - 0xd800) * 0x400 + (low - 0xdc00)) :: cs
        else
          none
    else if 0xdc00 ≤ high ∧ high < 0xe000 then none
    else (joinUnits rest).map fun cs => Char.ofNat high :: cs

/-- Reads a character between two tokens. -/
def readBetween (c : Char) : Option (Reading × List Token) :=
  if c = ' ' ∨ c = '\t' ∨ c = '\n' ∨ c = '\r' then some (.between, [])
  else if c = '\x7b' then some (.between, [.opening])
  else if c = '\x7d' then some (.between, [.closing])
  else if c = ':' then some (.between, [.colon])
  else if c = ',' then some (.between, [.comma])
  else if c = '"' then some (.inside [], [])
  else none

/-- Reads a character, which may end a token. -/
def readChar : Reading → Char → Option (Reading × List Token)
  | .between, c => readBetween c
  | .inside units, c =>
    if c = '"' then (joinUnits units).map fun cs => (.between, [.text (String.ofList cs)])
    else if c = '\\' then some (.escaped units, [])
    else if c < ' ' then none
    else some (.inside (units ++ utf16Units c), [])
  | .escaped units, c =>
    if c = 'u' then some (.digits units 0 3, [])
    else (unescape? c).map fun c => (.inside (units ++ [c.toNat]), [])
  | .digits units value left, c =>
    (hexDigit? c).map fun digit =>
      match left with
      | 0 => (.inside (units ++ [16 * value + digit]), [])
      | left + 1 => (.digits units (16 * value + digit) left, [])

/-- Reads characters one after the other. -/
def readChars : Reading → List Char → Option (Reading × List Token)
  | reading, [] => some (reading, [])
  | reading, c :: cs => do
    let (reading, tokens) ← readChar reading c
    let (reading, more) ← readChars reading cs
    return (reading, tokens ++ more)

/-- The fields in the tokens behind an opening. -/
def fieldsOf? : List Token → Option (List (String × String))
  | [.text key, .colon, .text value, .closing] => some [(key, value)]
  | .text key :: .colon :: .text value :: .comma :: rest =>
    (fieldsOf? rest).map fun fields => (key, value) :: fields
  | _ => none

/-- The record that tokens write. -/
def ofTokens? : List Token → Option Record
  | [.opening, .closing] => some ⟨[]⟩
  | .opening :: rest => (fieldsOf? rest).map Record.mk
  | _ => none

/-- The record that a line writes. -/
def ofLine? (line : List Char) : Option Record :=
  match readChars .between line with
  | some (.between, tokens) => ofTokens? tokens
  | _ => none

/-- The record in a line given as bytes. -/
def ofBytes? (bytes : List UInt8) : Option Record :=
  (Text.decode? bytes).bind fun s => ofLine? s.toList

end Iocost.Record
