import Iocost.Toml.Scalar

/-!
Documents of TOML, as far as settings need them: keys of one part, whose values are booleans,
strings or arrays of strings. Other documents are not read, since no setting has another value.
-/

namespace Iocost.Toml

/-- A value. -/
inductive Value where
  | boolean (value : Bool)
  | string (value : String)
  | strings (values : List String)
deriving DecidableEq

/-- The text behind a comment at its start, if there is one. -/
def dropComment : List Char → List Char
  | '#' :: cs => cs.dropWhile isText
  | cs => cs

/-- The text from the next thing in an array: blanks, line ends and comments are left out. Each
round takes at least one character, so `fuel` need not exceed the length of the text. -/
def skipInArray : (fuel : Nat) → List Char → List Char
  | 0, cs => cs
  | fuel + 1, cs =>
    match dropComment (cs.dropWhile isSpace) with
    | '\n' :: rest => skipInArray fuel rest
    | '\r' :: '\n' :: rest => skipInArray fuel rest
    | rest => rest

/-- The strings of an array behind its opening bracket or a comma. The last one may have a comma
behind it. -/
def readStrings : (fuel : Nat) → List Char → Option (List String × List Char)
  | 0, _ => none
  | fuel + 1, cs =>
    match skipInArray cs.length cs with
    | ']' :: rest => some ([], rest)
    | cs => do
      let (value, rest) ← readString cs
      let value := String.ofList value
      match skipInArray rest.length rest with
      | ']' :: rest => some ([value], rest)
      | ',' :: rest =>
        let (values, rest) ← readStrings fuel rest
        some (value :: values, rest)
      | _ => none

def readValue (cs : List Char) : Option (Value × List Char) :=
  match cs with
  | '[' :: rest => (readStrings cs.length rest).map fun (values, rest) => (.strings values, rest)
  | 't' :: 'r' :: 'u' :: 'e' :: rest => some (.boolean true, rest)
  | 'f' :: 'a' :: 'l' :: 's' :: 'e' :: rest => some (.boolean false, rest)
  | _ => (readString cs).map fun (value, rest) => (.string (String.ofList value), rest)

def readEntry (cs : List Char) : Option ((String × Value) × List Char) := do
  let (key, rest) ← readKey cs
  match rest.dropWhile isSpace with
  | '=' :: rest =>
    let (value, rest) ← readValue (rest.dropWhile isSpace)
    some ((String.ofList key, value), rest)
  | _ => none

/-- The keys and values from the start of a line on. Each line takes at least one character, so
`fuel` need not exceed the length of the text. -/
def readLines : (fuel : Nat) → List Char → Option (List (String × Value))
  | 0, _ => none
  | fuel + 1, cs => do
    let cs := cs.dropWhile isSpace
    let isEntry :=
      match cs with
      | [] | '#' :: _ | '\n' :: _ | '\r' :: _ => false
      | _ => true
    let (entries, rest) ←
      if isEntry then (readEntry cs).map fun (entry, rest) => ([entry], rest)
      else some ([], cs)
    match dropComment (rest.dropWhile isSpace) with
    | [] => some entries
    | rest =>
      let below ← afterLineEnd? rest
      let more ← readLines fuel below
      some (entries ++ more)

/-- The keys and values of a document, in order. A byte order mark may come first, and no key may
come twice. -/
def read? (text : List Char) : Option (List (String × Value)) := do
  let text :=
    match text with
    | '\ufeff' :: rest => rest
    | _ => text
  let entries ← readLines (text.length + 1) text
  guard (entries.map Prod.fst).Nodup
  some entries

end Iocost.Toml
