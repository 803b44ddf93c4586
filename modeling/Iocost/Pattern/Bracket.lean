import Iocost.Pattern.Escape

/-!
Classes in brackets. A class is a union of items, and `&&`, `--` and `~~` join unions from left to
right. Classes nest: the reader keeps the open classes around the one it is in.
-/

namespace Iocost.Pattern

/-- How two unions of a class are joined. -/
inductive ClassOp where
  | inter
  | diff
  | symmDiff
deriving DecidableEq

/-- A set, with the depth to which its text nests. -/
structure NestedSet where
  set : CharClass
  depth : Nat

/-- A class that is being read. -/
structure OpenClass where
  negated : Bool
  /-- The items of the union that is being read, the latest first. -/
  items : List NestedSet
  /-- What the union is to be joined with. -/
  left : Option (NestedSet × ClassOp)

namespace OpenClass

/-- Adds an item to the union that is being read. -/
def push (o : OpenClass) (item : NestedSet) : OpenClass := { o with items := item :: o.items }

def union (o : OpenClass) : NestedSet :=
  match o.items with
  | [] => ⟨.none, 0⟩
  | [item] => item
  | items =>
    { set := items.foldl (fun set item => .union item.set set) .none
      depth := items.foldl (fun depth item => max depth item.depth) 0 + 1 }

/-- All that has been read, joined. -/
def joined (f : Flags) (o : OpenClass) : NestedSet :=
  match o.left with
  | none => o.union
  | some (left, op) =>
    let right := o.union
    let a := f.fold left.set
    let b := f.fold right.set
    { set :=
        match op with
        | .inter => .inter a b
        | .diff => .diff a b
        | .symmDiff => .symmDiff a b
      depth := max left.depth right.depth + 1 }

/-- Goes on with another union, to be joined with what has been read. -/
def join (f : Flags) (o : OpenClass) (op : ClassOp) : OpenClass :=
  { o with items := [], left := some (o.joined f, op) }

def close (f : Flags) (o : OpenClass) : Option NestedSet :=
  let body := o.joined f
  (f.finish o.negated body.set).map fun set => ⟨set, body.depth + 1⟩

end OpenClass

/-- The start of a class after its bracket: a caret that negates it, hyphens, and a closing bracket
that stands for itself. -/
def openClass (f : Flags) (cs : List Char) : OpenClass × List Char :=
  let (negated, cs) :=
    match f.skip cs with
    | '^' :: rest => (true, rest)
    | cs => (false, cs)
  let (hyphens, cs) := f.span (· == '-') false cs
  let item (c : Char) : NestedSet := ⟨.single c, 0⟩
  match hyphens, cs with
  | [], ']' :: rest => (⟨negated, [item ']'], none⟩, rest)
  | _, _ => (⟨negated, hyphens.map item, none⟩, cs)

/-- The set of a literal in a class. Without Unicode a class is made of ASCII characters. -/
def classLiteral? (f : Flags) (c : Char) : Option CharClass :=
  if !f.unicode && decide (0x80 ≤ c.toNat) then none else some (.single c)

def readClassItem (f : Flags) : List Char → Option (Primitive × List Char)
  | [] => none
  | '\\' :: cs => readEscape f cs
  | c :: cs => some (.literal c false, cs)

/-- An item of a class, or two literals with a hyphen between them. A hyphen before a closing
bracket or another hyphen stands for itself. -/
def readClassRange (f : Flags) (cs : List Char) : Option (CharClass × List Char) := do
  let (first, rest) ← readClassItem f cs
  let alone : Option (CharClass × List Char) :=
    match first with
    | .literal c _ => (classLiteral? f c).map fun set => (set, f.skip rest)
    | .set set => some (set, f.skip rest)
    | .look _ => none
  match f.skip rest with
  | '-' :: after =>
    if f.peek after == some ']' || f.peek after == some '-' then alone
    else
      let (last, rest) ← readClassItem f (f.skip after)
      match first, last with
      | .literal low _, .literal high _ =>
        let _ ← classLiteral? f low
        let _ ← classLiteral? f high
        guard (low ≤ high)
        some (.range low high, rest)
      | _, _ => none
  | _ => alone

/-- A named set of ASCII characters after its opening bracket, as in `[:alpha:]` and `[:^alpha:]`:
whether it is negated, the set, and the text that follows. -/
def readNamedClass (cs : List Char) : Option (Bool × CharClass × List Char) :=
  match cs with
  | ':' :: cs =>
    let (negated, cs) :=
      match cs with
      | '^' :: rest => (true, rest)
      | _ => (false, cs)
    match cs.dropWhile (· != ':') with
    | ':' :: ']' :: rest =>
      (CharClass.named? (String.ofList (cs.takeWhile (· != ':')))).map fun set =>
        (negated, set, rest)
    | _ => none
  | _ => none

/-- Reads on in a class, with the classes around it, until the outermost one is closed. Each step
takes at least one character, so `fuel` need not exceed the length of the text. -/
def readOpenClass (f : Flags) :
    (fuel : Nat) → List OpenClass → OpenClass → List Char → Option (NestedSet × List Char)
  | 0, _, _, _ => none
  | fuel + 1, outer, o, cs =>
    match f.skip cs with
    | [] => none
    | '[' :: rest =>
      match readNamedClass rest with
      | some (negated, set, rest) =>
        (f.finish negated set).bind fun set => readOpenClass f fuel outer (o.push ⟨set, 0⟩) rest
      | none =>
        let (inner, rest) := openClass f rest
        readOpenClass f fuel (o :: outer) inner rest
    | ']' :: rest =>
      (o.close f).bind fun closed =>
        match outer with
        | [] => some (closed, rest)
        | o :: outer => readOpenClass f fuel outer (o.push closed) rest
    | '&' :: '&' :: rest => readOpenClass f fuel outer (o.join f .inter) rest
    | '-' :: '-' :: rest => readOpenClass f fuel outer (o.join f .diff) rest
    | '~' :: '~' :: rest => readOpenClass f fuel outer (o.join f .symmDiff) rest
    | cs =>
      (readClassRange f cs).bind fun (set, rest) =>
        readOpenClass f fuel outer (o.push ⟨set, 0⟩) rest

/-- The class whose opening bracket stands before `cs`, and the text that follows. -/
def readClass (f : Flags) (cs : List Char) : Option (NestedSet × List Char) :=
  let (o, rest) := openClass f cs
  readOpenClass f (cs.length + 1) [] o rest

end Iocost.Pattern
