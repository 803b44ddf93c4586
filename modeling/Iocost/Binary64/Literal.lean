import Iocost.Binary64.Decimal

/-!
Reading binary64 numbers: a sign, then digits with an optional point and an optional exponent, or
one of the words for an infinity or for a value that is not a number.
-/

namespace Iocost.Binary64

/-- Why a text is no number. -/
inductive LiteralError where
  | empty
  | malformed
deriving DecidableEq

def LiteralError.message : LiteralError → String
  | .empty => "cannot parse float from empty string"
  | .malformed => "invalid float literal"

/-- A text split behind a leading sign; the flag tells a minus sign. -/
def splitSign : List Char → Bool × List Char
  | '-' :: cs => (true, cs)
  | '+' :: cs => (false, cs)
  | cs => (false, cs)

/-- A decimal exponent: nothing, or the letter `e` with an integer. -/
def readExponent? : List Char → Option Int
  | [] => some 0
  | c :: cs =>
    if c = 'e' ∨ c = 'E' then
      let (negative, digits) := splitSign cs
      if digits ≠ [] ∧ digits.all Char.isDigit then
        let n : Int := Nat.ofDigitChars 10 digits 0
        some (if negative then -n else n)
      else
        none
    else
      none

/-- Digits with an optional point, at least one digit in all, and an optional exponent. -/
def readDecimal? (cs : List Char) : Option Decimal :=
  let whole := cs.takeWhile Char.isDigit
  let rest := cs.dropWhile Char.isDigit
  let (part, rest) :=
    match rest with
    | '.' :: rest => (rest.takeWhile Char.isDigit, rest.dropWhile Char.isDigit)
    | _ => ([], rest)
  if whole = [] ∧ part = [] then none
  else (readExponent? rest).map fun e => ⟨Nat.ofDigitChars 10 (whole ++ part) 0, e - part.length⟩

/-- A number without its sign. The words are read in any case. -/
def readUnsigned? (negative : Bool) (cs : List Char) : Option Binary64 :=
  let word := String.ofList (cs.map Char.toLower)
  if word = "inf" ∨ word = "infinity" then some (.infinite negative)
  else if word = "nan" then some .nan
  else (readDecimal? cs).map (ofDecimal negative)

def read (s : String) : Except LiteralError Binary64 :=
  match s.toList with
  | [] => .error .empty
  | cs =>
    let (negative, rest) := splitSign cs
    match readUnsigned? negative rest with
    | some v => .ok v
    | none => .error .malformed

end Iocost.Binary64
