import Iocost.Text.Blank

/-!
Reading integers: an optional sign and ASCII digits, nothing else, denoting a number that 64 bits
can hold.
-/

namespace Iocost.Text

/-- One or more decimal digits. -/
def readDigits? (cs : List Char) : Option Nat :=
  if cs ≠ [] ∧ cs.all Char.isDigit then some (Nat.ofDigitChars 10 cs 0) else none

/-- How many numbers 64 bits tell apart: `2 ^ 64`. -/
def wordCount : Nat := 18446744073709551616

/-- The number of negative integers of 64 bits with a sign: `2 ^ 63`. -/
def negativeCount : Nat := 9223372036854775808

/-- A natural number below `2 ^ 64`, with an optional plus sign. -/
def readUnsigned? (cs : List Char) : Option UInt64 :=
  let digits :=
    match cs with
    | '+' :: rest => rest
    | _ => cs
  (readDigits? digits).bind fun n => if n < wordCount then some (UInt64.ofNat n) else none

/-- An integer from `-2 ^ 63` up to `2 ^ 63 - 1`, with an optional sign. -/
def readSigned? (cs : List Char) : Option Int64 :=
  match cs with
  | '-' :: rest =>
    (readDigits? rest).bind fun n => if n ≤ negativeCount then some (Int64.ofInt (-n)) else none
  | '+' :: rest =>
    (readDigits? rest).bind fun n => if n < negativeCount then some (Int64.ofInt n) else none
  | _ => (readDigits? cs).bind fun n => if n < negativeCount then some (Int64.ofInt n) else none

/-- The natural number that a text consists of, apart from ASCII blanks at its end. -/
def readSingle? (cs : List Char) : Option UInt64 := readUnsigned? (dropEnd isAsciiBlank cs)

end Iocost.Text
