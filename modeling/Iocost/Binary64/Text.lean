import Iocost.Binary64.Decimal

/-!
Texts of numbers: a decimal with its point in place, a decimal with an exponent, and a binary64
number with a given count of places behind the point.
-/

namespace Iocost

namespace Decimal

/-- The digits without trailing zeros, the first one kept. -/
def significant (d : Decimal) : List Char :=
  match Nat.toDigits 10 d.digits with
  | [] => []
  | c :: cs => c :: (cs.reverse.dropWhile (· == '0')).reverse

/-- The decimal with its point in place and at least one digit on either side. -/
def positional (d : Decimal) : List Char :=
  let cs := d.significant
  match d.order with
  | .negSucc k => '0' :: '.' :: (List.replicate (k + 1) '0' ++ cs)
  | .ofNat 0 => '0' :: '.' :: cs
  | .ofNat k =>
    if k < cs.length then cs.take k ++ '.' :: cs.drop k
    else cs ++ List.replicate (k - cs.length) '0' ++ ['.', '0']

/-- An exponent with its sign and at least two digits. -/
def exponentText (e : Int) : List Char :=
  let digits := Nat.toDigits 10 e.natAbs
  (if e < 0 then '-' else '+') :: (List.replicate (2 - digits.length) '0' ++ digits)

/-- The decimal as one digit, the other digits behind a point, and an exponent. -/
def scientific (d : Decimal) : List Char :=
  match d.significant with
  | [] => []
  | [c] => c :: 'e' :: exponentText (d.order - 1)
  | c :: cs => c :: '.' :: (cs ++ 'e' :: exponentText (d.order - 1))

end Decimal

namespace Binary64

def signText (negative : Bool) : List Char := if negative then ['-'] else []

/-- A natural number of units of `10 ^ -places`, with a point before the last `places` digits. -/
def pointText (places n : Nat) : List Char :=
  let digits := Nat.toDigits 10 n
  let padded := List.replicate (places + 1 - digits.length) '0' ++ digits
  padded.take (padded.length - places) ++ '.' :: padded.drop (padded.length - places)

/-- The number with `places` digits behind the point, rounded to the nearest such decimal, a half
going to the even digit. -/
def fixed (places : Nat) : Binary64 → List Char
  | .nan => ['N', 'a', 'N']
  | .infinite negative => signText negative ++ ['i', 'n', 'f']
  | .finite negative m =>
    signText negative ++ pointText places (divEven (m.units * Nat.pow 10 places) Magnitude.one)

end Binary64

end Iocost
