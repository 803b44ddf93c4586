import Iocost.Binary64.Basic

/-!
Decimal numbers and the binary64 numbers nearest to them. The shortest decimal of a number is, of
the decimals with the fewest digits that have the number as their nearest one, the closest; of two
that are equally close it is the larger one.
-/

namespace Iocost

/-- The decimal number `digits * 10 ^ exponent`. -/
structure Decimal where
  digits : Nat
  exponent : Int
deriving DecidableEq

namespace Decimal

def quotient (d : Decimal) : Nat × Nat :=
  match d.exponent with
  | .ofNat k => (d.digits * Nat.pow 10 k, 1)
  | .negSucc k => (d.digits, Nat.pow 10 (k + 1))

/-- How many places the first digit is before the point; not positive when it is behind it. -/
def order (d : Decimal) : Int := (Nat.toDigits 10 d.digits).length + d.exponent

/-- Decimals of a greater order are beyond the finite numbers, those of an order below the negated
one are nearer to zero than to any other number. -/
def orderBound : Int := 400

end Decimal

namespace Binary64

/-- The number nearest to a decimal, with a sign. -/
def ofDecimal (negative : Bool) (d : Decimal) : Binary64 :=
  if d.digits = 0 then .finite negative .zero
  else if Decimal.orderBound < d.order then .infinite negative
  else if d.order < -Decimal.orderBound then .finite negative .zero
  else ofUnits negative (d.quotient.1 * Magnitude.one) d.quotient.2

end Binary64

namespace Magnitude

/-- The exponent of the first decimal digit of a magnitude that is not zero. -/
def leadingExponent (m : Magnitude) : Int :=
  (Nat.toDigits 10 (m.units * Nat.pow 10 400 / one)).length - 401

/-- The magnitude divided by `10 ^ p`, as a quotient of natural numbers. -/
def scaled (m : Magnitude) (p : Int) : Nat × Nat :=
  match p with
  | .ofNat k => (m.units, one * Nat.pow 10 k)
  | .negSucc k => (m.units * Nat.pow 10 (k + 1), one)

/-- The magnitude is the nearest one to the decimal. -/
def ReadsBack (m : Magnitude) (d : Decimal) : Prop :=
  Binary64.ofDecimal false d = .finite false m

instance (m : Magnitude) (d : Decimal) : Decidable (m.ReadsBack d) :=
  inferInstanceAs (Decidable (_ = _))

/-- The closer of the two neighbours of the magnitude among the multiples of `10 ^ p` that read
back, the larger one on a tie. -/
def onGrid? (m : Magnitude) (p : Int) : Option Decimal :=
  let (n, d) := m.scaled p
  let below : Decimal := ⟨n / d, p⟩
  let above : Decimal := ⟨n / d + 1, p⟩
  if m.ReadsBack below then
    if m.ReadsBack above ∧ d ≤ 2 * (n % d) then some above else some below
  else if m.ReadsBack above then some above
  else none

/-- All digits of the magnitude. -/
def exactDecimal (m : Magnitude) : Decimal := ⟨m.units * Nat.pow 5 1074, -1074⟩

/-- The shortest decimal of a magnitude that is not zero. Seventeen digits suffice; the exact
decimal stands behind them, so that the result reads back in any case. -/
def shortest (m : Magnitude) : Decimal :=
  ((List.range 17).findSome? fun (k : Nat) => m.onGrid? (m.leadingExponent - k)).getD m.exactDecimal

end Magnitude

end Iocost
