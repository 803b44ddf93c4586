/-!
Magnitudes of finite binary64 numbers. Every finite binary64 number is an integer multiple of
`2 ^ -1074`, so a magnitude is a natural number of such units. A natural number of units is a
magnitude when it has at most 53 significant bits and lies below `2 ^ 2098` units.

Rounding takes the nearest magnitude to a quotient, a half going to the even significand.
`granularity_dvd_roundUnits` says that a rounded quotient has at most 53 significant bits.
-/

namespace Iocost

/-- The natural number nearest to `n / d`, a half going to the even neighbour. -/
def divEven (n d : Nat) : Nat :=
  if 2 * (n % d) < d then n / d
  else if d < 2 * (n % d) then n / d + 1
  else n / d + n / d % 2

theorem divEven_le (n d : Nat) : divEven n d ≤ n / d + 1 := by
  unfold divEven
  split
  · omega
  · split <;> omega

namespace Magnitude

/-- Units in the number one. -/
def one : Nat := Nat.pow 2 1074

/-- The first power of two that is beyond every finite number, in units. -/
def limit : Nat := Nat.pow 2 2098

/-- The spacing of the numbers with 53 significant bits around `n` units. -/
def granularity (n : Nat) : Nat := Nat.pow 2 (n.log2 - 52)

/-- The number of units with at most 53 significant bits that is nearest to `n / d`. -/
def roundUnits (n d : Nat) : Nat :=
  divEven n (d * granularity (n / d)) * granularity (n / d)

/-- The first number that has more than 53 significant bits, but for the last of them. -/
def significandLimit : Nat := Nat.pow 2 53

/-- A product of at most `significandLimit` by a power of two has at most 53 significant bits. -/
theorem granularity_dvd_mul {r : Nat} (k : Nat) (h : r ≤ significandLimit) :
    granularity (r * Nat.pow 2 k) ∣ r * Nat.pow 2 k := by
  unfold granularity
  unfold significandLimit at h
  simp only [Nat.pow_eq] at h ⊢
  rcases Nat.eq_zero_or_pos r with rfl | hr
  · simp
  rcases Nat.lt_or_eq_of_le h with hlt | rfl
  · have hne : r * 2 ^ k ≠ 0 := Nat.ne_of_gt (Nat.mul_pos hr (Nat.two_pow_pos k))
    have hbound : r * 2 ^ k < 2 ^ (53 + k) := by
      rw [Nat.pow_add]
      exact Nat.mul_lt_mul_of_pos_right hlt (Nat.two_pow_pos k)
    have hlog : (r * 2 ^ k).log2 < 53 + k := (Nat.log2_lt hne).2 hbound
    exact Nat.dvd_trans (Nat.pow_dvd_pow 2 (by omega)) (Nat.dvd_mul_left _ _)
  · rw [← Nat.pow_add, Nat.log2_two_pow]
    exact Nat.pow_dvd_pow 2 (by omega)

theorem div_granularity_lt (n d : Nat) :
    n / (d * granularity (n / d)) < significandLimit := by
  have hpos : 0 < granularity (n / d) := Nat.two_pow_pos _
  rw [← Nat.div_div_eq_div_mul, Nat.div_lt_iff_lt_mul hpos]
  have h := Nat.lt_log2_self (n := n / d)
  refine Nat.lt_of_lt_of_le h ?_
  rw [granularity, significandLimit, Nat.pow_eq, Nat.pow_eq, ← Nat.pow_add]
  exact Nat.pow_le_pow_right (by decide) (by omega)

theorem granularity_dvd_roundUnits (n d : Nat) : granularity (roundUnits n d) ∣ roundUnits n d :=
  granularity_dvd_mul _ <|
    Nat.le_trans (divEven_le _ _) (Nat.succ_le_of_lt (div_granularity_lt n d))

end Magnitude

/-- The magnitude of a finite binary64 number, in units of `2 ^ -1074`. -/
structure Magnitude where
  /-- How many units of `2 ^ -1074`. -/
  units : Nat
  /-- At most 53 bits are significant. -/
  precise : Magnitude.granularity units ∣ units
  /-- The number is not beyond the finite ones. -/
  bounded : units < Magnitude.limit
deriving DecidableEq

namespace Magnitude

theorem limit_pos : 0 < limit := by
  unfold limit
  generalize 2098 = k
  exact Nat.two_pow_pos k

def zero : Magnitude := ⟨0, Nat.dvd_zero _, limit_pos⟩

instance : Inhabited Magnitude := ⟨zero⟩

/-- The magnitude nearest to `n / d` units, if that is not beyond the finite numbers. -/
def round? (n d : Nat) : Option Magnitude :=
  if h : roundUnits n d < limit then
    some ⟨roundUnits n d, granularity_dvd_roundUnits n d, h⟩
  else
    none

end Magnitude

end Iocost
