import Iocost.Proofs.Binary64.Decimal
import Mathlib.Data.Nat.Dist
import Mathlib.Tactic.Linarith

/-!
# Rounding to the nearest magnitude

A quotient is rounded to a number of units with at most 53 significant bits, of which none is nearer
(`Magnitude.dist_roundUnits_le`); if another one is as near, the rounded one has an even significand
(`Magnitude.even_significandOf_roundUnits`). So a number of units with at most 53 significant bits
is left as it is, and rounding never changes an order (`Magnitude.roundUnits_mono`).
-/

namespace Iocost

variable {n d k : Nat}

/-! ## Quotients rounded to natural numbers -/

theorem divEven_cases (n d : Nat) :
    (divEven n d = n / d ∧ 2 * (n % d) ≤ d) ∨ (divEven n d = n / d + 1 ∧ d ≤ 2 * (n % d)) := by
  unfold divEven
  split
  · exact .inl ⟨rfl, by omega⟩
  · split
    · exact .inr ⟨rfl, by omega⟩
    · rcases Nat.mod_two_eq_zero_or_one (n / d) with heven | hodd
      · exact .inl ⟨by omega, by omega⟩
      · exact .inr ⟨by omega, by omega⟩

/-- The rounded quotient is even when it was halfway between two natural numbers. -/
theorem even_divEven_of_half (h : 2 * (n % d) = d) : Even (divEven n d) := by
  rw [divEven, if_neg (by omega), if_neg (by omega), Nat.even_iff]
  omega

/-- A multiple is not above the one before `n`, or it is the one behind `n`, or it is still further
on. -/
theorem multiple_cases (k q d : Nat) :
    k * d + d ≤ q * d ∨ k = q ∨ k = q + 1 ∨ q * d + 2 * d ≤ k * d := by
  rcases Nat.lt_trichotomy k q with hlt | rfl | hgt
  · exact .inl (by rw [← Nat.succ_mul]; exact Nat.mul_le_mul_right d hlt)
  · exact .inr (.inl rfl)
  · rcases Nat.eq_or_lt_of_le hgt with heq | hgt
    · exact .inr (.inr (.inl heq.symm))
    · refine .inr (.inr (.inr ?_))
      rw [← Nat.add_mul]
      exact Nat.mul_le_mul_right d hgt

theorem dist_divEven_le (hd : 0 < d) (k : Nat) :
    Nat.dist (divEven n d * d) n ≤ Nat.dist (k * d) n := by
  have hdiv := Nat.div_add_mod' n d
  have hmod := Nat.mod_lt n hd
  have hsucc : (n / d + 1) * d = n / d * d + d := Nat.succ_mul _ _
  unfold Nat.dist
  rcases divEven_cases n d with ⟨hround, hhalf⟩ | ⟨hround, hhalf⟩ <;>
    rcases multiple_cases k (n / d) d with hk | rfl | rfl | hk <;> rw [hround] <;> omega

theorem even_divEven_of_dist_eq (hd : 0 < d) (hk : k ≠ divEven n d)
    (h : Nat.dist (divEven n d * d) n = Nat.dist (k * d) n) : Even (divEven n d) := by
  refine even_divEven_of_half ?_
  have hdiv := Nat.div_add_mod' n d
  have hmod := Nat.mod_lt n hd
  have hsucc : (n / d + 1) * d = n / d * d + d := Nat.succ_mul _ _
  unfold Nat.dist at h
  rcases divEven_cases n d with ⟨hround, hhalf⟩ | ⟨hround, hhalf⟩ <;> rw [hround] at h hk <;>
    rcases multiple_cases k (n / d) d with hcase | rfl | rfl | hcase <;> omega

namespace Magnitude

/-! ## Numbers of units with 53 significant bits -/

theorem granularity_eq (n : Nat) : granularity n = 2 ^ (n.log2 - 52) := rfl

theorem granularity_dvd_two_pow (k : Nat) : granularity (2 ^ k) ∣ 2 ^ k := by
  have h := granularity_dvd_mul (r := 1) k (by decide)
  rwa [Nat.one_mul] at h

theorem granularity_dvd_limit : granularity limit ∣ limit := by
  unfold limit
  generalize 2098 = k
  exact granularity_dvd_two_pow k

/-- A number with 53 significant bits that is not small is a multiple of that power of two. -/
theorem two_pow_dvd (hk : granularity k ∣ k) {p : Nat} (hle : 2 ^ (52 + p) ≤ k) : 2 ^ p ∣ k := by
  have hne : k ≠ 0 := Nat.ne_of_gt (Nat.lt_of_lt_of_le (Nat.two_pow_pos _) hle)
  have hlog : 52 + p ≤ k.log2 := (Nat.le_log2 hne).mpr hle
  exact Nat.dvd_trans (Nat.pow_dvd_pow 2 (by omega)) hk

theorem roundUnits_mul (n d : Nat) :
    roundUnits n d * d = divEven n (d * granularity (n / d)) * (d * granularity (n / d)) := by
  rw [roundUnits, Nat.mul_assoc, Nat.mul_comm (granularity (n / d)) d]

/-- A number with 53 significant bits is a multiple of the spacing around the quotient, or else it
is below a multiple that is not above the quotient. -/
theorem multiple_or_lt (hd : 0 < d) (hk : granularity k ∣ k) :
    (∃ j, k = j * granularity (n / d)) ∨
      (k * d < 2 ^ 52 * (d * granularity (n / d)) ∧ 2 ^ 52 * (d * granularity (n / d)) ≤ n) := by
  rcases Nat.lt_or_ge k (2 ^ (52 + ((n / d).log2 - 52))) with hlt | hge
  · rcases Nat.eq_zero_or_pos ((n / d).log2 - 52) with hzero | hpos
    · exact .inl ⟨k, by rw [granularity_eq, hzero, Nat.pow_zero, Nat.mul_one]⟩
    · have hne : n / d ≠ 0 := by
        intro hquotient
        rw [hquotient] at hpos
        exact absurd hpos (by decide)
      have hlow : 2 ^ (n / d).log2 ≤ n / d := Nat.log2_self_le hne
      have hexp : 52 + ((n / d).log2 - 52) = (n / d).log2 := by omega
      have hmul : 2 ^ 52 * (d * granularity (n / d)) = 2 ^ (n / d).log2 * d := by
        rw [← hexp, Nat.pow_add, granularity_eq, Nat.mul_assoc, Nat.mul_comm d]
      rw [hmul]
      refine .inr ⟨Nat.mul_lt_mul_of_pos_right (hexp ▸ hlt) hd, ?_⟩
      exact Nat.le_trans (Nat.mul_le_mul_right d hlow) (Nat.div_mul_le_self n d)
  · obtain ⟨j, hj⟩ := two_pow_dvd hk hge
    exact .inl ⟨j, hj.trans (Nat.mul_comm _ _)⟩

/-- No number with 53 significant bits is nearer to a quotient than the rounded one. -/
theorem dist_roundUnits_le (hd : 0 < d) (hk : granularity k ∣ k) :
    Nat.dist (roundUnits n d * d) n ≤ Nat.dist (k * d) n := by
  have hspace : 0 < d * granularity (n / d) := Nat.mul_pos hd (granularity_pos _)
  rw [roundUnits_mul]
  rcases multiple_or_lt (n := n) hd hk with ⟨j, rfl⟩ | ⟨hlt, hle⟩
  · rw [Nat.mul_assoc, Nat.mul_comm _ d]
    exact dist_divEven_le hspace j
  · have hbelow := dist_divEven_le (n := n) hspace (2 ^ 52)
    unfold Nat.dist at hbelow ⊢
    omega

theorem even_divEven_of_dist_roundUnits_eq (hd : 0 < d) (hk : granularity k ∣ k)
    (hne : k ≠ roundUnits n d)
    (h : Nat.dist (roundUnits n d * d) n = Nat.dist (k * d) n) :
    Even (divEven n (d * granularity (n / d))) := by
  have hspace : 0 < d * granularity (n / d) := Nat.mul_pos hd (granularity_pos _)
  rw [roundUnits_mul] at h
  rcases multiple_or_lt (n := n) hd hk with ⟨j, rfl⟩ | ⟨hlt, hle⟩
  · rw [Nat.mul_assoc, Nat.mul_comm _ d] at h
    refine even_divEven_of_dist_eq hspace ?_ h
    rintro rfl
    exact hne rfl
  · have hbelow := dist_divEven_le (n := n) hspace (2 ^ 52)
    unfold Nat.dist at hbelow h
    omega

/-- How many steps of its own spacing a number of units is. -/
def significandOf (u : Nat) : Nat := u / granularity u

theorem even_significandOf {r : Nat} (hr : r ≤ significandLimit) (heven : Even r) (p : Nat) :
    Even (significandOf (r * 2 ^ p)) := by
  rcases Nat.eq_zero_or_pos r with rfl | hpos
  · rw [Nat.zero_mul, significandOf, Nat.zero_div]
    exact Even.zero
  · rcases Nat.lt_or_eq_of_le hr with hlt | rfl
    · -- the spacing is at most that of the multiples, so some power of two more is in the number
      have hne : r * 2 ^ p ≠ 0 := Nat.ne_of_gt (Nat.mul_pos hpos (Nat.two_pow_pos _))
      have hbound : r * 2 ^ p < 2 ^ (53 + p) := by
        rw [Nat.pow_add]
        exact Nat.mul_lt_mul_of_pos_right hlt (Nat.two_pow_pos p)
      have hlog : (r * 2 ^ p).log2 - 52 ≤ p := by
        have := (Nat.log2_lt hne).mpr hbound
        omega
      have hsplit : 2 ^ p = 2 ^ (p - ((r * 2 ^ p).log2 - 52)) * granularity (r * 2 ^ p) := by
        rw [granularity_eq, ← Nat.pow_add, Nat.sub_add_cancel hlog]
      have hquotient : significandOf (r * 2 ^ p) =
          r * 2 ^ (p - ((r * 2 ^ p).log2 - 52)) := by
        rw [significandOf]
        refine Nat.div_eq_of_eq_mul_left (granularity_pos _) ?_
        rw [Nat.mul_assoc, ← hsplit]
      rw [hquotient]
      exact heven.mul_right _
    · have hpower : significandLimit * 2 ^ p = 2 ^ (53 + p) := (Nat.pow_add 2 53 p).symm
      have hquotient : significandOf (2 ^ (53 + p)) = 2 ^ 52 := by
        rw [significandOf, granularity_eq, Nat.log2_two_pow, Nat.pow_div (by omega) (by decide)]
        congr 1
        omega
      rw [hpower, hquotient]
      decide

/-- The rounded number has an even significand if another one is as near to the quotient. -/
theorem even_significandOf_roundUnits (hd : 0 < d) (hk : granularity k ∣ k)
    (hne : k ≠ roundUnits n d)
    (h : Nat.dist (roundUnits n d * d) n = Nat.dist (k * d) n) :
    Even (significandOf (roundUnits n d)) :=
  even_significandOf
    (Nat.le_trans (divEven_le _ _) (Nat.succ_le_of_lt (div_granularity_lt n d)))
    (even_divEven_of_dist_roundUnits_eq hd hk hne h) _

/-! ## Order -/

variable {n' d' : Nat}

/-- Of two numbers with 53 significant bits the greater one is nearer only to quotients that are not
below the middle between them. -/
theorem middle_le_of_dist_le {a b x : Nat} (hlt : b < a) (h : Nat.dist a x ≤ Nat.dist b x) :
    a + b ≤ 2 * x := by
  unfold Nat.dist at h
  omega

theorem le_middle_of_dist_le {a b x : Nat} (hlt : b < a) (h : Nat.dist b x ≤ Nat.dist a x) :
    2 * x ≤ a + b := by
  unfold Nat.dist at h
  omega

theorem roundUnits_mono (hd : 0 < d) (hd' : 0 < d') (h : n * d' ≤ n' * d) :
    roundUnits n d ≤ roundUnits n' d' := by
  by_contra hcontra
  have hlt : roundUnits n' d' < roundUnits n d := Nat.lt_of_not_le hcontra
  have habove := middle_le_of_dist_le (Nat.mul_lt_mul_of_pos_right hlt hd)
    (dist_roundUnits_le (n := n) hd (granularity_dvd_roundUnits n' d'))
  have hbelow := le_middle_of_dist_le (Nat.mul_lt_mul_of_pos_right hlt hd')
    (dist_roundUnits_le (n := n') hd' (granularity_dvd_roundUnits n d))
  -- both quotients are in the middle, so they are the same
  have hscaled := Nat.mul_le_mul_right d' habove
  have hscaled' := Nat.mul_le_mul_right d hbelow
  have hmiddle : (roundUnits n d * d + roundUnits n' d' * d) * d' =
      (roundUnits n d * d' + roundUnits n' d' * d') * d := by ring
  have hsame : n * d' = n' * d := by
    rw [Nat.mul_assoc] at hscaled hscaled'
    omega
  exact absurd (roundUnits_congr hd hd' hsame) (Nat.ne_of_gt hlt)

theorem roundUnits_le (hd : 0 < d) (hk : granularity k ∣ k) (h : n ≤ k * d) :
    roundUnits n d ≤ k := by
  have hmono : roundUnits n d ≤ roundUnits k 1 :=
    roundUnits_mono hd Nat.one_pos (by rwa [Nat.mul_one])
  rwa [roundUnits_of_dvd hk] at hmono

theorem le_roundUnits (hd : 0 < d) (hk : granularity k ∣ k) (h : k * d ≤ n) :
    k ≤ roundUnits n d := by
  have hmono : roundUnits k 1 ≤ roundUnits n d :=
    roundUnits_mono Nat.one_pos hd (by rwa [Nat.mul_one])
  rwa [roundUnits_of_dvd hk] at hmono

end Magnitude

end Iocost
