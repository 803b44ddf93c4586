import Iocost.Binary64.Decimal
import Mathlib.Tactic.Ring

/-!
# Decimals read back

A quotient is rounded by its value alone (`Magnitude.round?_congr`), so a decimal stands for the
same number with zeros behind its digits (`Binary64.ofDecimal_mul_pow`). The exact decimal of a
magnitude reads back, and so does the shortest one (`Magnitude.readsBack_shortest`).
-/

namespace Iocost

theorem divEven_mul_right (n d : Nat) {c : Nat} (hc : 0 < c) :
    divEven (n * c) (d * c) = divEven n d := by
  have hlow : 2 * (n * c % (d * c)) < d * c ↔ 2 * (n % d) < d := by
    rw [Nat.mul_mod_mul_right, ← Nat.mul_assoc]
    exact Nat.mul_lt_mul_right hc
  have hhigh : d * c < 2 * (n * c % (d * c)) ↔ d < 2 * (n % d) := by
    rw [Nat.mul_mod_mul_right, ← Nat.mul_assoc]
    exact Nat.mul_lt_mul_right hc
  simp only [divEven, hlow, hhigh, Nat.mul_div_mul_right n d hc]

variable {n d n' d' : Nat}

theorem divEven_congr (hd : 0 < d) (hd' : 0 < d') (h : n * d' = n' * d) :
    divEven n d = divEven n' d' := by
  rw [← divEven_mul_right n d hd', h, Nat.mul_comm d d', divEven_mul_right n' d' hd]

theorem div_congr (hd : 0 < d) (hd' : 0 < d') (h : n * d' = n' * d) : n / d = n' / d' := by
  rw [← Nat.mul_div_mul_right n d hd', h, Nat.mul_comm d d', Nat.mul_div_mul_right n' d' hd]

namespace Magnitude

theorem granularity_pos (n : Nat) : 0 < granularity n := Nat.two_pow_pos _

theorem roundUnits_congr (hd : 0 < d) (hd' : 0 < d') (h : n * d' = n' * d) :
    roundUnits n d = roundUnits n' d' := by
  have hpos := granularity_pos (n' / d')
  rw [roundUnits, roundUnits, div_congr hd hd' h]
  congr 1
  refine divEven_congr (Nat.mul_pos hd hpos) (Nat.mul_pos hd' hpos) ?_
  rw [← Nat.mul_assoc, h, Nat.mul_assoc]

theorem round?_congr (hd : 0 < d) (hd' : 0 < d') (h : n * d' = n' * d) :
    round? n d = round? n' d' := by
  simp only [round?, roundUnits_congr hd hd' h]

/-- A number with 53 significant bits is left as it is. -/
theorem roundUnits_of_dvd {u : Nat} (h : granularity u ∣ u) : roundUnits u 1 = u := by
  obtain ⟨k, hk⟩ := h
  have hpos := granularity_pos u
  have hround : divEven u (granularity u) = k := by
    have hscaled := divEven_mul_right k 1 hpos
    rw [Nat.one_mul, Nat.mul_comm, ← hk] at hscaled
    rw [hscaled]
    simp [divEven, Nat.mod_one]
  rw [roundUnits, Nat.div_one, Nat.one_mul, hround, Nat.mul_comm, ← hk]

theorem roundUnits_units (m : Magnitude) : roundUnits m.units 1 = m.units :=
  roundUnits_of_dvd m.precise

theorem round?_units (m : Magnitude) : round? m.units 1 = some m := by
  have hbounded : roundUnits m.units 1 < limit := m.roundUnits_units.symm ▸ m.bounded
  rw [round?, dif_pos hbounded]
  simp only [m.roundUnits_units]

end Magnitude

namespace Binary64

theorem ofUnits_eq (negative : Bool) (n d : Nat) :
    ofUnits negative n d =
      ((Magnitude.round? n d).map (.finite negative)).getD (.infinite negative) := by
  unfold ofUnits
  split
  next h => rw [h, Option.map_some, Option.getD_some]
  next h => rw [h, Option.map_none, Option.getD_none]

theorem ofUnits_congr (negative : Bool) (hd : 0 < d) (hd' : 0 < d') (h : n * d' = n' * d) :
    ofUnits negative n d = ofUnits negative n' d' := by
  rw [ofUnits_eq, ofUnits_eq, Magnitude.round?_congr hd hd' h]

theorem ofUnits_units (negative : Bool) (m : Magnitude) :
    ofUnits negative m.units 1 = .finite negative m := by
  rw [ofUnits_eq, m.round?_units, Option.map_some, Option.getD_some]

/-- A sign does not change the magnitude. -/
theorem ofUnits_of_nonnegative {m : Magnitude} (h : ofUnits false n d = .finite false m)
    (negative : Bool) : ofUnits negative n d = .finite negative m := by
  rw [ofUnits_eq] at h ⊢
  cases hround : Magnitude.round? n d with
  | none =>
    rw [hround] at h
    cases h
  | some m' =>
    rw [hround] at h
    cases h
    rfl

theorem ofDecimal_of_nonnegative {e : Decimal} {m : Magnitude}
    (h : ofDecimal false e = .finite false m) (negative : Bool) :
    ofDecimal negative e = .finite negative m := by
  unfold ofDecimal at h ⊢
  split_ifs at h ⊢
  · cases h
    rfl
  · cases h
    rfl
  · exact ofUnits_of_nonnegative h negative

end Binary64

/-! ## Zeros behind the digits -/

namespace Decimal

theorem toDigits_mul_ten {c : Nat} (hc : 0 < c) :
    Nat.toDigits 10 (c * 10) = Nat.toDigits 10 c ++ ['0'] := by
  rw [Nat.toDigits_of_base_le (by decide) (Nat.le_mul_of_pos_left 10 hc),
    Nat.mul_div_cancel c (by decide), Nat.mul_mod_left]
  rfl

theorem toDigits_mul_pow {c : Nat} (hc : 0 < c) (j : Nat) :
    Nat.toDigits 10 (c * 10 ^ j) = Nat.toDigits 10 c ++ List.replicate j '0' := by
  induction j with
  | zero => rw [Nat.pow_zero, Nat.mul_one, List.replicate_zero, List.append_nil]
  | succ j ih =>
    rw [Nat.pow_succ, ← Nat.mul_assoc,
      toDigits_mul_ten (Nat.mul_pos hc (Nat.pow_pos (by decide))), ih, List.append_assoc,
      ← List.replicate_succ']

theorem order_mul_pow {c : Nat} (hc : 0 < c) (j : Nat) (e : Int) :
    (⟨c * 10 ^ j, e⟩ : Decimal).order = (⟨c, e + j⟩ : Decimal).order := by
  simp only [order, toDigits_mul_pow hc, List.length_append, List.length_replicate, Nat.cast_add]
  omega

/-- A number between two powers of ten has more digits than the one exponent says, and at most as
many as the other. -/
theorem length_toDigits_between {n j k : Nat} (hj : 0 < j) (hk : 0 < k) (hlow : 10 ^ j ≤ n)
    (hhigh : n < 10 ^ k) : j < (Nat.toDigits 10 n).length ∧ (Nat.toDigits 10 n).length ≤ k := by
  rw [← Nat.not_le, Nat.length_toDigits_le_iff (by decide) hj, Nat.not_lt,
    Nat.length_toDigits_le_iff (by decide) hk]
  exact ⟨hlow, hhigh⟩

theorem quotient_negSucc (n k : Nat) :
    (⟨n, .negSucc k⟩ : Decimal).quotient = (n, Nat.pow 10 (k + 1)) := rfl

theorem quotient_pos (d : Decimal) : 0 < d.quotient.2 := by
  unfold quotient
  split
  · exact Nat.one_pos
  · exact Nat.pow_pos (by decide)

theorem quotient_mul_pow (c j : Nat) (e : Int) :
    (⟨c * 10 ^ j, e⟩ : Decimal).quotient.1 * (⟨c, e + j⟩ : Decimal).quotient.2 =
      (⟨c, e + j⟩ : Decimal).quotient.1 * (⟨c * 10 ^ j, e⟩ : Decimal).quotient.2 := by
  cases e with
  | ofNat k =>
    have hexp : Int.ofNat k + j = Int.ofNat (k + j) := rfl
    rw [hexp]
    simp only [quotient, Nat.pow_eq]
    ring
  | negSucc k =>
    -- without the zeros the exponent is not negative any more, or still is
    rcases Nat.lt_or_ge k j with hlt | hge
    · obtain ⟨i, rfl⟩ := Nat.exists_eq_add_of_lt hlt
      have hexp : Int.negSucc k + (k + i + 1 : Nat) = Int.ofNat i := by
        simp only [Int.negSucc_eq, Int.ofNat_eq_natCast]
        omega
      rw [hexp]
      simp only [quotient, Nat.pow_eq]
      ring
    · obtain ⟨i, rfl⟩ := Nat.exists_eq_add_of_le hge
      have hexp : Int.negSucc (j + i) + j = Int.negSucc i := by
        simp only [Int.negSucc_eq]
        omega
      rw [hexp]
      simp only [quotient, Nat.pow_eq]
      ring

end Decimal

theorem Binary64.ofDecimal_mul_pow (negative : Bool) (c j : Nat) (e : Int) :
    ofDecimal negative ⟨c * 10 ^ j, e⟩ = ofDecimal negative ⟨c, e + j⟩ := by
  rcases Nat.eq_zero_or_pos c with rfl | hc
  · rw [Nat.zero_mul, ofDecimal, if_pos rfl, ofDecimal, if_pos rfl]
  · have hne : c * 10 ^ j ≠ 0 := Nat.ne_of_gt (Nat.mul_pos hc (Nat.pow_pos (by decide)))
    have hunits : ofUnits negative ((⟨c * 10 ^ j, e⟩ : Decimal).quotient.1 * Magnitude.one)
          (⟨c * 10 ^ j, e⟩ : Decimal).quotient.2 =
        ofUnits negative ((⟨c, e + j⟩ : Decimal).quotient.1 * Magnitude.one)
          (⟨c, e + j⟩ : Decimal).quotient.2 := by
      refine ofUnits_congr negative (Decimal.quotient_pos _) (Decimal.quotient_pos _) ?_
      rw [Nat.mul_right_comm, Decimal.quotient_mul_pow, Nat.mul_right_comm]
    simp only [ofDecimal, hne, Nat.ne_of_gt hc, ↓reduceIte, Decimal.order_mul_pow hc, hunits]

/-! ## The shortest decimal -/

namespace Magnitude

variable (m : Magnitude)

/-- The exact decimal is neither beyond the finite numbers nor next to zero. -/
theorem order_exactDecimal (hne : m.units ≠ 0) :
    -Decimal.orderBound ≤ m.exactDecimal.order ∧ m.exactDecimal.order ≤ Decimal.orderBound := by
  have hlow : 10 ^ 700 ≤ Nat.pow 5 1074 := by decide +kernel
  have hhigh : limit * Nat.pow 5 1074 < 10 ^ 1400 := by decide +kernel
  have hlength := Decimal.length_toDigits_between (by decide) (by decide)
    (Nat.le_trans hlow (Nat.le_mul_of_pos_left _ (Nat.pos_of_ne_zero hne)))
    (Nat.lt_of_le_of_lt (Nat.mul_le_mul_right _ (Nat.le_of_lt m.bounded)) hhigh)
  simp only [exactDecimal, Decimal.order, Decimal.orderBound]
  omega

theorem readsBack_exactDecimal (hne : m.units ≠ 0) : m.ReadsBack m.exactDecimal := by
  obtain ⟨hlow, hhigh⟩ := m.order_exactDecimal hne
  have hpos : 0 < Nat.pow 5 1074 := by decide +kernel
  have hdigits : m.exactDecimal.digits ≠ 0 :=
    Nat.ne_of_gt (Nat.mul_pos (Nat.pos_of_ne_zero hne) hpos)
  have hscale : Nat.pow 5 1074 * one = Nat.pow 10 (1073 + 1) := by decide +kernel
  have hunits : m.exactDecimal.quotient.1 * one * 1 = m.units * m.exactDecimal.quotient.2 := by
    have hquotient : m.exactDecimal.quotient = _ := Decimal.quotient_negSucc _ 1073
    simp only [hquotient, Nat.mul_one, Nat.mul_assoc, hscale]
  have hexact := Binary64.ofUnits_congr false (Decimal.quotient_pos _) Nat.one_pos hunits
  rw [ReadsBack, Binary64.ofDecimal, if_neg hdigits, if_neg (Int.not_lt.mpr hhigh),
    if_neg (Int.not_lt.mpr hlow), hexact, Binary64.ofUnits_units]

theorem readsBack_of_onGrid? {p : Int} {d : Decimal} (h : m.onGrid? p = some d) :
    m.ReadsBack d := by
  simp only [onGrid?] at h
  split_ifs at h with hbelow habove habove
  · cases h
    exact habove.1
  · cases h
    exact hbelow
  · cases h
    exact habove

theorem readsBack_shortest (hne : m.units ≠ 0) : m.ReadsBack m.shortest := by
  unfold shortest
  cases hfind : (List.range 17).findSome? fun k : Nat => m.onGrid? (m.leadingExponent - k) with
  | none => exact m.readsBack_exactDecimal hne
  | some d =>
    obtain ⟨k, -, hk⟩ := List.exists_of_findSome?_eq_some hfind
    exact m.readsBack_of_onGrid? hk

end Magnitude

end Iocost
