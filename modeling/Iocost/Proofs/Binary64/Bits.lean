import Iocost.Binary64.Bits
import Iocost.Proofs.Binary64.Decimal

/-!
# Encodings of numbers

The encoding of a number is the one that it was read from (`Binary64.toBits_ofBits`), but for the
encodings of values that are not numbers, which are all read as one.
-/

namespace Iocost

namespace Magnitude

open Binary64 (fractionCount magnitudeBits)

variable {m : Magnitude} {fraction : Nat}

theorem log2_normal (hfraction : fraction < fractionCount) (k : Nat) :
    ((fractionCount + fraction) * 2 ^ k).log2 = 52 + k := by
  have hcount : fractionCount = 2 ^ 52 := rfl
  have hne : (fractionCount + fraction) * 2 ^ k ≠ 0 :=
    Nat.ne_of_gt (Nat.mul_pos (by omega) (Nat.two_pow_pos k))
  have hnext : 2 ^ (52 + k + 1) = 2 ^ 53 * 2 ^ k := by
    rw [← Nat.pow_add]
    congr 1
    omega
  rw [Nat.log2_eq_iff hne, hnext, Nat.pow_add]
  constructor
  · exact Nat.mul_le_mul_right _ (by omega)
  · exact Nat.mul_lt_mul_of_pos_right (by omega) (Nat.two_pow_pos k)

/-- The exponent and the fraction of a number with all its 53 bits. -/
theorem magnitudeBits_normal (hfraction : fraction < fractionCount) {k : Nat}
    (h : m.units = (fractionCount + fraction) * 2 ^ k) :
    magnitudeBits m = (k + 1) * fractionCount + fraction := by
  have hlarge : ¬m.units < fractionCount := by
    rw [h]
    exact Nat.not_lt.mpr (Nat.le_trans (Nat.le_add_right _ _)
      (Nat.le_mul_of_pos_right _ (Nat.two_pow_pos k)))
  have hlog : m.units.log2 - 52 = k := by
    rw [h, log2_normal hfraction, Nat.add_sub_cancel_left]
  have hquotient : m.units / Nat.pow 2 k = fractionCount + fraction := by
    rw [h]
    exact Nat.mul_div_cancel _ (Nat.two_pow_pos k)
  rw [magnitudeBits, if_neg hlarge]
  simp only [hlog, hquotient, Nat.add_sub_cancel_left]

/-- The fraction of a number below all those with 53 bits. -/
theorem magnitudeBits_subnormal (hfraction : fraction < fractionCount) (h : m.units = fraction) :
    magnitudeBits m = fraction := by
  rw [magnitudeBits, if_pos (h ▸ hfraction), h]

end Magnitude

namespace Binary64

/-- The sign, the exponent and the fraction that an encoding consists of. -/
theorem bits_eq {n : Nat} (h : n < 2 ^ 64) :
    n = (if n.testBit 63 then 2 ^ 63 else 0) +
      (n / fractionCount % 2048 * fractionCount + n % fractionCount) := by
  have hcount : fractionCount = 2 ^ 52 := rfl
  rw [Nat.testBit_eq_decide_div_mod_eq, hcount]
  simp only [decide_eq_true_eq]
  split <;> omega

theorem exists_ofUnits_of_dvd (negative : Bool) {u : Nat} (hdvd : Magnitude.granularity u ∣ u)
    (hlt : u < Magnitude.limit) :
    ∃ m, ofUnits negative u 1 = .finite negative m ∧ m.units = u :=
  ⟨⟨u, hdvd, hlt⟩, ofUnits_units negative ⟨u, hdvd, hlt⟩, rfl⟩

theorem exists_ofUnits_subnormal (negative : Bool) {fraction : Nat}
    (hfraction : fraction < fractionCount) :
    ∃ m, ofUnits negative fraction 1 = .finite negative m ∧ m.units = fraction := by
  refine exists_ofUnits_of_dvd negative ?_ ?_
  · have hdvd := Magnitude.granularity_dvd_mul (r := fraction) 0
      (Nat.le_of_lt (Nat.lt_trans hfraction (by decide)))
    rwa [Nat.pow_eq, Nat.pow_zero, Nat.mul_one] at hdvd
  · exact Nat.lt_trans hfraction (by decide +kernel)

theorem exists_ofUnits_normal (negative : Bool) {fraction k : Nat}
    (hfraction : fraction < fractionCount) (hk : k ≤ 2045) :
    ∃ m, ofUnits negative ((fractionCount + fraction) * Nat.pow 2 k) 1 = .finite negative m ∧
      m.units = (fractionCount + fraction) * 2 ^ k := by
  have hsignificand : fractionCount + fraction < Magnitude.significandLimit :=
    Nat.lt_of_lt_of_le (Nat.add_lt_add_left hfraction _) (by decide)
  refine exists_ofUnits_of_dvd negative
    (Magnitude.granularity_dvd_mul k (Nat.le_of_lt hsignificand)) ?_
  have hlimit : Magnitude.significandLimit * 2 ^ k ≤ Magnitude.limit := by
    have hpower : Magnitude.significandLimit * 2 ^ k = 2 ^ (53 + k) := (Nat.pow_add 2 53 k).symm
    rw [hpower]
    have hle : 53 + k ≤ 2098 := by omega
    unfold Magnitude.limit
    generalize 2098 = p at hle ⊢
    exact Nat.pow_le_pow_right (by decide) hle
  exact Nat.lt_of_lt_of_le (Nat.mul_lt_mul_of_pos_right hsignificand (Nat.two_pow_pos k)) hlimit

/-- The first bit of an encoding is the sign. -/
theorem negative_of_ofBits {bits : UInt64} {negative : Bool} {m : Magnitude}
    (h : ofBits bits = .finite negative m) : bits.toNat.testBit 63 = negative := by
  have hsign {s : Bool} {n d : Nat} (h : ofUnits s n d = .finite negative m) : s = negative := by
    rw [ofUnits_eq] at h
    cases hround : Magnitude.round? n d with
    | none =>
      rw [hround] at h
      cases h
    | some k =>
      rw [hround] at h
      exact (Binary64.finite.inj h).1
  simp only [ofBits] at h
  split_ifs at h
  · exact hsign h
  · exact hsign h

theorem toNat_toBits_infinite (negative : Bool) :
    (toBits (.infinite negative)).toNat =
      (if negative then 2 ^ 63 else 0) + 2047 * fractionCount := by
  cases negative <;> decide

theorem toNat_toBits_finite {negative : Bool} {m : Magnitude} {n : Nat} (hn : n < 2 ^ 64)
    (h : n = (if negative then 2 ^ 63 else 0) + magnitudeBits m) :
    (toBits (.finite negative m)).toNat = n := by
  have hsign : 0x8000000000000000 = 2 ^ 63 := by decide
  rw [toBits, hsign, ← h, UInt64.toNat_ofNat', Nat.mod_eq_of_lt hn]

/-- A number that is not a NaN is encoded as it was read. -/
theorem toBits_ofBits {bits : UInt64} (h : (ofBits bits).isNaN = false) :
    (ofBits bits).toBits = bits := by
  have hbits := bits_eq bits.toNat_lt
  have hfraction : bits.toNat % fractionCount < fractionCount := Nat.mod_lt _ (by decide)
  have hexponent : bits.toNat / fractionCount % 2048 < 2048 := Nat.mod_lt _ (by decide)
  refine UInt64.toNat_inj.mp ?_
  simp only [ofBits] at h ⊢
  generalize bits.toNat.testBit 63 = negative at hbits h ⊢
  generalize bits.toNat % fractionCount = fraction at hbits hfraction h ⊢
  generalize bits.toNat / fractionCount % 2048 = exponent at hbits hexponent h ⊢
  split_ifs at h ⊢ with hlast hzero hfirst
  · rw [toNat_toBits_infinite, hbits, hlast, hzero, Nat.add_zero]
  · cases h
  · obtain ⟨m, hm, hunits⟩ := exists_ofUnits_subnormal negative hfraction
    rw [hm]
    refine toNat_toBits_finite bits.toNat_lt ?_
    rw [hbits, hfirst, Nat.zero_mul, Nat.zero_add,
      Magnitude.magnitudeBits_subnormal hfraction hunits]
  · have hlow : exponent - 1 ≤ 2045 := by omega
    obtain ⟨m, hm, hunits⟩ := exists_ofUnits_normal negative hfraction hlow
    rw [hm]
    refine toNat_toBits_finite bits.toNat_lt ?_
    rw [hbits, Magnitude.magnitudeBits_normal hfraction hunits,
      Nat.sub_add_cancel (Nat.pos_of_ne_zero hfirst)]

end Binary64

end Iocost
