import LogSieve.Number.Decimal
import Mathlib.Tactic.Ring

namespace LogSieve

private theorem pow_eq (base n : Nat) : Nat.pow base n = base ^ n := rfl

-- The exponents are generalized so that no power is evaluated.
theorem unitsPerOne_eq : unitsPerOne = 2 ^ 1074 := by
  delta unitsPerOne
  generalize 1074 = n
  rfl

theorem unitsBound_eq : unitsBound = 2 ^ 2098 := by
  delta unitsBound
  generalize 2098 = n
  rfl

theorem unitsPerOne_pos : 0 < unitsPerOne := by
  rw [unitsPerOne_eq]
  exact pow_pos Nat.two_pos 1074

theorem representable_zero : Representable 0 := by
  refine ⟨?_, Nat.zero_mod _⟩
  rw [unitsBound_eq]
  exact pow_pos Nat.two_pos 2098

theorem roundQuotient_mul_left {k : Nat} (hk : 0 < k) (num den : Nat) :
    roundQuotient (k * num) (k * den) = roundQuotient num den := by
  simp only [roundQuotient, Nat.mul_div_mul_left _ _ hk, Nat.mul_mod_mul_left,
    Nat.mul_left_comm 2 k, Nat.mul_lt_mul_left hk]

theorem roundQuotient_exact {den : Nat} (hden : 0 < den) (n : Nat) :
    roundQuotient (n * den) den = n := by
  simp [roundQuotient, Nat.mul_div_cancel _ hden, hden]

theorem le_roundQuotient (num den : Nat) : num / den ≤ roundQuotient num den := by
  simp only [roundQuotient]
  split <;> try split
  all_goals omega

theorem roundSignificant_mul_left {k : Nat} (hk : 0 < k) (num den : Nat) :
    roundSignificant (k * num) (k * den) = roundSignificant num den := by
  simp only [roundSignificant, Nat.mul_div_mul_left _ _ hk, Nat.mul_assoc k,
    roundQuotient_mul_left hk]

theorem roundSignificant_congr {num den num' den' : Nat} (hden : 0 < den) (hden' : 0 < den')
    (h : num * den' = num' * den) :
    roundSignificant num den = roundSignificant num' den' := by
  rw [← roundSignificant_mul_left hden' num den, ← roundSignificant_mul_left hden num' den',
    Nat.mul_comm den' num, h, Nat.mul_comm num' den, Nat.mul_comm den' den]

theorem roundSignificant_of_representable {den units : Nat} (hden : 0 < den)
    (h : Representable units) : roundSignificant (units * den) den = units := by
  have hgrid : 0 < 2 ^ (units.log2 - 52) := Nat.two_pow_pos _
  have hmod : units % 2 ^ (units.log2 - 52) = 0 := h.2
  obtain ⟨k, hk⟩ := Nat.dvd_of_mod_eq_zero hmod
  have hquot : roundQuotient (units * den) (den * 2 ^ (units.log2 - 52)) = k := by
    conv => enter [1, 1, 1]; rw [hk]
    rw [Nat.mul_comm _ k, Nat.mul_assoc, Nat.mul_comm (2 ^ _) den]
    exact roundQuotient_exact (Nat.mul_pos hden hgrid) k
  simp only [roundSignificant, pow_eq, Nat.mul_div_cancel _ hden, hquot]
  rw [Nat.mul_comm, ← hk]

theorem roundSignificant_eq_zero {num den : Nat} (h : 2 * num < den) :
    roundSignificant num den = 0 := by
  have hlt : num < den := by omega
  simp [roundSignificant, roundQuotient, Nat.div_eq_of_lt hlt, Nat.mod_eq_of_lt hlt, h]

-- A power of two that a quotient reaches is a multiple of every grid that rounding can choose, so
-- rounding does not cross it downwards.
theorem pow_le_roundSignificant {num den k : Nat} (h : 2 ^ k ≤ num / den) :
    2 ^ k ≤ roundSignificant num den := by
  have hne : num / den ≠ 0 := by
    have := Nat.two_pow_pos k
    omega
  have hk : k ≤ (num / den).log2 := (Nat.le_log2 hne).mpr h
  have hgrid : 0 < 2 ^ ((num / den).log2 - 52) := Nat.two_pow_pos _
  have hquot : (num / den) / 2 ^ ((num / den).log2 - 52) ≤
      roundQuotient num (den * 2 ^ ((num / den).log2 - 52)) := by
    rw [Nat.div_div_eq_div_mul]
    exact le_roundQuotient _ _
  -- The power is a multiple of the grid, so cutting the quotient to the grid leaves it reached.
  have hlead : 2 ^ ((num / den).log2 - ((num / den).log2 - 52)) ≤
      (num / den) / 2 ^ ((num / den).log2 - 52) := by
    rw [Nat.le_div_iff_mul_le hgrid, ← Nat.pow_add]
    refine Nat.le_trans (Nat.pow_le_pow_right (by decide) ?_) (Nat.log2_self_le hne)
    omega
  calc
    2 ^ k ≤ 2 ^ (num / den).log2 := Nat.pow_le_pow_right (by decide) hk
    _ = 2 ^ ((num / den).log2 - ((num / den).log2 - 52)) * 2 ^ ((num / den).log2 - 52) := by
      rw [← Nat.pow_add]
      congr 1
      omega
    _ ≤ roundSignificant num den := Nat.mul_le_mul_right _ (Nat.le_trans hlead hquot)

namespace Double

theorem ofUnits_of_representable {units : Nat} (negative : Bool) (h : Representable units) :
    ofUnits negative units = .finite negative units h := by
  simp [ofUnits, h]

theorem ofUnits_of_bound_le {units : Nat} (negative : Bool) (h : unitsBound ≤ units) :
    ofUnits negative units = .infinite negative := by
  have hn : ¬Representable units := fun hr => absurd hr.1 (Nat.not_lt.mpr h)
  simp [ofUnits, hn]

theorem ofRatio_congr {num den num' den' : Nat} (negative : Bool) (hden : 0 < den)
    (hden' : 0 < den') (h : num * den' = num' * den) :
    ofRatio negative num den = ofRatio negative num' den' := by
  unfold ofRatio
  rw [roundSignificant_congr hden hden']
  rw [Nat.mul_right_comm, h, Nat.mul_right_comm]

theorem ofRatio_unitsPerOne {units : Nat} (negative : Bool) (h : Representable units) :
    ofRatio negative units unitsPerOne = .finite negative units h := by
  rw [ofRatio, roundSignificant_of_representable unitsPerOne_pos h, ofUnits_of_representable]

end Double

namespace Decimal

private theorem eight_pow_le (n : Nat) : 2 ^ (3 * n) ≤ 10 ^ n := by
  rw [Nat.pow_mul]
  exact Nat.pow_le_pow_left (by decide) n

private theorem toDouble_of_large (negative : Bool) {d : Decimal} (hd : d.digits ≠ 0)
    (he : largestExponent < d.exponent) :
    Double.ofRatio negative (d.digits * 10 ^ d.exponent.toNat) (10 ^ (-d.exponent).toNat) =
      .infinite negative := by
  have hexp : 401 ≤ d.exponent.toNat := by
    unfold largestExponent at he
    omega
  have hzero : (-d.exponent).toNat = 0 := by omega
  rw [Double.ofRatio, hzero, Nat.pow_zero]
  apply Double.ofUnits_of_bound_le
  rw [unitsBound_eq]
  apply pow_le_roundSignificant
  rw [Nat.div_one]
  calc
    2 ^ 2098 ≤ 2 ^ (3 * d.exponent.toNat + 1074) := pow_le_pow_right₀ (by decide) (by omega)
    _ = 2 ^ (3 * d.exponent.toNat) * unitsPerOne := by rw [unitsPerOne_eq, pow_add]
    _ ≤ 10 ^ d.exponent.toNat * unitsPerOne := Nat.mul_le_mul_right _ (eight_pow_le _)
    _ ≤ d.digits * 10 ^ d.exponent.toNat * unitsPerOne :=
      Nat.mul_le_mul_right _ (Nat.le_mul_of_pos_left _ (Nat.pos_of_ne_zero hd))

-- Exponents far below zero leave less than half a unit, however many digits there are.
private theorem toDouble_of_small (negative : Bool) {d : Decimal}
    (he : d.exponent < -largestExponent - d.digits.log2) :
    Double.ofRatio negative (d.digits * 10 ^ d.exponent.toNat) (10 ^ (-d.exponent).toNat) =
      .ofUnits negative 0 := by
  have hexp : 401 + d.digits.log2 ≤ (-d.exponent).toNat := by
    unfold largestExponent at he
    omega
  have hzero : d.exponent.toNat = 0 := by omega
  rw [Double.ofRatio, hzero, Nat.pow_zero, Nat.mul_one, roundSignificant_eq_zero]
  have hlog : d.digits < 2 ^ (d.digits.log2 + 1) := Nat.lt_log2_self
  calc
    2 * (d.digits * unitsPerOne) < 2 * (2 ^ (d.digits.log2 + 1) * unitsPerOne) :=
      Nat.mul_lt_mul_of_pos_left (Nat.mul_lt_mul_of_pos_right hlog unitsPerOne_pos) (by decide)
    _ = 2 ^ (1 + (d.digits.log2 + 1 + 1074)) := by
      rw [unitsPerOne_eq, pow_add 2 1, pow_add 2 (d.digits.log2 + 1), pow_one]
    _ ≤ 2 ^ (3 * (-d.exponent).toNat) := Nat.pow_le_pow_right (by decide) (by omega)
    _ ≤ 10 ^ (-d.exponent).toNat := eight_pow_le _

-- The cases that are decided without arithmetic agree with the arithmetic.
theorem toDouble_eq_ofRatio (negative : Bool) (d : Decimal) :
    d.toDouble negative =
      .ofRatio negative (d.digits * 10 ^ d.exponent.toNat) (10 ^ (-d.exponent).toNat) := by
  unfold toDouble
  split
  · rename_i hd
    rw [hd, Nat.zero_mul, Double.ofRatio, Nat.zero_mul,
      roundSignificant_eq_zero (Nat.pow_pos (by decide))]
  · rename_i hd
    split
    · rename_i hl
      exact (toDouble_of_large negative hd hl).symm
    · split
      · rename_i hs
        exact (toDouble_of_small negative hs).symm
      · rfl

theorem toDouble_exact (negative : Bool) {units : Nat} (h : Representable units) :
    (exact units).toDouble negative = .finite negative units h := by
  have hten : 0 < 10 ^ (-(exact units).exponent).toNat := Nat.pow_pos (by decide)
  rw [toDouble_eq_ofRatio, ← Double.ofRatio_unitsPerOne negative h]
  apply Double.ofRatio_congr negative hten unitsPerOne_pos
  simp only [exact, Int.neg_neg]
  rw [show Int.toNat (-1074) = 0 from rfl, show Int.toNat 1074 = 1074 from rfl, unitsPerOne_eq]
  generalize 1074 = n
  rw [pow_eq, pow_zero, mul_one, mul_assoc, ← mul_pow, show 5 * 2 = 10 from rfl]

end Decimal

end LogSieve
