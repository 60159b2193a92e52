import LogSieve.Proofs.Number.ReadBack

namespace LogSieve

theorem roundQuotient_le (num den : Nat) : roundQuotient num den ≤ num / den + 1 := by
  simp only [roundQuotient]
  split_ifs <;> omega

theorem roundQuotient_mono {num num' den : Nat} (h : num ≤ num') :
    roundQuotient num den ≤ roundQuotient num' den := by
  have hquot : num / den ≤ num' / den := Nat.div_le_div_right h
  rcases Nat.lt_or_eq_of_le hquot with hlt | heq
  · have hup := roundQuotient_le num den
    have hdown := le_roundQuotient num' den
    omega
  · -- Of two quotients with one whole part, the greater has the greater rest.
    have hnum := Nat.div_add_mod num den
    have hnum' := Nat.div_add_mod num' den
    rw [← heq] at hnum'
    have hrest : num % den ≤ num' % den := by omega
    simp only [roundQuotient, ← heq]
    split_ifs <;> omega

theorem log2_mono {m n : Nat} (h : m ≤ n) : m.log2 ≤ n.log2 := by
  by_cases hm : m = 0
  · simp [hm]
  · have hn : n ≠ 0 := by omega
    exact (Nat.le_log2 hn).mpr (Nat.le_trans (Nat.log2_self_le hm) h)

theorem roundSignificant_le_pow (num den : Nat) :
    roundSignificant num den ≤ 2 ^ ((num / den).log2 + 1) := by
  have hgrid : 0 < 2 ^ ((num / den).log2 - 52) := Nat.two_pow_pos _
  have hlt : num / den < 2 ^ ((num / den).log2 + 1) := Nat.lt_log2_self
  have hsplit : 2 ^ ((num / den).log2 + 1) =
      2 ^ ((num / den).log2 + 1 - ((num / den).log2 - 52)) * 2 ^ ((num / den).log2 - 52) := by
    rw [← Nat.pow_add]
    congr 1
    omega
  have hquot : num / den / 2 ^ ((num / den).log2 - 52) <
      2 ^ ((num / den).log2 + 1 - ((num / den).log2 - 52)) := by
    rw [Nat.div_lt_iff_lt_mul hgrid, ← hsplit]
    exact hlt
  have hround := roundQuotient_le num (den * 2 ^ ((num / den).log2 - 52))
  rw [← Nat.div_div_eq_div_mul] at hround
  calc
    roundSignificant num den =
        roundQuotient num (den * 2 ^ ((num / den).log2 - 52)) * 2 ^ ((num / den).log2 - 52) := rfl
    _ ≤ 2 ^ ((num / den).log2 + 1 - ((num / den).log2 - 52)) * 2 ^ ((num / den).log2 - 52) :=
      Nat.mul_le_mul_right _ (by omega)
    _ = 2 ^ ((num / den).log2 + 1) := hsplit.symm

theorem roundSignificant_mono_left {num num' den : Nat} (h : num ≤ num') :
    roundSignificant num den ≤ roundSignificant num' den := by
  have hquot : num / den ≤ num' / den := Nat.div_le_div_right h
  rcases Nat.lt_or_eq_of_le (log2_mono hquot) with hlt | heq
  · -- A power of two lies between the quotients, and rounding crosses it from neither side.
    have hne : num' / den ≠ 0 := by
      intro hzero
      rw [hzero, Nat.log2_zero] at hlt
      omega
    calc
      roundSignificant num den ≤ 2 ^ ((num / den).log2 + 1) := roundSignificant_le_pow num den
      _ ≤ 2 ^ (num' / den).log2 := Nat.pow_le_pow_right (by decide) hlt
      _ ≤ roundSignificant num' den := pow_le_roundSignificant (Nat.log2_self_le hne)
  · simp only [roundSignificant, ← heq]
    exact Nat.mul_le_mul_right _ (roundQuotient_mono h)

-- Quotients are compared by their products across.
theorem roundSignificant_mono {num den num' den' : Nat} (hden : 0 < den) (hden' : 0 < den')
    (h : num * den' ≤ num' * den) : roundSignificant num den ≤ roundSignificant num' den' := by
  rw [← roundSignificant_mul_left hden' num den, ← roundSignificant_mul_left hden num' den',
    Nat.mul_comm den' den]
  apply roundSignificant_mono_left
  rw [Nat.mul_comm den' num, Nat.mul_comm den num']
  exact h

def unitsValue (units : Nat) : ℚ :=
  units / unitsPerOne

theorem unitsValue_le_iff {m n : Nat} : unitsValue m ≤ unitsValue n ↔ m ≤ n := by
  have hone : (0 : ℚ) < unitsPerOne := by exact_mod_cast unitsPerOne_pos
  rw [unitsValue, unitsValue, div_le_div_iff_of_pos_right hone]
  exact Nat.cast_le

namespace Double

theorem roundSignificant_of_ofRatio {negative negative' : Bool} {num den units : Nat}
    {hr : Representable units} (h : ofRatio negative num den = .finite negative' units hr) :
    roundSignificant (num * unitsPerOne) den = units := by
  simp only [ofRatio, ofUnits] at h
  split at h
  · exact (Double.finite.inj h).2
  · cases h

theorem units_le_of_ofRatio {negative negative' : Bool} {num den num' den' m n : Nat}
    {hm : Representable m} {hn : Representable n} (hden : 0 < den) (hden' : 0 < den')
    (h : ofRatio negative num den = .finite negative m hm)
    (h' : ofRatio negative' num' den' = .finite negative' n hn)
    (hle : (num : ℚ) / den ≤ num' / den') : m ≤ n := by
  rw [← roundSignificant_of_ofRatio h, ← roundSignificant_of_ofRatio h']
  apply roundSignificant_mono hden hden'
  have hd : (0 : ℚ) < den := by exact_mod_cast hden
  have hd' : (0 : ℚ) < den' := by exact_mod_cast hden'
  rw [div_le_div_iff₀ hd hd'] at hle
  have hcross : num * den' ≤ num' * den := by exact_mod_cast hle
  calc
    num * unitsPerOne * den' = num * den' * unitsPerOne := Nat.mul_right_comm _ _ _
    _ ≤ num' * den * unitsPerOne := Nat.mul_le_mul_right _ hcross
    _ = num' * unitsPerOne * den := Nat.mul_right_comm _ _ _

end Double

namespace Decimal

variable {d e : Decimal} {units m n : Nat} {hr : Representable units} {hm : Representable m}
  {hn : Representable n}

private theorem pow_pos_of_exponent (d : Decimal) : 0 < 10 ^ (-d.exponent).toNat :=
  Nat.pow_pos (by decide)

theorem units_le_of_value_le (hd : d.toDouble false = .finite false m hm)
    (he : e.toDouble false = .finite false n hn) (h : d.value ≤ e.value) : m ≤ n := by
  rw [toDouble_eq_ofRatio] at hd he
  rw [value_eq_div, value_eq_div] at h
  exact Double.units_le_of_ofRatio (pow_pos_of_exponent d) (pow_pos_of_exponent e) hd he h

-- A decimal that is not above a number which a double holds is not rounded above it.
theorem units_le_of_value_le_unitsValue (hd : d.toDouble false = .finite false m hm)
    (hn : Representable n) (h : d.value ≤ unitsValue n) : m ≤ n := by
  rw [toDouble_eq_ofRatio] at hd
  rw [value_eq_div] at h
  exact Double.units_le_of_ofRatio (pow_pos_of_exponent d) unitsPerOne_pos hd
    (Double.ofRatio_unitsPerOne false hn) h

end Decimal

end LogSieve
