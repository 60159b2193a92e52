import LogSieve.Proofs.Number.Monotone
import Mathlib.Tactic.Linarith

namespace LogSieve

theorem lt_pow_length_toDigits (n : Nat) : n < 10 ^ (Nat.toDigits 10 n).length := by
  induction n using Nat.strongRecOn with
  | _ n ih =>
    by_cases h : n < 10
    · rw [Nat.toDigits_of_lt_base h]
      exact h
    · have hrest := ih (n / 10) (by omega)
      rw [Nat.toDigits_of_base_le (by decide) (by omega), List.length_append,
        List.length_singleton, Nat.pow_succ]
      omega

theorem pow_length_toDigits_le {n : Nat} (hn : n ≠ 0) :
    10 ^ (Nat.toDigits 10 n).length ≤ n * 10 := by
  induction n using Nat.strongRecOn with
  | _ n ih =>
    by_cases h : n < 10
    · rw [Nat.toDigits_of_lt_base h]
      simp only [List.length_singleton]
      omega
    · have hrest := ih (n / 10) (by omega) (by omega)
      rw [Nat.toDigits_of_base_le (by decide) (by omega), List.length_append,
        List.length_singleton, Nat.pow_succ]
      omega

namespace Decimal

-- The power of ten that the first digit stands for.
def lead (d : Decimal) : Int :=
  d.exponent + (Nat.toDigits 10 d.digits).length - 1

theorem value_lt_pow_lead (d : Decimal) : d.value < 10 ^ (d.lead + 1) := by
  have hten : (10 : ℚ) ≠ 0 := by norm_num
  have hdigits : (d.digits : ℚ) < 10 ^ (Nat.toDigits 10 d.digits).length := by
    exact_mod_cast lt_pow_length_toDigits d.digits
  have hexp : d.lead + 1 = (Nat.toDigits 10 d.digits).length + d.exponent := by
    unfold lead
    omega
  rw [value, hexp, zpow_add₀ hten, zpow_natCast]
  exact mul_lt_mul_of_pos_right hdigits (zpow_pos (by norm_num) _)

theorem pow_lead_le_value {d : Decimal} (hd : d.digits ≠ 0) : 10 ^ d.lead ≤ d.value := by
  have hten : (10 : ℚ) ≠ 0 := by norm_num
  have hdigits : (10 : ℚ) ^ (Nat.toDigits 10 d.digits).length ≤ d.digits * 10 := by
    exact_mod_cast pow_length_toDigits_le hd
  have hexp : d.lead + 1 = (Nat.toDigits 10 d.digits).length + d.exponent := by
    unfold lead
    omega
  have hscaled : (10 : ℚ) ^ (d.lead + 1) ≤ d.value * 10 := by
    rw [value, hexp, zpow_add₀ hten, zpow_natCast, mul_right_comm]
    exact mul_le_mul_of_nonneg_right hdigits (zpow_nonneg (by norm_num) _)
  rw [zpow_add₀ hten, zpow_one] at hscaled
  linarith

theorem le_lead_iff {d : Decimal} (hd : d.digits ≠ 0) (k : Int) :
    k ≤ d.lead ↔ 10 ^ k ≤ d.value := by
  have hone : (1 : ℚ) ≤ 10 := by norm_num
  constructor
  · intro h
    exact le_trans (zpow_le_zpow_right₀ hone h) (pow_lead_le_value hd)
  · intro h
    by_contra hlt
    have hpow : (10 : ℚ) ^ (d.lead + 1) ≤ 10 ^ k := zpow_le_zpow_right₀ hone (by omega)
    have hvalue := value_lt_pow_lead d
    linarith

-- The double of a power of ten is not below the power, nor is the decimal that is found for it.
def reachesPower (k : Int) : Bool :=
  match toDouble false ⟨1, k⟩ with
  | .finite _ units _ =>
    10 ^ k.toNat * unitsPerOne ≤ units * 10 ^ (-k).toNat && k ≤ (shortest units).lead
  | _ => false

theorem value_one (k : Int) : value ⟨1, k⟩ = 10 ^ k := by
  simp [value]

theorem exists_of_reachesPower {k : Int} (h : reachesPower k = true) :
    ∃ units hr, toDouble false ⟨1, k⟩ = .finite false units hr ∧ (10 : ℚ) ^ k ≤ unitsValue units ∧
      k ≤ (shortest units).lead := by
  unfold reachesPower at h
  split at h
  case h_2 => cases h
  case h_1 negative units hr heq =>
    have hsign : negative = false := by
      rw [toDouble_eq_ofRatio, Double.ofRatio, Double.ofUnits] at heq
      split at heq
      · exact (Double.finite.inj heq).1.symm
      · cases heq
    subst hsign
    simp only [Bool.and_eq_true, decide_eq_true_eq] at h
    refine ⟨units, hr, heq, ?_, h.2⟩
    have hone : (0 : ℚ) < unitsPerOne := by exact_mod_cast unitsPerOne_pos
    have hpow : (0 : ℚ) < (10 ^ (-k).toNat : Nat) := by positivity
    rw [← value_one, value_eq_div, Nat.one_mul, unitsValue, div_le_div_iff₀ hpow hone]
    exact_mod_cast h.1

-- The decimal of a double starts at a power of ten, or above, exactly if the double does.
theorem le_lead_shortest_iff {k : Int} (hk : reachesPower k = true) {units : Nat}
    (hr : Representable units) (hne : units ≠ 0) :
    k ≤ (shortest units).lead ↔ (10 : ℚ) ^ k ≤ unitsValue units := by
  obtain ⟨power, hpower, hdouble, hreach, hlead⟩ := exists_of_reachesPower hk
  have hshortest := toDouble_shortest false hr
  have hdigits := digits_shortest_ne_zero hr hne
  constructor
  · intro h
    rw [le_lead_iff hdigits, ← value_one] at h
    have hle := units_le_of_value_le hdouble hshortest h
    exact le_trans hreach (unitsValue_le_iff.mpr hle)
  · intro h
    rw [← value_one] at h
    have hle := units_le_of_value_le_unitsValue hdouble hr h
    by_contra hlt
    rw [le_lead_iff hdigits, not_le, ← value_one] at hlt
    -- Below the power the decimal is rounded to the power's double at most, which is found for it.
    have hge := units_le_of_value_le hshortest hdouble (le_of_lt hlt)
    have heq : units = power := Nat.le_antisymm hge hle
    subst heq
    have hreached := (le_lead_iff hdigits k).mp hlead
    rw [value_one] at hlt
    exact absurd hreached (not_le.mpr hlt)

end Decimal

end LogSieve
