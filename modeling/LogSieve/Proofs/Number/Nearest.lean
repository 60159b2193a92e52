import LogSieve.Proofs.Number.Monotone
import Mathlib.Data.Rat.Floor

namespace LogSieve

theorem natCast_lt_unitsValue_iff {n units : Nat} :
    (n : ℚ) < unitsValue units ↔ n * unitsPerOne < units := by
  have hone : (0 : ℚ) < unitsPerOne := by exact_mod_cast unitsPerOne_pos
  rw [unitsValue, lt_div_iff₀ hone]
  exact_mod_cast Iff.rfl

theorem unitsValue_lt_natCast_iff {n units : Nat} :
    unitsValue units < n ↔ units < n * unitsPerOne := by
  have hone : (0 : ℚ) < unitsPerOne := by exact_mod_cast unitsPerOne_pos
  rw [unitsValue, div_lt_iff₀ hone]
  exact_mod_cast Iff.rfl

theorem unitsValue_mul_unitsPerOne (n : Nat) : unitsValue (n * unitsPerOne) = n := by
  have hone : (unitsPerOne : ℚ) ≠ 0 := by exact_mod_cast unitsPerOne_pos.ne'
  rw [unitsValue, Nat.cast_mul, mul_div_assoc, div_self hone, mul_one]

theorem floor_unitsValue (units : Nat) : ⌊unitsValue units⌋ = (units / unitsPerOne : Nat) := by
  rw [unitsValue, Rat.floor_natCast_div_natCast]
  rfl

theorem log2_mul_pow_lt {n bits : Nat} (shift : Nat) (hn : n ≠ 0) (h : n < 2 ^ bits) :
    n * 2 ^ shift < 2 ^ (bits + shift) ∧ (n * 2 ^ shift).log2 < bits + shift := by
  have hpos : n * 2 ^ shift ≠ 0 := Nat.mul_ne_zero hn (Nat.two_pow_pos shift).ne'
  have hlt : n * 2 ^ shift < 2 ^ (bits + shift) := by
    rw [pow_add]
    exact Nat.mul_lt_mul_of_pos_right h (Nat.two_pow_pos shift)
  exact ⟨hlt, (Nat.log2_lt hpos).mpr hlt⟩

theorem representable_whole {n : Nat} (h : n < 2 ^ 53) : Representable (n * unitsPerOne) := by
  by_cases hn : n = 0
  · rw [hn, Nat.zero_mul]
    exact representable_zero
  rw [unitsPerOne_eq]
  obtain ⟨hlt, hlog⟩ := log2_mul_pow_lt 1074 hn h
  refine ⟨?_, ?_⟩
  · rw [unitsBound_eq]
    exact hlt.trans_le (pow_le_pow_right₀ one_le_two (by decide))
  · generalize 1074 = shift at hlog ⊢
    have hgrid : 2 ^ ((n * 2 ^ shift).log2 - 52) ∣ 2 ^ shift := pow_dvd_pow 2 (by omega)
    exact Nat.mod_eq_zero_of_dvd (hgrid.mul_left n)

namespace Double

theorem sign_of_ofUnits {negative sign : Bool} {units found : Nat} {hr : Representable found}
    (h : ofUnits negative units = .finite sign found hr) : sign = negative := by
  rw [ofUnits] at h
  split at h
  · cases h
    rfl
  · cases h

end Double

namespace Decimal

-- The number that the nearest double is; zero where there is no finite one.
def nearest (number : Decimal) : ℚ :=
  match number.toDouble false with
  | .finite _ units _ => unitsValue units
  | _ => 0

theorem nearest_of_toDouble {number : Decimal} {sign : Bool} {units : Nat}
    {hr : Representable units} (h : number.toDouble false = .finite sign units hr) :
    number.nearest = unitsValue units := by
  rw [nearest, h]

theorem sign_of_toDouble {number : Decimal} {negative sign : Bool} {units : Nat}
    {hr : Representable units} (h : number.toDouble negative = .finite sign units hr) :
    sign = negative := by
  rw [toDouble_eq_ofRatio] at h
  exact Double.sign_of_ofUnits h

theorem exists_toDouble_of_nearest {number : Decimal} (h : 0 < number.nearest) :
    ∃ units hr, number.toDouble false = .finite false units hr := by
  rw [nearest] at h
  cases hdouble : number.toDouble false with
  | finite sign units hr =>
    have hsign := sign_of_toDouble hdouble
    subst hsign
    exact ⟨units, hr, rfl⟩
  | infinite sign =>
    rw [hdouble] at h
    exact absurd h (lt_irrefl 0)
  | nan =>
    rw [hdouble] at h
    exact absurd h (lt_irrefl 0)

-- A whole number that is not rounded beyond 53 bits is not rounded at all.
theorem nearest_of_whole {number : Decimal} {n bound : Nat} (hvalue : number.value = n)
    (hbound : bound ≤ 2 ^ 53) (hlow : 0 < number.nearest) (hhigh : number.nearest < bound) :
    number.nearest = n := by
  have hratio : number.toDouble false = .ofRatio false n 1 :=
    toDouble_of_value_eq false Nat.one_pos (by rw [hvalue, Nat.cast_one, div_one])
  by_cases hn : n < 2 ^ 53
  · have hdouble := hratio.trans (Double.ofRatio_whole false (representable_whole hn) rfl)
    rw [nearest_of_toDouble hdouble, unitsValue_mul_unitsPerOne]
  · -- Rounding does not cross the power of two.
    obtain ⟨units, hr, hdouble⟩ := exists_toDouble_of_nearest hlow
    have hunits : units < bound * unitsPerOne := by
      rw [← unitsValue_lt_natCast_iff, ← nearest_of_toDouble hdouble]
      exact hhigh
    have hround := Double.roundSignificant_of_ofRatio (hratio.symm.trans hdouble)
    have hpow : 2 ^ (53 + 1074) ≤ n * unitsPerOne / 1 := by
      rw [Nat.div_one, pow_add, ← unitsPerOne_eq]
      exact Nat.mul_le_mul_right _ (by omega)
    have hlarge := pow_le_roundSignificant hpow
    rw [hround, pow_add, ← unitsPerOne_eq] at hlarge
    have hless := hlarge.trans_lt hunits
    exact absurd (Nat.lt_of_mul_lt_mul_right hless) (by omega)

end Decimal

end LogSieve
