import LogSieve.Proofs.Number.Rounding
import Mathlib.Data.Rat.Cast.Order
import Mathlib.Tactic.FieldSimp
import Mathlib.Tactic.Ring

namespace LogSieve

namespace Decimal

def value (d : Decimal) : ℚ :=
  d.digits * 10 ^ d.exponent

theorem value_eq_div (d : Decimal) :
    d.value = ((d.digits * 10 ^ d.exponent.toNat : Nat) : ℚ) / (10 ^ (-d.exponent).toNat : Nat) := by
  unfold value
  rcases Int.le_total 0 d.exponent with h | h
  · obtain ⟨n, hn⟩ := Int.eq_ofNat_of_zero_le h
    rw [hn]
    simp
  · obtain ⟨n, hn⟩ := Int.exists_eq_neg_ofNat h
    rw [hn]
    simp [div_eq_mul_inv]

theorem toDouble_of_value_eq {d : Decimal} {num den : Nat} (negative : Bool) (hden : 0 < den)
    (h : d.value = (num : ℚ) / den) : d.toDouble negative = .ofRatio negative num den := by
  have hten : 0 < 10 ^ (-d.exponent).toNat := Nat.pow_pos (by decide)
  rw [toDouble_eq_ofRatio]
  apply Double.ofRatio_congr negative hten hden
  have hd : (den : ℚ) ≠ 0 := by exact_mod_cast hden.ne'
  have ht : ((10 ^ (-d.exponent).toNat : Nat) : ℚ) ≠ 0 := by exact_mod_cast hten.ne'
  rw [value_eq_div, div_eq_div_iff ht hd] at h
  exact_mod_cast h

theorem toDouble_congr (negative : Bool) {d e : Decimal} (h : d.value = e.value) :
    d.toDouble negative = e.toDouble negative := by
  rw [toDouble_eq_ofRatio negative e]
  exact toDouble_of_value_eq negative (Nat.pow_pos (by decide)) (h.trans (value_eq_div e))

theorem value_shift (n k : Nat) (e : Int) : value ⟨n * 10 ^ k, e - k⟩ = value ⟨n, e⟩ := by
  have hten : (10 : ℚ) ≠ 0 := by norm_num
  simp only [value, zpow_sub₀ hten, zpow_natCast]
  push_cast
  field_simp

theorem value_dropZeros (limit : Nat) (d : Decimal) : (dropZeros limit d).value = d.value := by
  induction limit generalizing d with
  | zero => rfl
  | succ limit ih =>
    unfold dropZeros
    split_ifs with h
    · obtain ⟨k, hk⟩ := Nat.dvd_of_mod_eq_zero h.2
      have hshift := value_shift k 1 (d.exponent + 1)
      rw [ih, hk, Nat.mul_div_cancel_left k (by decide), ← hshift]
      simp [value, hk, Nat.mul_comm]
    · rfl

theorem toDouble_of_readsBack (negative : Bool) {units : Nat} {d : Decimal}
    (h : Representable units) (hd : readsBack units d = true) :
    d.toDouble negative = .finite negative units h := by
  rw [readsBack, beq_iff_eq, toDouble_eq_ofRatio, Double.ofUnits_of_representable false h,
    Double.ofRatio] at hd
  rw [toDouble_eq_ofRatio, Double.ofRatio]
  unfold Double.ofUnits at hd ⊢
  split_ifs at hd ⊢ with hr
  simp only [Double.finite.injEq, true_and] at hd ⊢
  exact hd

theorem toDouble_shortest (negative : Bool) {units : Nat} (h : Representable units) :
    (shortest units).toDouble negative = .finite negative units h := by
  unfold shortest
  split_ifs with hz
  · subst hz
    rw [toDouble, if_pos rfl, Double.ofUnits_of_representable negative h]
  · simp only
    rw [toDouble_congr negative (value_dropZeros _ _)]
    cases hf : List.find? (readsBack units) _ with
    | none => exact toDouble_exact negative h
    | some found => exact toDouble_of_readsBack negative h (List.find?_some hf)

theorem digits_shortest_ne_zero {units : Nat} (h : Representable units) (hu : units ≠ 0) :
    (shortest units).digits ≠ 0 := by
  intro hz
  have hd := toDouble_shortest false h
  rw [toDouble, if_pos hz, Double.ofUnits_of_representable false representable_zero] at hd
  simp only [Double.finite.injEq, true_and] at hd
  exact hu hd.symm

end Decimal

namespace Double

theorem exists_of_toInt? {x : Double} {i : Int} (h : x.toInt? = some i) :
    ∃ negative units hr, x = .finite negative units hr ∧ i.natAbs * unitsPerOne = units ∧
      (i < 0 ↔ negative = true ∧ units ≠ 0) := by
  cases x with
  | infinite negative => simp [toInt?] at h
  | nan => simp [toInt?] at h
  | finite negative units hr =>
    simp only [toInt?] at h
    split at h
    · rename_i hwhole
      have hdiv := Nat.div_mul_cancel (Nat.dvd_of_mod_eq_zero hwhole)
      generalize units / unitsPerOne = n at h hdiv
      have hzero : units = 0 ↔ n = 0 := by
        rw [← hdiv, Nat.mul_eq_zero]
        have := unitsPerOne_pos
        omega
      refine ⟨negative, units, hr, rfl, ?_, ?_⟩
      · cases negative <;> simp only [Option.some.injEq] at h <;> subst h <;> simpa using hdiv
      · rw [ne_eq, hzero]
        cases negative with
        | false =>
          simp only [Bool.false_eq_true, if_false, Option.some.injEq] at h
          simp only [Bool.false_eq_true, false_and, iff_false]
          omega
        | true =>
          simp only [if_true, Option.some.injEq] at h
          simp only [true_and]
          omega
    · simp at h

theorem ofRatio_whole {n units : Nat} (negative : Bool) (hr : Representable units)
    (hn : n * unitsPerOne = units) : ofRatio negative n 1 = .finite negative units hr := by
  rw [← ofRatio_unitsPerOne negative hr]
  apply ofRatio_congr negative (by decide) unitsPerOne_pos
  rw [hn, Nat.mul_one]

-- A whole number denotes the double it was taken from, but for the sign of zero.
theorem equal_ofInt {x : Double} {i : Int} (h : x.toInt? = some i) : (ofInt i).equal x = true := by
  obtain ⟨negative, units, hr, rfl, hi, hneg⟩ := exists_of_toInt? h
  rw [ofInt, ofRatio_whole _ hr hi]
  simp only [equal, beq_self_eq_true, Bool.true_and, Bool.or_eq_true, beq_iff_eq]
  by_cases hz : units = 0
  · exact .inr hz
  · left
    cases negative <;> simp [hneg, hz]

theorem toInt?_eq_of_equal {x y : Double} (h : x.equal y = true) : x.toInt? = y.toInt? := by
  cases x with
  | infinite s => cases y <;> simp_all [equal, toInt?]
  | nan => simp [equal] at h
  | finite s m hm =>
    cases y with
    | infinite t => simp [equal] at h
    | nan => simp [equal] at h
    | finite t n hn =>
      simp only [equal, Bool.and_eq_true, beq_iff_eq, Bool.or_eq_true] at h
      obtain ⟨rfl, rfl | rfl⟩ := h
      · rfl
      · simp [toInt?]

-- Only zero has two doubles that are equal.
theorem eq_of_equal {x y : Double} (h : x.equal y = true) (hx : x.toInt? ≠ some 0) : x = y := by
  cases x with
  | infinite s => cases y <;> simp_all [equal]
  | nan => simp [equal] at h
  | finite s m hm =>
    cases y with
    | infinite t => simp [equal] at h
    | nan => simp [equal] at h
    | finite t n hn =>
      simp only [equal, Bool.and_eq_true, beq_iff_eq, Bool.or_eq_true] at h
      obtain ⟨rfl, rfl | rfl⟩ := h
      · rfl
      · simp [toInt?] at hx

end Double

end LogSieve
