import LogSieve.Proofs.Number.Magnitude
import LogSieve.Record.Canonical
import LogSieve.Json.Writer

namespace LogSieve

namespace NumberStyle

theorem exponent_mem_scientific (style : NumberStyle) (d : Decimal) :
    'e' ∈ style.scientific d := by
  simp [scientific, exponentText]

theorem ne_exponent_of_mem_toDigits {n : Nat} {c : Char} (h : c ∈ Nat.toDigits 10 n) : c ≠ 'e' := by
  rintro rfl
  have hdigit : 'e'.isDigit = true := Nat.isDigit_of_mem_toDigits (by decide) (by decide) h
  exact absurd hdigit (by decide)

theorem exponent_not_mem_positional (d : Decimal) : 'e' ∉ positional d := by
  have hdigits : 'e' ∉ Nat.toDigits 10 d.digits := fun h => ne_exponent_of_mem_toDigits h rfl
  have htake (n : Nat) : 'e' ∉ (Nat.toDigits 10 d.digits).take n := fun h =>
    hdigits (List.mem_of_mem_take h)
  have hdrop (n : Nat) : 'e' ∉ (Nat.toDigits 10 d.digits).drop n := fun h =>
    hdigits (List.mem_of_mem_drop h)
  unfold positional
  simp only
  split_ifs <;> simp [hdigits, htake, hdrop, List.mem_replicate]

theorem positional_ne_scientific (style : NumberStyle) (d : Decimal) :
    positional d ≠ style.scientific d := by
  intro h
  exact exponent_not_mem_positional d (h ▸ style.exponent_mem_scientific d)

theorem length_exponentText (style : NumberStyle) (e : Int) :
    (style.exponentText e).length = max style.exponentWidth (Nat.toDigits 10 e.natAbs).length + 2 := by
  simp only [exponentText, List.length_cons, List.length_append, List.length_replicate]
  omega

theorem exponentText_standalone_eq_json_iff (e : Int) :
    standalone.exponentText e = json.exponentText e ↔ 10 ≤ e.natAbs := by
  have hbound : 10 ≤ e.natAbs ↔ 2 ≤ (Nat.toDigits 10 e.natAbs).length := by
    by_cases h : e.natAbs < 10
    · rw [Nat.toDigits_of_lt_base h]
      simp only [List.length_singleton]
      omega
    · have hrest : Nat.toDigits 10 (e.natAbs / 10) ≠ [] := Nat.toDigits_ne_nil
      have hpos := List.length_pos_iff.mpr hrest
      rw [Nat.toDigits_of_base_le (by decide) (by omega), List.length_append,
        List.length_singleton]
      omega
  rw [hbound]
  constructor
  · intro h
    have hlength := congrArg List.length h
    rw [length_exponentText, length_exponentText] at hlength
    simp only [standalone, json] at hlength
    omega
  · intro h
    have hstandalone : 2 - (Nat.toDigits 10 e.natAbs).length = 0 := by omega
    have hjson : 1 - (Nat.toDigits 10 e.natAbs).length = 0 := by omega
    simp only [exponentText, standalone, json, hstandalone, hjson]

theorem scientific_standalone_eq_json_iff (d : Decimal) :
    standalone.scientific d = json.scientific d ↔ 10 ≤ d.lead.natAbs := by
  rw [← exponentText_standalone_eq_json_iff]
  unfold scientific Decimal.lead
  exact List.append_right_inj _

theorem decimal_eq (style : NumberStyle) (d : Decimal) :
    style.decimal d =
      if style.lowest ≤ d.lead ∧ d.lead ≤ style.highest then positional d else style.scientific d :=
  rfl

theorem decimal_standalone_eq_json_iff (d : Decimal) :
    standalone.decimal d = json.decimal d ↔
      ¬(-9 ≤ d.lead ∧ d.lead < -4) ∧ ¬(16 ≤ d.lead ∧ d.lead < 21) := by
  have hstandalone : standalone.lowest = -4 ∧ standalone.highest = 15 := ⟨rfl, rfl⟩
  have hjson : json.lowest = -5 ∧ json.highest = 20 := ⟨rfl, rfl⟩
  rw [decimal_eq, decimal_eq, hstandalone.1, hstandalone.2, hjson.1, hjson.2]
  by_cases hpoint : -4 ≤ d.lead ∧ d.lead ≤ 15
  · have hwide : -5 ≤ d.lead ∧ d.lead ≤ 20 := by omega
    rw [if_pos hpoint, if_pos hwide]
    exact iff_of_true rfl (by omega)
  · rw [if_neg hpoint]
    by_cases hwide : -5 ≤ d.lead ∧ d.lead ≤ 20
    · rw [if_pos hwide]
      exact iff_of_false (positional_ne_scientific standalone d).symm (by omega)
    · rw [if_neg hwide, scientific_standalone_eq_json_iff]
      omega

end NumberStyle

namespace Double

def magnitude : Double → ℚ
  | .finite _ units _ => unitsValue units
  | _ => 0

theorem exists_of_whole? {x : Double} {i : Int} (h : x.whole? = some i) :
    x.magnitude = i.natAbs ∧ i.natAbs < 10 ^ 21 := by
  obtain ⟨hint, hsmall⟩ := Option.filter_eq_some_iff.mp h
  obtain ⟨negative, units, hr, rfl, hunits, -⟩ := exists_of_toInt? hint
  refine ⟨?_, of_decide_eq_true hsmall⟩
  have hone : (unitsPerOne : ℚ) ≠ 0 := by exact_mod_cast unitsPerOne_pos.ne'
  rw [magnitude, unitsValue, ← hunits, Nat.cast_mul, mul_div_cancel_right₀ _ hone]

theorem whole?_of_magnitude (negative : Bool) {units : Nat} (hr : Representable units)
    (hlow : 10 ^ 16 ≤ unitsValue units) (hhigh : unitsValue units < 10 ^ 21) :
    ∃ i, (Double.finite negative units hr).whole? = some i := by
  have hone : (0 : ℚ) < unitsPerOne := by exact_mod_cast unitsPerOne_pos
  rw [unitsValue, le_div_iff₀ hone] at hlow
  rw [unitsValue, div_lt_iff₀ hone] at hhigh
  have hlow : 10 ^ 16 * unitsPerOne ≤ units := by exact_mod_cast hlow
  have hhigh : units < 10 ^ 21 * unitsPerOne := by exact_mod_cast hhigh
  -- From `2 ^ 53` on the grid of doubles is one of whole numbers.
  have hlog : 1126 ≤ units.log2 := by
    have hne : units ≠ 0 := by
      have hpos := unitsPerOne_pos
      omega
    rw [Nat.le_log2 hne]
    calc
      2 ^ 1126 = 2 ^ 52 * unitsPerOne := by rw [unitsPerOne_eq, ← pow_add]
      _ ≤ 10 ^ 16 * unitsPerOne := Nat.mul_le_mul_right _ (by decide)
      _ ≤ units := hlow
  have hgrid : unitsPerOne ∣ units := by
    have hexp : 1074 ≤ units.log2 - 52 := by omega
    have hmod : units % 2 ^ (units.log2 - 52) = 0 := hr.2
    rw [unitsPerOne_eq]
    generalize 1074 = n at hexp ⊢
    exact (Nat.pow_dvd_pow 2 hexp).trans (Nat.dvd_of_mod_eq_zero hmod)
  have hsmall : units / unitsPerOne < 10 ^ 21 := (Nat.div_lt_iff_lt_mul unitsPerOne_pos).mpr hhigh
  refine ⟨if negative then -(units / unitsPerOne : Nat) else (units / unitsPerOne : Nat), ?_⟩
  rw [whole?, Option.filter_eq_some_iff, toInt?, if_pos (Nat.mod_eq_zero_of_dvd hgrid)]
  refine ⟨rfl, decide_eq_true ?_⟩
  cases negative with
  | false => exact hsmall
  | true =>
    rw [if_pos rfl, Int.natAbs_neg]
    exact hsmall

theorem reachesPower_smallest : Decimal.reachesPower (-9) = true := by decide +kernel

theorem reachesPower_small : Decimal.reachesPower (-4) = true := by decide +kernel

theorem reachesPower_large : Decimal.reachesPower 16 = true := by decide +kernel

theorem reachesPower_largest : Decimal.reachesPower 21 = true := by decide +kernel

-- What is not written digit by digit is nowhere between the powers at which only one of the two ways
-- of writing takes an exponent for its size.
theorem lead_of_whole?_eq_none {negative : Bool} {units : Nat} {hr : Representable units}
    (h : (Double.finite negative units hr).whole? = none) (hne : units ≠ 0) :
    ¬(16 ≤ (Decimal.shortest units).lead ∧ (Decimal.shortest units).lead < 21) := by
  rintro ⟨hlow, hhigh⟩
  rw [Decimal.le_lead_shortest_iff reachesPower_large hr hne] at hlow
  rw [← Int.not_le, Decimal.le_lead_shortest_iff reachesPower_largest hr hne, not_le] at hhigh
  obtain ⟨i, hi⟩ := whole?_of_magnitude negative hr
    (by exact_mod_cast hlow) (by exact_mod_cast hhigh)
  rw [h] at hi
  cases hi

-- A number is written alike on its own and inside JSON unless its size lies between `10 ^ -9` and
-- `10 ^ -4`.
theorem canonical_eq_compact_iff {x : Double} (hx : x.isFinite = true) :
    x.canonical = (Value.number x).toJson.compact ↔
      ¬((10 : ℚ) ^ (-9 : Int) ≤ x.magnitude ∧ x.magnitude < (10 : ℚ) ^ (-4 : Int)) := by
  cases hwhole : x.whole? with
  | some i =>
    obtain ⟨hmagnitude, -⟩ := exists_of_whole? hwhole
    simp only [canonical, Value.toJson, hwhole, Option.map_some, Option.getD_some, Json.compact,
      true_iff, hmagnitude]
    rintro ⟨hlow, hhigh⟩
    -- A whole number below one is zero.
    have hlt : ((i.natAbs : Nat) : ℚ) < 1 := lt_trans hhigh (by norm_num)
    have hzero : i.natAbs = 0 := by
      have hlt : i.natAbs < 1 := by exact_mod_cast hlt
      omega
    rw [hzero] at hlow
    norm_num at hlow
  | none =>
    cases x with
    | infinite negative => cases hx
    | nan => cases hx
    | finite negative units hr =>
      have hne : units ≠ 0 := by
        rintro rfl
        simp [whole?, toInt?] at hwhole
      have hlarge := lead_of_whole?_eq_none hwhole hne
      simp only [canonical, Value.toJson, hwhole, Option.map_none, Option.getD_none, Json.compact,
        Json.writeReal, hx, if_true, NumberStyle.write, List.append_right_inj,
        NumberStyle.decimal_standalone_eq_json_iff, hlarge, not_false_eq_true, and_true]
      rw [← Int.not_le, Decimal.le_lead_shortest_iff reachesPower_smallest hr hne,
        Decimal.le_lead_shortest_iff reachesPower_small hr hne, not_le]
      exact Iff.rfl

end Double

end LogSieve
