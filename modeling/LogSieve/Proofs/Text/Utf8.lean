import LogSieve.Text.Utf8
import Mathlib.Tactic.SplitIfs

namespace LogSieve.Utf8

theorem decodeFrom_within {value needed : Nat} {low high b : UInt8} (hlow : low ≤ b)
    (hhigh : b ≤ high) (rest : List UInt8) :
    decodeFrom (.within value needed low high) (b :: rest) =
      if needed = 1 then Char.ofNat (value * 64 + (b.toNat - 0x80)) :: decodeFrom .ready rest
      else decodeFrom (.within (value * 64 + (b.toNat - 0x80)) (needed - 1) 0x80 0xBF) rest := by
  simp only [decodeFrom, step, hlow, hhigh, and_self, if_true]
  split_ifs <;> rfl

theorem decodeFrom_lead {b : UInt8} {state : State} (hb : 0x80 ≤ b.toNat)
    (h : lead? b = some state) (rest : List UInt8) :
    decodeFrom .ready (b :: rest) = decodeFrom state rest := by
  have hn : ¬b < 0x80 := by
    rw [UInt8.lt_iff_toNat_lt]
    exact Nat.not_lt.mpr hb
  simp [decodeFrom, step, start, hn, h]

private theorem not_lt_of_le {b c : UInt8} (h : c.toNat ≤ b.toNat) : ¬b < c := by
  rw [UInt8.lt_iff_toNat_lt]
  exact Nat.not_lt.mpr h

theorem lead?_two {b : UInt8} (hlow : 0xC2 ≤ b.toNat) (hhigh : b.toNat < 0xE0) :
    lead? b = some (.within (b.toNat - 0xC0) 1 0x80 0xBF) := by
  have h₁ : ¬b < 0xC2 := not_lt_of_le hlow
  have h₂ : b < 0xE0 := UInt8.lt_iff_toNat_lt.mpr hhigh
  simp [lead?, h₁, h₂]

theorem lead?_three {b : UInt8} (hlow : 0xE0 ≤ b.toNat) (hhigh : b.toNat < 0xF0) :
    lead? b = some (.within (b.toNat - 0xE0) 2 (if b.toNat = 0xE0 then 0xA0 else 0x80)
      (if b.toNat = 0xED then 0x9F else 0xBF)) := by
  have h₁ : ¬b < 0xC2 := not_lt_of_le (Nat.le_trans (by decide) hlow)
  have h₂ : ¬b < 0xE0 := not_lt_of_le hlow
  have h₃ : b < 0xF0 := UInt8.lt_iff_toNat_lt.mpr hhigh
  simp only [lead?, h₁, h₂, h₃, ← UInt8.toNat_inj, if_false, if_true]
  split_ifs <;> simp_all

theorem lead?_four {b : UInt8} (hlow : 0xF0 ≤ b.toNat) (hhigh : b.toNat < 0xF5) :
    lead? b = some (.within (b.toNat - 0xF0) 3 (if b.toNat = 0xF0 then 0x90 else 0x80)
      (if b.toNat = 0xF4 then 0x8F else 0xBF)) := by
  have h₁ : ¬b < 0xC2 := not_lt_of_le (Nat.le_trans (by decide) hlow)
  have h₂ : ¬b < 0xE0 := not_lt_of_le (Nat.le_trans (by decide) hlow)
  have h₃ : ¬b < 0xF0 := not_lt_of_le hlow
  have h₄ : b.toNat ≠ 0xE0 ∧ b.toNat ≠ 0xED := by omega
  have h₅ : b < 0xF4 ↔ b.toNat < 0xF4 := UInt8.lt_iff_toNat_lt
  simp only [lead?, h₁, h₂, h₃, h₅, ← UInt8.toNat_inj, UInt8.reduceToNat, h₄.1, h₄.2, if_false]
  by_cases hfirst : b.toNat = 0xF0
  · simp [hfirst]
  · by_cases hlast : b.toNat = 0xF4
    · simp [hlast]
    · have : b.toNat < 0xF4 := by omega
      simp [hfirst, hlast, this]

-- The byte that carries the last six bits of a number.
theorem toNat_tail (k : Nat) : (0x80 + k % 64).toUInt8.toNat = 0x80 + k % 64 := by
  rw [Nat.toUInt8, UInt8.toNat_ofNat']
  omega

theorem decodeFrom_tail {value needed : Nat} {low high : UInt8} (k : Nat)
    (hlow : low.toNat ≤ 0x80 + k % 64) (hhigh : 0x80 + k % 64 ≤ high.toNat) (rest : List UInt8) :
    decodeFrom (.within value needed low high) ((0x80 + k % 64).toUInt8 :: rest) =
      if needed = 1 then Char.ofNat (value * 64 + k % 64) :: decodeFrom .ready rest
      else decodeFrom (.within (value * 64 + k % 64) (needed - 1) 0x80 0xBF) rest := by
  have hb := toNat_tail k
  have hle : low ≤ (0x80 + k % 64).toUInt8 := by
    rw [UInt8.le_iff_toNat_le, hb]
    exact hlow
  have hge : (0x80 + k % 64).toUInt8 ≤ high := by
    rw [UInt8.le_iff_toNat_le, hb]
    exact hhigh
  rw [decodeFrom_within hle hge, hb, Nat.add_sub_cancel_left]

private theorem toNat_toUInt8 {n : Nat} (h : n < 256) : n.toUInt8.toNat = n := by
  rw [Nat.toUInt8, UInt8.toNat_ofNat']
  exact Nat.mod_eq_of_lt h

theorem decodeFrom_encodeChar (c : Char) (rest : List UInt8) :
    decodeFrom .ready (encodeChar c ++ rest) = c :: decodeFrom .ready rest := by
  have hvalid : c.toNat < 0xD800 ∨ 0xDFFF < c.toNat ∧ c.toNat < 0x110000 := c.valid
  have hchar := Char.ofNat_toNat c
  unfold encodeChar
  generalize c.toNat = n at hvalid hchar
  simp only
  -- One case for each length, in which the number is put together from its six-bit parts.
  split_ifs with h₁ h₂ h₃
  · have hb : n.toUInt8.toNat = n := toNat_toUInt8 (by omega)
    have hlt : n.toUInt8 < 0x80 := by
      rw [UInt8.lt_iff_toNat_lt, hb]
      exact h₁
    simp [decodeFrom, step, start, hlt, hb, hchar]
  · have hb : (0xC0 + n / 64).toUInt8.toNat = 0xC0 + n / 64 := toNat_toUInt8 (by omega)
    rw [List.cons_append, decodeFrom_lead (by omega) (lead?_two (by omega) (by omega)), hb,
      List.cons_append, decodeFrom_tail n (by simp) (by simp; omega), if_pos rfl, List.nil_append,
      Nat.add_sub_cancel_left, Nat.div_add_mod' n 64, hchar]
  · have hb : (0xE0 + n / 4096).toUInt8.toNat = 0xE0 + n / 4096 := toNat_toUInt8 (by omega)
    have hvalue : (n / 4096 * 64 + n / 64 % 64) * 64 + n % 64 = n := by omega
    rw [List.cons_append, decodeFrom_lead (by omega) (lead?_three (by omega) (by omega)), hb,
      List.cons_append, decodeFrom_tail (n / 64) (by split_ifs <;> simp; omega)
        (by split_ifs <;> simp <;> omega),
      if_neg (by decide), List.cons_append, decodeFrom_tail n (by simp) (by simp; omega),
      if_pos rfl, List.nil_append, Nat.add_sub_cancel_left, hvalue, hchar]
  · have hb : (0xF0 + n / 262144).toUInt8.toNat = 0xF0 + n / 262144 := toNat_toUInt8 (by omega)
    have hvalue : ((n / 262144 * 64 + n / 4096 % 64) * 64 + n / 64 % 64) * 64 + n % 64 = n := by
      omega
    rw [List.cons_append, decodeFrom_lead (by omega) (lead?_four (by omega) (by omega)), hb,
      List.cons_append, decodeFrom_tail (n / 4096) (by split_ifs <;> simp; omega)
        (by split_ifs <;> simp <;> omega),
      if_neg (by decide), List.cons_append, decodeFrom_tail (n / 64) (by simp) (by simp; omega),
      if_neg (by decide), List.cons_append, decodeFrom_tail n (by simp) (by simp; omega),
      if_pos rfl, List.nil_append, Nat.add_sub_cancel_left, hvalue, hchar]

theorem decode_encode (text : List Char) : decode (encode text) = text := by
  unfold decode encode
  induction text with
  | nil => rfl
  | cons c text ih => rw [List.flatMap_cons, decodeFrom_encodeChar, ih]

-- Only a line break is written with the byte that breaks lines.
theorem newline_mem_encodeChar {c : Char} (h : (10 : UInt8) ∈ encodeChar c) : c = '\n' := by
  have hchar := Char.ofNat_toNat c
  have hvalid : c.toNat < 0xD800 ∨ 0xDFFF < c.toNat ∧ c.toNat < 0x110000 := c.valid
  unfold encodeChar at h
  generalize c.toNat = n at h hchar hvalid
  simp only at h
  have hbyte {k : Nat} (hk : (10 : UInt8) = k.toUInt8) (hlt : k < 256) : k = 10 := by
    rw [← toNat_toUInt8 hlt, ← hk]
    rfl
  have hhigh {k : Nat} (hk : (10 : UInt8) = k.toUInt8) (hlt : k < 256) (hle : 0x80 ≤ k) :
      False := by
    have := hbyte hk hlt
    omega
  split_ifs at h with h₁ h₂ h₃
  · rw [List.mem_singleton] at h
    rw [← hchar, hbyte h (by omega)]
  · simp only [List.mem_cons, List.not_mem_nil, or_false] at h
    rcases h with h | h <;> exact (hhigh h (by omega) (by omega)).elim
  · simp only [List.mem_cons, List.not_mem_nil, or_false] at h
    rcases h with h | h | h <;> exact (hhigh h (by omega) (by omega)).elim
  · simp only [List.mem_cons, List.not_mem_nil, or_false] at h
    rcases h with h | h | h | h <;> exact (hhigh h (by omega) (by omega)).elim

end LogSieve.Utf8
