import LogSieve.Proofs.Text.Blank
import LogSieve.Proofs.Text.Utf8
import Mathlib.Tactic.Ring

namespace LogSieve

namespace Utf8

-- What holds of every state that reading comes to: no ASCII byte continues a character that was
-- begun, and what it comes to is not ASCII.
def State.Sound : State → Prop
  | .ready => True
  | .within value needed low _ =>
    0x80 ≤ low.toNat ∧ 0 < needed ∧ 0x80 ≤ (value * 64 + (low.toNat - 0x80)) * 64 ^ (needed - 1)

theorem State.sound_ready : State.ready.Sound := trivial

theorem toNat_ofNat_of_valid {n : Nat} (h : n.isValidChar) : (Char.ofNat n).toNat = n := by
  rw [Char.ofNat, dif_pos h]
  rfl

theorem toNat_ofNat_of_lt {n : Nat} (h : n < 0x80) : (Char.ofNat n).toNat = n :=
  toNat_ofNat_of_valid (.inl (by omega))

-- A number that is no character stands for none but NUL.
theorem eq_toNat_of_ofNat {n : Nat} {c : Char} (h : Char.ofNat n = c) (hpos : 0 < c.toNat) :
    n = c.toNat := by
  subst h
  by_cases hvalid : n.isValidChar
  · exact (toNat_ofNat_of_valid hvalid).symm
  · have hn : (Char.ofNat n).toNat = 0 := by
      rw [Char.ofNat, dif_neg hvalid]
      rfl
    omega

theorem ofNat_ne_of_le {n : Nat} {c : Char} (h : 0x80 ≤ n) (hpos : 0 < c.toNat)
    (hc : c.toNat < 0x80) : Char.ofNat n ≠ c := by
  intro heq
  have hn := eq_toNat_of_ofNat heq hpos
  omega

theorem sound_lead? {b : UInt8} {state : State} (h : lead? b = some state) :
    state.Sound ∧ state ≠ .ready := by
  simp only [lead?, UInt8.lt_iff_toNat_lt, ← UInt8.toNat_inj, UInt8.reduceToNat] at h
  split_ifs at h <;> cases h <;> refine ⟨?_, by simp⟩ <;> simp [State.Sound] <;> omega

theorem sound_start (b : UInt8) : (start b).2.Sound := by
  unfold start
  split
  · trivial
  · split
    · rename_i hlead
      exact (sound_lead? hlead).1
    · trivial

theorem sound_step {state : State} (h : state.Sound) (b : UInt8) : (step state b).2.Sound := by
  cases state with
  | ready => exact sound_start b
  | within value needed low high =>
    obtain ⟨hlow, hneeded, hvalue⟩ := h
    simp only [step]
    split
    · rename_i hb
      split
      · trivial
      · rename_i hmore
        rw [UInt8.le_iff_toNat_le, UInt8.le_iff_toNat_le] at hb
        refine ⟨Nat.le_refl _, by omega, ?_⟩
        obtain ⟨more, rfl⟩ : ∃ more, needed = more + 2 := ⟨needed - 2, by omega⟩
        calc 0x80 ≤ (value * 64 + (low.toNat - 0x80)) * 64 ^ (more + 1) := hvalue
          _ ≤ (value * 64 + (b.toNat - 0x80)) * 64 ^ (more + 1) :=
            Nat.mul_le_mul_right _ (by omega)
          _ = ((value * 64 + (b.toNat - 0x80)) * 64 + 0) * 64 ^ more := by ring
    · exact sound_start b

theorem decodeFrom_ascii {state : State} (h : state.Sound) {b : UInt8} (hb : b.toNat < 0x80)
    (rest : List UInt8) :
    decodeFrom state (b :: rest) = finish state ++ Char.ofNat b.toNat :: decodeFrom .ready rest := by
  have hstart : start b = ([Char.ofNat b.toNat], .ready) := by
    rw [start, if_pos (UInt8.lt_iff_toNat_lt.mpr hb)]
  cases state with
  | ready => simp [decodeFrom, step, finish, hstart]
  | within value needed low high =>
    have hlow : ¬low ≤ b := by
      rw [UInt8.le_iff_toNat_le]
      have := h.1
      omega
    simp [decodeFrom, step, finish, hlow, hstart]

-- An ASCII byte cuts bytes into two that read apart.
theorem decodeFrom_append_ascii {state : State} (h : state.Sound) (front : List UInt8) {b : UInt8}
    (hb : b.toNat < 0x80) (rest : List UInt8) :
    decodeFrom state (front ++ b :: rest) =
      decodeFrom state front ++ Char.ofNat b.toNat :: decodeFrom .ready rest := by
  induction front generalizing state with
  | nil => exact decodeFrom_ascii h hb rest
  | cons first front ih =>
    simp only [List.cons_append, decodeFrom, ih (sound_step h first), List.append_assoc]

theorem decode_surround {front back : List UInt8} (hfront : ∀ b ∈ front, b.toNat < 0x80)
    (hback : ∀ b ∈ back, b.toNat < 0x80) (bytes : List UInt8) :
    decode (front ++ bytes ++ back) =
      front.map (Char.ofNat ·.toNat) ++ decode bytes ++ back.map (Char.ofNat ·.toNat) := by
  have hbefore {ascii : List UInt8} (h : ∀ b ∈ ascii, b.toNat < 0x80) (rest : List UInt8) :
      decode (ascii ++ rest) = ascii.map (Char.ofNat ·.toNat) ++ decode rest := by
    induction ascii with
    | nil => rfl
    | cons b ascii ih =>
      obtain ⟨hb, hmore⟩ := List.forall_mem_cons.mp h
      exact (decodeFrom_ascii State.sound_ready hb _).trans (congrArg (_ :: ·) (ih hmore))
  rw [List.append_assoc, hbefore hfront, List.append_assoc]
  cases back with
  | nil => simp
  | cons b back =>
    obtain ⟨hb, hmore⟩ := List.forall_mem_cons.mp hback
    have hend := hbefore hmore []
    rw [List.append_nil, show decode [] = [] from rfl, List.append_nil] at hend
    have hcut : decode (bytes ++ b :: back) = decode bytes ++ Char.ofNat b.toNat :: decode back :=
      decodeFrom_append_ascii State.sound_ready bytes hb back
    rw [hcut, hend]
    rfl

theorem eq_of_mem_start {b : UInt8} {d : Char} (hd : d.toNat < 0x80) (h : d ∈ (start b).1) :
    b.toNat = d.toNat := by
  unfold start at h
  split at h
  · rename_i hb
    rw [List.mem_singleton] at h
    rw [h, toNat_ofNat_of_lt (UInt8.lt_iff_toNat_lt.mp hb)]
  · split at h
    · simp at h
    · rw [List.mem_singleton] at h
      subst h
      exact absurd hd (by decide)

theorem eq_of_mem_step {state : State} (hstate : state.Sound) {b : UInt8} {d : Char}
    (hpos : 0 < d.toNat) (hd : d.toNat < 0x80) (h : d ∈ (step state b).1) :
    b.toNat = d.toNat := by
  cases state with
  | ready => exact eq_of_mem_start hd h
  | within value needed low high =>
    simp only [step] at h
    split at h
    · rename_i hb
      split at h
      · rename_i hlast
        subst hlast
        have hvalue := hstate.2.2
        rw [UInt8.le_iff_toNat_le] at hb
        rw [List.mem_singleton] at h
        exact absurd h.symm (ofNat_ne_of_le (by omega) hpos hd)
      · simp at h
    · rcases List.mem_cons.mp h with rfl | h
      · exact absurd hd (by decide)
      · exact eq_of_mem_start hd h

theorem exists_mem_of_mem_decodeFrom {state : State} (hstate : state.Sound) {bytes : List UInt8}
    {d : Char} (hpos : 0 < d.toNat) (hd : d.toNat < 0x80) (h : d ∈ decodeFrom state bytes) :
    ∃ b ∈ bytes, b.toNat = d.toNat := by
  induction bytes generalizing state with
  | nil =>
    cases state with
    | ready => simp [decodeFrom, finish] at h
    | within value needed low high =>
      rw [decodeFrom, finish, List.mem_singleton] at h
      subst h
      exact absurd hd (by decide)
  | cons b bytes ih =>
    rw [decodeFrom] at h
    rcases List.mem_append.mp h with h | h
    · exact ⟨b, by simp, eq_of_mem_step hstate hpos hd h⟩
    · obtain ⟨other, hmem, hother⟩ := ih (sound_step hstate b) h
      exact ⟨other, List.mem_cons_of_mem b hmem, hother⟩

-- Inside a character that is not ASCII, no ASCII character comes next.
theorem exists_cons_within {state : State} (h : state.Sound) (hne : state ≠ .ready) {d : Char}
    (hpos : 0 < d.toNat) (hd : d.toNat < 0x80) (bytes : List UInt8) :
    ∃ c text, decodeFrom state bytes = c :: text ∧ c ≠ d := by
  have hreplaced : replacementChar ≠ d := by
    rintro rfl
    exact absurd hd (by decide)
  induction bytes generalizing state with
  | nil =>
    cases state with
    | ready => exact absurd rfl hne
    | within value needed low high => exact ⟨replacementChar, [], rfl, hreplaced⟩
  | cons b bytes ih =>
    cases state with
    | ready => exact absurd rfl hne
    | within value needed low high =>
      have hnext := sound_step h b
      simp only [decodeFrom]
      simp only [step] at hnext ⊢
      split
      · rename_i hb
        rw [if_pos hb] at hnext
        split
        · rename_i hlast
          subst hlast
          have hvalue := h.2.2
          rw [UInt8.le_iff_toNat_le] at hb
          refine ⟨_, _, rfl, ofNat_ne_of_le ?_ hpos hd⟩
          omega
        · rename_i hmore
          rw [if_neg hmore] at hnext
          exact ih hnext (by simp)
      · exact ⟨replacementChar, _, rfl, hreplaced⟩

theorem exists_decode_cons (b : UInt8) (rest : List UInt8) {d : Char} (hpos : 0 < d.toNat)
    (hd : d.toNat < 0x80) :
    ∃ c text, decode (b :: rest) = c :: text ∧ (c = d ↔ b = d.toNat.toUInt8) := by
  have hbyte : b = d.toNat.toUInt8 ↔ b.toNat = d.toNat := by
    rw [← UInt8.toNat_inj, Nat.toUInt8, UInt8.toNat_ofNat', Nat.mod_eq_of_lt (by omega)]
  by_cases hb : b.toNat < 0x80
  · refine ⟨_, _, decodeFrom_ascii State.sound_ready hb rest, ?_⟩
    rw [hbyte]
    constructor
    · rintro rfl
      exact (toNat_ofNat_of_lt hb).symm
    · intro h
      rw [h, Char.ofNat_toNat]
  · have hother : b ≠ d.toNat.toUInt8 := by
      rw [ne_eq, hbyte]
      omega
    have hascii : ¬b < 0x80 := fun h => hb (UInt8.lt_iff_toNat_lt.mp h)
    cases hlead : lead? b with
    | none =>
      refine ⟨replacementChar, decodeFrom .ready rest, ?_, ?_⟩
      · simp [decode, decodeFrom, step, start, hascii, hlead]
      · refine iff_of_false ?_ hother
        rintro rfl
        exact absurd hd (by decide)
    | some state =>
      obtain ⟨hsound, hne⟩ := sound_lead? hlead
      obtain ⟨c, text, htext, hc⟩ := exists_cons_within hsound hne hpos hd rest
      refine ⟨c, text, ?_, iff_of_false hc hother⟩
      rw [decode, decodeFrom_lead (Nat.le_of_not_lt hb) hlead, htext]

end Utf8

theorem blank_of_isBlankByte {b : UInt8} (h : isBlankByte b = true) :
    b.toNat < 0x80 ∧ isBlank (Char.ofNat b.toNat) = true := by
  have hrange : 9 ≤ b.toNat ∧ b.toNat ≤ 13 ∨ b.toNat = 32 := by
    simpa [isBlankByte, UInt8.le_iff_toNat_le, ← UInt8.toNat_inj] using h
  have hb : b.toNat < 0x80 := by omega
  refine ⟨hb, ?_⟩
  simp only [isBlank, blankRanges, Ranges.contains, Utf8.toNat_ofNat_of_lt hb, List.any_cons,
    Bool.or_eq_true, Bool.and_eq_true, decide_eq_true_eq]
  omega

-- White space among the bytes around others is white space around their text.
theorem trim_decode (line : List UInt8) :
    trim (Utf8.decode line) = trim (Utf8.decode (trimBytes line)) := by
  obtain ⟨front, back, hline, hfront, hback⟩ := exists_surround isBlankByte line
  have hascii {bytes : List UInt8} (h : ∀ b ∈ bytes, isBlankByte b = true) :
      ∀ b ∈ bytes, b.toNat < 0x80 := fun b hb => (blank_of_isBlankByte (h b hb)).1
  have hblank {bytes : List UInt8} (h : ∀ b ∈ bytes, isBlankByte b = true) :
      ∀ c ∈ bytes.map (Char.ofNat ·.toNat), isBlank c = true := by
    intro c hc
    obtain ⟨b, hb, rfl⟩ := List.mem_map.mp hc
    exact (blank_of_isBlankByte (h b hb)).2
  calc trim (Utf8.decode line)
      = trim (Utf8.decode (front ++ trimBytes line ++ back)) := by rw [trimBytes, hline]
    _ = trim (front.map (Char.ofNat ·.toNat) ++ Utf8.decode (trimBytes line) ++
          back.map (Char.ofNat ·.toNat)) := by
        rw [Utf8.decode_surround (hascii hfront) (hascii hback)]
    _ = trim (Utf8.decode (trimBytes line)) := stripBoth_surround _ (hblank hfront) (hblank hback)

end LogSieve
