import LogSieve.Proofs.Text.Ascii
import LogSieve.Text.Case

namespace LogSieve

namespace Case

-- A character that no run is shifted onto and that no other becomes is mapped from itself only.
theorem eq_of_mem_mapChar {runs : List Run} {expansions : List (Nat × List Nat)} {c d : Char}
    (hpos : 0 < d.toNat)
    (hruns : ∀ run ∈ runs,
      run.last < c.toNat ∨ d.toNat < run.first + run.shift ∨ run.last + run.shift < d.toNat)
    (hexpansions : ∀ entry ∈ expansions, d.toNat ∉ entry.2) (h : d ∈ mapChar runs expansions c) :
    c = d := by
  unfold mapChar at h
  cases hrun : runs.find? (·.contains c.toNat) with
  | some run =>
    simp only [hrun, List.mem_singleton] at h
    have hshifted := Utf8.eq_toNat_of_ofNat h.symm hpos
    have hbound := hruns run (List.mem_of_find?_eq_some hrun)
    have hcontains := List.find?_some hrun
    simp only [Run.contains, Bool.and_eq_true, decide_eq_true_eq] at hcontains
    omega
  | none =>
    cases hlookup : expansions.lookup c.toNat with
    | some codes =>
      simp only [hrun, hlookup, List.mem_map] at h
      obtain ⟨code, hcode, heq⟩ := h
      obtain ⟨before, behind, rfl, -⟩ := List.lookup_eq_some_iff.mp hlookup
      rw [Utf8.eq_toNat_of_ofNat heq hpos] at hcode
      exact absurd hcode (hexpansions (c.toNat, codes) (by simp))
    | none =>
      simp only [hrun, hlookup, List.mem_singleton] at h
      exact h.symm

theorem forall_ascii {P : Char → Prop} (h : ∀ n < 128, P (Char.ofNat n)) {c : Char}
    (hc : c.toNat < 128) : P c := by
  have hchar := h c.toNat hc
  rwa [Char.ofNat_toNat] at hchar

theorem newline_mem_upperChar_iff (c : Char) : '\n' ∈ upperChar c ↔ c = '\n' := by
  have hruns : ∀ run ∈ upperRuns, (10 : Int) < run.first + run.shift := by decide +kernel
  have hexpansions : ∀ entry ∈ upperExpansions, 10 ∉ entry.2 := by decide +kernel
  have hascii : c.toNat < 128 → c.toUpper = '\n' → c = '\n' :=
    forall_ascii (P := fun c => c.toUpper = '\n' → c = '\n') (by decide +kernel)
  constructor
  · intro h
    unfold upperChar at h
    split_ifs at h with hlow
    · exact hascii hlow (List.mem_singleton.mp h).symm
    · exact eq_of_mem_mapChar (by decide) (fun run hrun => .inr (.inl (hruns run hrun)))
        hexpansions h
  · rintro rfl
    decide

theorem newline_mem_lowerFrom {before text : List Char} (h : '\n' ∈ text) :
    '\n' ∈ lowerFrom before text := by
  induction text generalizing before with
  | nil => cases h
  | cons c rest ih =>
    rw [lowerFrom]
    rcases List.mem_cons.mp h with rfl | h
    · have hmapped : '\n' ∈ lowerChar '\n' := by decide
      exact List.mem_append_left _ (by simpa [capitalSigma] using hmapped)
    · exact List.mem_append_right _ (ih h)

-- An ASCII character that is the lower case of nothing beyond ASCII.
def IsPlain (d : Char) : Prop :=
  (0 < d.toNat ∧ d.toNat < 128) ∧
    (∀ run ∈ lowerRuns,
      run.last < 128 ∨ d.toNat < run.first + run.shift ∨ run.last + run.shift < d.toNat) ∧
      ∀ entry ∈ lowerExpansions, d.toNat ∉ entry.2

instance (d : Char) : Decidable (IsPlain d) :=
  inferInstanceAs (Decidable (_ ∧ _ ∧ _))

theorem lowerChar_of_mem {c d : Char} (hd : IsPlain d) (h : d ∈ lowerChar c) :
    lowerChar c = [d] ∧ c.toLower = d := by
  obtain ⟨⟨hpos, hlow⟩, hruns, hexpansions⟩ := hd
  unfold lowerChar at h ⊢
  split_ifs at h ⊢ with hascii
  · rw [List.mem_singleton] at h
    exact ⟨by rw [h], h.symm⟩
  · obtain rfl := eq_of_mem_mapChar hpos
      (fun run hrun => (hruns run hrun).imp_left fun hlast => by omega) hexpansions h
    exact absurd hlow hascii

theorem lowerChar_ne_nil (c : Char) : lowerChar c ≠ [] := by
  have hexpansions : ∀ entry ∈ lowerExpansions, entry.2 ≠ [] := by decide
  unfold lowerChar mapChar
  split_ifs
  · simp
  · split
    · simp
    · split
      · rename_i codes hlookup
        obtain ⟨before, behind, hentries, -⟩ := List.lookup_eq_some_iff.mp hlookup
        simpa using hexpansions (c.toNat, codes) (by simp [hentries])
      · simp

theorem toLower_of_not_ascii {c : Char} (h : ¬c.toNat < 128) : c.toLower = c := by
  refine dif_neg ?_
  rintro ⟨-, hletter⟩
  exact h (Nat.lt_of_le_of_lt hletter (by decide))

-- Lower case of a character starts with one of those that count as plain only if it is that one.
theorem exists_lowerFrom_cons (before : List Char) (c : Char) (rest : List Char) :
    ∃ first more, lowerFrom before (c :: rest) = first :: more ++ lowerFrom (c :: before) rest ∧
      ∀ d, IsPlain d → (first = d ↔ c.toLower = d) ∧ (first = d → more = []) := by
  rw [lowerFrom]
  by_cases hsigma : c = capitalSigma
  · -- Neither form of a small sigma is plain, nor is the capital.
    subst hsigma
    have hbeyond {other d : Char} (hother : 128 ≤ other.toNat) (hd : IsPlain d) : other ≠ d := by
      rintro rfl
      exact absurd hd.1.2 (by omega)
    have hlower : capitalSigma.toLower = capitalSigma := by decide
    refine ⟨if meetsCased before && !meetsCased rest then 'ς' else 'σ', [], ?_, fun d hd => ?_⟩
    · rw [if_pos rfl]
      split_ifs <;> rfl
    · have hfirst : (if meetsCased before && !meetsCased rest then 'ς' else 'σ') ≠ d := by
        split_ifs
        · exact hbeyond (by decide) hd
        · exact hbeyond (by decide) hd
      rw [hlower]
      exact ⟨iff_of_false hfirst (hbeyond (by decide) hd), fun _ => rfl⟩
  · obtain ⟨first, more, hmapped⟩ := List.exists_cons_of_ne_nil (lowerChar_ne_nil c)
    refine ⟨first, more, by rw [if_neg hsigma, hmapped], fun d hd => ?_⟩
    have hplain (h : first = d) : lowerChar c = [d] ∧ c.toLower = d :=
      lowerChar_of_mem hd (by simp [hmapped, h])
    refine ⟨⟨fun h => (hplain h).2, fun h => ?_⟩, fun h => ?_⟩
    · have hlow : c.toNat < 128 := by
        by_contra hhigh
        rw [toLower_of_not_ascii hhigh] at h
        exact hhigh (h ▸ hd.1.2)
      rw [lowerChar, if_pos hlow, List.cons.injEq] at hmapped
      rw [← hmapped.1, h]
    · have hone := hmapped.symm.trans (hplain h).1
      exact (List.cons.inj hone).2

theorem lowerFrom_eq_iff {before text word : List Char} (hword : ∀ d ∈ word, IsPlain d) :
    lowerFrom before text = word ↔ text.map Char.toLower = word := by
  induction text generalizing before word with
  | nil => rfl
  | cons c rest ih =>
    obtain ⟨first, more, hlower, hfirst⟩ := exists_lowerFrom_cons before c rest
    rw [hlower, List.map_cons]
    cases word with
    | nil => simp
    | cons d word =>
      obtain ⟨hd, hmore⟩ := List.forall_mem_cons.mp hword
      obtain ⟨hiff, hnil⟩ := hfirst d hd
      have hrest : lowerFrom (c :: before) rest = word ↔ rest.map Char.toLower = word := ih hmore
      rw [List.cons_append, List.cons.injEq, List.cons.injEq, ← hiff, ← hrest]
      refine and_congr_right fun h => ?_
      rw [hnil h, List.nil_append]

end Case

theorem newline_mem_upper_iff (text : List Char) : '\n' ∈ upper text ↔ '\n' ∈ text := by
  simp [upper, List.mem_flatMap, Case.newline_mem_upperChar_iff]

theorem newline_mem_lower {text : List Char} (h : '\n' ∈ text) : '\n' ∈ lower text :=
  Case.newline_mem_lowerFrom h

theorem lower_eq_iff {text word : List Char} (hword : ∀ d ∈ word, Case.IsPlain d) :
    lower text = word ↔ text.map Char.toLower = word :=
  Case.lowerFrom_eq_iff hword

theorem toLower_of_isBlank {c : Char} (h : isBlank c = true) : c.toLower = c := by
  have hascii : c.toNat < 128 → isBlank c = true → c.toLower = c :=
    Case.forall_ascii (P := fun c => isBlank c = true → c.toLower = c) (by decide)
  by_cases hlow : c.toNat < 128
  · exact hascii hlow h
  · exact Case.toLower_of_not_ascii hlow

end LogSieve
