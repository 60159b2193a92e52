import LogSieve.Proofs.Run.Merge
import Mathlib.Data.List.Pairwise

namespace LogSieve

theorem DateTime.instant_earliest : earliest.instant = 0 := rfl

namespace Merged

theorem instant_key_of_none {merged : Merged} (h : merged.timestamp = none) :
    merged.key.instant = 0 := by
  rw [key, h]
  exact DateTime.instant_earliest

theorem instant_key_of_some {merged : Merged} {t : DateTime} (h : merged.timestamp = some t) :
    merged.key.instant = t.instant := by
  rw [key, h]
  rfl

end Merged

namespace Merge

def UndatedFirst (merged : List Merged) : Prop :=
  merged.Pairwise fun a b => b.timestamp = none → a.timestamp = none

theorem nonneg_of_undatedFirst {loaded sorted : List Merged}
    (h : StableSort (fun merged => merged.key.instant) loaded sorted) (hfirst : UndatedFirst sorted)
    {a b : Merged} (ha : a ∈ loaded) (hb : b ∈ loaded) {t : DateTime}
    (hdated : a.timestamp = some t) (hundated : b.timestamp = none) : 0 ≤ t.instant := by
  have hka := Merged.instant_key_of_some hdated
  have hkb := Merged.instant_key_of_none hundated
  have hne : a ≠ b := by
    rintro rfl
    rw [hdated] at hundated
    cases hundated
  -- The record without a timestamp cuts the sort in two, and the other is behind it.
  obtain ⟨before, behind, hsplit⟩ := List.append_of_mem (h.perm.symm.subset hb)
  have hordered := h.ordered
  rw [UndatedFirst, hsplit, List.pairwise_append] at hfirst
  rw [hsplit, List.pairwise_append] at hordered
  have hmem : a ∈ before ∨ a ∈ behind := by
    have hsorted := h.perm.symm.subset ha
    simpa [hsplit, hne] using hsorted
  rcases hmem with hmem | hmem
  · have hnone := hfirst.2.2 a hmem b List.mem_cons_self hundated
    rw [hdated] at hnone
    cases hnone
  · have hle := (List.pairwise_cons.mp hordered.2.1).1 a hmem
    omega

-- A record at the start of year 1 ties with one without a timestamp, and ties keep their order.
theorem ne_zero_of_undatedFirst {loaded sorted : List Merged}
    (h : StableSort (fun merged => merged.key.instant) loaded sorted) (hfirst : UndatedFirst sorted)
    {a b : Merged} (hsub : [a, b].Sublist loaded) {t : DateTime}
    (hdated : a.timestamp = some t) (hundated : b.timestamp = none) : t.instant ≠ 0 := by
  intro hzero
  have hka := Merged.instant_key_of_some hdated
  have hkb := Merged.instant_key_of_none hundated
  have htie : a.key.instant = b.key.instant := by omega
  have hsorted := (h.sublist_iff htie).mpr hsub
  have hnone := List.pairwise_iff_forall_sublist.mp hfirst hsorted hundated
  rw [hdated] at hnone
  cases hnone

theorem undatedFirst_iff_of_stableSort {loaded sorted : List Merged}
    (h : StableSort (fun merged => merged.key.instant) loaded sorted) :
    UndatedFirst sorted ↔
      (∀ a ∈ loaded, ∀ b ∈ loaded, ∀ t, a.timestamp = some t → b.timestamp = none →
        0 ≤ t.instant) ∧
      loaded.Pairwise fun a b => ∀ t, a.timestamp = some t → b.timestamp = none →
        t.instant ≠ 0 := by
  constructor
  · intro hfirst
    refine ⟨fun a ha b hb t => nonneg_of_undatedFirst h hfirst ha hb, ?_⟩
    rw [List.pairwise_iff_forall_sublist]
    intro a b hsub t
    exact ne_zero_of_undatedFirst h hfirst hsub
  · rintro ⟨hearly, hties⟩
    rw [UndatedFirst, List.pairwise_iff_forall_sublist]
    intro a b hsub hundated
    cases hdated : a.timestamp with
    | none => rfl
    | some t =>
      have hka := Merged.instant_key_of_some hdated
      have hkb := Merged.instant_key_of_none hundated
      have hle : a.key.instant ≤ b.key.instant :=
        List.pairwise_iff_forall_sublist.mp h.ordered hsub
      have ha : a ∈ loaded := h.perm.subset (hsub.subset (by simp))
      have hb : b ∈ loaded := h.perm.subset (hsub.subset (by simp))
      have hnonneg := hearly a ha b hb t hdated hundated
      -- It is sorted in front and not before the start of year 1, so it ties.
      have htie : a.key.instant = b.key.instant := by omega
      have hloaded := (h.sublist_iff htie).mp hsub
      exact absurd (by omega)
        (List.pairwise_iff_forall_sublist.mp hties hloaded t hdated hundated)

-- Records without a timestamp come first exactly if no other record of the merge stands before the
-- start of year 1, and none that is loaded before one of them stands at it.
theorem undatedFirst_iff {sources : List (String × ByteStream)} {sorted : List Merged}
    (h : (run sources).entries = .ok sorted) :
    UndatedFirst sorted ↔
      (∀ a ∈ entries sources, ∀ b ∈ entries sources, ∀ t, a.timestamp = some t →
        b.timestamp = none → 0 ≤ t.instant) ∧
      (entries sources).Pairwise fun a b => ∀ t, a.timestamp = some t → b.timestamp = none →
        t.instant ≠ 0 :=
  undatedFirst_iff_of_stableSort (stableSort_of_run h).1

theorem undatedFirst_mixedSources :
    ∃ sorted, (run mixedSources).entries = .ok sorted ∧ UndatedFirst sorted := by
  obtain ⟨sorted, hsorted⟩ := exists_run_of_text sniff_mixedSources text_mixedSources
  have hlate : ((entries mixedSources).all fun merged =>
      merged.timestamp.all fun t => 0 < t.instant) = true := by
    decide +kernel
  have hpositive : ∀ merged ∈ entries mixedSources, ∀ t, merged.timestamp = some t →
      0 < t.instant := by
    intro merged hmerged t hdated
    have hmember := List.all_eq_true.mp hlate merged hmerged
    simpa [hdated] using hmember
  refine ⟨sorted, hsorted, (undatedFirst_iff hsorted).mpr ⟨?_, ?_⟩⟩
  · intro a ha _ _ t hdated _
    exact Int.le_of_lt (hpositive a ha t hdated)
  · apply List.pairwise_of_forall_mem_list
    intro a ha _ _ t hdated _
    exact (Int.ne_of_lt (hpositive a ha t hdated)).symm

-- A record at the start of year 1 ties with the record without a timestamp behind it, and stays in
-- front of it.
theorem not_undatedFirst_of_tie :
    ∃ sorted, (run [("app", ⟨Utf8.encode
      "\x7b\"ts\":\"0001-01-01T00:00:00Z\"\x7d\n\x7b\x7d\n".toList, .finished⟩)]).entries =
        .ok sorted ∧ ¬UndatedFirst sorted := by
  generalize hsources : [("app", ByteStream.mk (Utf8.encode
    "\x7b\"ts\":\"0001-01-01T00:00:00Z\"\x7d\n\x7b\x7d\n".toList) .finished)] = sources
  have hsniff : ∀ source ∈ sources, ∃ sniffed, sniff source.2 = .ok sniffed := by
    subst hsources
    simp only [List.forall_mem_cons]
    exact ⟨exists_sniff_of_finished _, by simp⟩
  have htext := @text_of_all sources (by subst hsources; decide +kernel)
  have hinstants : (entries sources).map (fun merged => merged.timestamp.map DateTime.instant) =
      [some 0, none] := by
    subst hsources
    decide +kernel
  obtain ⟨sorted, hsorted⟩ := exists_run_of_text hsniff htext
  refine ⟨sorted, hsorted, fun hfirst => ?_⟩
  have hties := ((undatedFirst_iff_of_stableSort (stableSort_of_run hsorted).1).mp hfirst).2
  obtain ⟨a, more, hentries, ha, hmore⟩ := List.map_eq_cons_iff.mp hinstants
  obtain ⟨b, rest, rfl, hb, -⟩ := List.map_eq_cons_iff.mp hmore
  obtain ⟨t, hdated, hzero⟩ := Option.map_eq_some_iff.mp ha
  rw [hentries] at hties
  exact (List.pairwise_cons.mp hties).1 b List.mem_cons_self t hdated
    (Option.map_eq_none_iff.mp hb) hzero

end Merge

end LogSieve
