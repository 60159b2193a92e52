namespace LogSieve

variable {α : Type} {key : α → Int} {items sorted other : List α}

-- A list holds the members of another in increasing order of key, and those of one key in the
-- order of that list.
structure StableSort (key : α → Int) (items sorted : List α) : Prop where
  perm : sorted.Perm items
  ordered : sorted.Pairwise fun a b => key a ≤ key b
  stable : ∀ k, sorted.filter (key · == k) = items.filter (key · == k)

theorem stableSort_mergeSort (key : α → Int) (items : List α) :
    StableSort key items (items.mergeSort fun a b => key a ≤ key b) := by
  have htrans : ∀ a b c, decide (key a ≤ key b) = true → decide (key b ≤ key c) = true →
      decide (key a ≤ key c) = true := by
    intro a b c hab hbc
    simp only [decide_eq_true_eq] at hab hbc ⊢
    exact Int.le_trans hab hbc
  have htotal : ∀ a b, (decide (key a ≤ key b) || decide (key b ≤ key a)) = true := by
    intro a b
    simp only [Bool.or_eq_true, decide_eq_true_eq]
    exact Int.le_total _ _
  have hperm := List.mergeSort_perm items fun a b => decide (key a ≤ key b)
  refine ⟨hperm, ?_, fun k => ?_⟩
  · have hordered := List.pairwise_mergeSort htrans htotal items
    exact hordered.imp fun h => by simpa using h
  · -- Members of one key are in order as they stand, so they stand in that order in the sort too.
    have hties : (items.filter (key · == k)).Pairwise fun a b => decide (key a ≤ key b) = true := by
      apply List.pairwise_of_forall_mem_list
      intro a ha b hb
      have hka := (List.mem_filter.mp ha).2
      have hkb := (List.mem_filter.mp hb).2
      simp only [beq_iff_eq] at hka hkb
      simp [hka, hkb]
    have hsub := List.sublist_mergeSort htrans htotal hties List.filter_sublist
    have hfilter := hsub.filter (key · == k)
    rw [List.filter_filter] at hfilter
    simp only [Bool.and_self] at hfilter
    exact (hfilter.eq_of_length ((hperm.filter _).length_eq).symm).symm

theorem StableSort.unique (hs : StableSort key items sorted) (ho : StableSort key items other) :
    sorted = other := by
  have hties (k : Int) : sorted.filter (key · == k) = other.filter (key · == k) :=
    (hs.stable k).trans (ho.stable k).symm
  have hperm := hs.perm.trans ho.perm.symm
  have hsorted := hs.ordered
  have hother := ho.ordered
  -- The tails need not be sorts of one list, so the induction keeps what the two have in common.
  clear hs ho
  induction sorted generalizing other with
  | nil => exact (List.nil_perm.mp hperm).symm
  | cons a sorted ih =>
    cases other with
    | nil => exact absurd hperm.symm (by simp)
    | cons b other =>
      -- Both heads have the least key, so both are the first of that key.
      have hab : key a ≤ key b := by
        rcases List.mem_cons.mp (hperm.symm.subset (List.mem_cons_self (a := b))) with rfl | hb
        · exact Int.le_refl _
        · exact (List.pairwise_cons.mp hsorted).1 b hb
      have hba : key b ≤ key a := by
        rcases List.mem_cons.mp (hperm.subset (List.mem_cons_self (a := a))) with rfl | ha
        · exact Int.le_refl _
        · exact (List.pairwise_cons.mp hother).1 a ha
      have hkey : key b = key a := by omega
      have hhead : a = b := by
        have h := hties (key a)
        rw [List.filter_cons_of_pos (by simp), List.filter_cons_of_pos (by simp [hkey])] at h
        exact (List.cons.inj h).1
      subst hhead
      have hmore := ih (fun k => ?_) (hperm.cons_inv) hsorted.of_cons hother.of_cons
      · rw [hmore]
      · have h := hties k
        by_cases hk : key a = k
        · rw [List.filter_cons_of_pos (by simpa using hk),
            List.filter_cons_of_pos (by simpa using hk)] at h
          exact (List.cons.inj h).2
        · rwa [List.filter_cons_of_neg (by simpa using hk),
            List.filter_cons_of_neg (by simpa using hk)] at h

theorem StableSort.sublist_iff (h : StableSort key items sorted) {a b : α} (hab : key a = key b) :
    [a, b].Sublist sorted ↔ [a, b].Sublist items := by
  have hpair {xs : List α} : [a, b].Sublist xs ↔ [a, b].Sublist (xs.filter (key · == key a)) := by
    constructor
    · intro hsub
      have hfilter := hsub.filter (key · == key a)
      simpa [List.filter_cons, hab] using hfilter
    · exact fun hsub => hsub.trans List.filter_sublist
  rw [hpair, h.stable, ← hpair]

theorem StableSort.index_lt (h : StableSort key items sorted) {i j : Nat} {a b : α}
    (ha : sorted[i]? = some a) (hb : sorted[j]? = some b) (hlt : key a < key b) : i < j := by
  refine Nat.lt_of_not_le fun hle => ?_
  obtain ⟨hi, rfl⟩ := List.getElem?_eq_some_iff.mp ha
  obtain ⟨hj, rfl⟩ := List.getElem?_eq_some_iff.mp hb
  rcases Nat.lt_or_eq_of_le hle with hback | heq
  · have hordered := List.pairwise_iff_getElem.mp h.ordered j i hj hi hback
    omega
  · subst heq
    omega

end LogSieve
