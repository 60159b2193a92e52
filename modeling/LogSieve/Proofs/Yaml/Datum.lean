import LogSieve.Proofs.Attempt
import LogSieve.Yaml.Document
import Mathlib.Data.List.Induction

namespace LogSieve.Yaml

namespace Datum

def Keyed (entries : List (Datum × Datum)) : Prop :=
  (entries.map Prod.fst).Pairwise fun a b => a.sameKey b = false

-- A value is set in its place, or behind all others under a key that is new.
theorem keys_setEntry (key value : Datum) (entries : List (Datum × Datum)) :
    (setEntry key value entries).map Prod.fst = entries.map Prod.fst ∨
      (setEntry key value entries).map Prod.fst = entries.map Prod.fst ++ [key] ∧
        ∀ other ∈ entries.map Prod.fst, other.sameKey key = false := by
  induction entries with
  | nil => exact .inr ⟨rfl, by simp⟩
  | cons entry rest ih =>
    obtain ⟨other, kept⟩ := entry
    by_cases hsame : other.sameKey key = true
    · exact .inl (by simp [setEntry, hsame])
    · simp only [setEntry, hsame, Bool.false_eq_true, if_false, List.map_cons, List.cons_append]
      rcases ih with hkeys | ⟨hkeys, hnew⟩
      · exact .inl (by rw [hkeys])
      · refine .inr ⟨by rw [hkeys], ?_⟩
        simpa [hsame] using hnew

theorem keyed_setEntry {entries : List (Datum × Datum)} (h : Keyed entries) (key value : Datum) :
    Keyed (setEntry key value entries) := by
  unfold Keyed at h ⊢
  rcases keys_setEntry key value entries with hkeys | ⟨hkeys, hnew⟩
  · rwa [hkeys]
  · rw [hkeys, List.pairwise_append]
    exact ⟨h, List.pairwise_singleton _ _, by simpa using hnew⟩

theorem mem_setEntry {key value : Datum} {entries : List (Datum × Datum)} {entry : Datum × Datum}
    (h : entry ∈ setEntry key value entries) : entry.2 = value ∨ entry ∈ entries := by
  induction entries with
  | nil => exact .inl (by simp_all [setEntry])
  | cons other rest ih =>
    obtain ⟨other, kept⟩ := other
    by_cases hsame : other.sameKey key = true
    · simp only [setEntry, hsame, if_true, List.mem_cons] at h
      rcases h with rfl | h
      · exact .inl rfl
      · exact .inr (List.mem_cons_of_mem _ h)
    · simp only [setEntry, hsame, Bool.false_eq_true, if_false, List.mem_cons] at h
      rcases h with rfl | h
      · exact .inr List.mem_cons_self
      · exact (ih h).imp_right (List.mem_cons_of_mem _)

theorem keyed_entriesOfList (entries : List (Datum × Datum)) : Keyed (entriesOfList entries) := by
  unfold entriesOfList
  induction entries using List.reverseRecOn with
  | nil => exact List.Pairwise.nil
  | append_singleton entries entry ih =>
    rw [List.foldl_append]
    exact keyed_setEntry ih _ _

theorem exists_of_mem_entriesOfList {entries : List (Datum × Datum)} {entry : Datum × Datum}
    (h : entry ∈ entriesOfList entries) : ∃ given ∈ entries, entry.2 = given.2 := by
  unfold entriesOfList at h
  induction entries using List.reverseRecOn with
  | nil => cases h
  | append_singleton entries last ih =>
    rw [List.foldl_append] at h
    rcases mem_setEntry h with hvalue | h
    · exact ⟨last, by simp, hvalue⟩
    · obtain ⟨given, hgiven, hvalue⟩ := ih h
      exact ⟨given, by simp [hgiven], hvalue⟩

end Datum

namespace Node

theorem exists_of_entriesOf_cons {key value : Node} {rest : List (Node × Node)}
    {merged own : List (Datum × Datum)} (hmerge : ¬key.isMerge = true)
    (h : entriesOf ((key, value) :: rest) = .ok (merged, own)) :
    ∃ found meant others, datum value = .ok meant ∧ entriesOf rest = .ok (merged, others) ∧
      own = (found, meant) :: others := by
  rw [entriesOf, if_neg hmerge] at h
  have hown (found : Datum) (h : (do
      if !found.isHashable then throw .malformed
      let value ← datum value
      let others ← entriesOf rest
      return (others.1, (found, value) :: others.2) : Except Fault _) = .ok (merged, own)) :
      ∃ meant others, datum value = .ok meant ∧ entriesOf rest = .ok (merged, others) ∧
        own = (found, meant) :: others := by
    cases hhash : found.isHashable with
    | false =>
      rw [hhash] at h
      cases h
    | true =>
      rw [hhash] at h
      obtain ⟨meant, hmeant, h⟩ := exists_of_bind h
      obtain ⟨⟨more, others⟩, hrest, h⟩ := exists_of_bind h
      cases h
      exact ⟨meant, others, hmeant, hrest, rfl⟩
  cases hstanding : key.isStandingValue with
  | true =>
    rw [hstanding] at h
    exact ⟨_, hown _ h⟩
  | false =>
    rw [hstanding] at h
    obtain ⟨found, -, h⟩ := exists_of_bind h
    exact ⟨found, hown found h⟩

-- The values of a mapping are what some nodes mean, those merged into it included.
mutual

theorem exists_of_mem_entriesOf : ∀ {entries : List (Node × Node)}
    {merged own : List (Datum × Datum)}, entriesOf entries = .ok (merged, own) →
    ∀ entry ∈ merged ++ own, ∃ node, datum node = .ok entry.2
  | [], _, _, h => by
    cases h
    simp
  | (key, value) :: rest, merged, own, h => by
    by_cases hmerge : key.isMerge = true
    · rw [entriesOf, if_pos hmerge] at h
      obtain ⟨found, hfound, h⟩ := exists_of_bind h
      obtain ⟨⟨more, others⟩, hrest, h⟩ := exists_of_bind h
      cases h
      have hmerged := exists_of_mem_mergedOf hfound
      have hothers := exists_of_mem_entriesOf hrest
      simp only [List.append_assoc, List.forall_mem_append] at hothers ⊢
      exact ⟨hmerged, hothers⟩
    · obtain ⟨found, meant, others, hmeant, hrest, rfl⟩ := exists_of_entriesOf_cons hmerge h
      have hothers := exists_of_mem_entriesOf hrest
      simp only [List.forall_mem_append, List.forall_mem_cons] at hothers ⊢
      exact ⟨hothers.1, ⟨value, hmeant⟩, hothers.2⟩

theorem exists_of_mem_mergedOf : ∀ {node : Node} {merged : List (Datum × Datum)},
    mergedOf node = .ok merged → ∀ entry ∈ merged, ∃ node, datum node = .ok entry.2
  | .mapping _ entries, merged, h => by
    rw [mergedOf] at h
    obtain ⟨⟨more, own⟩, hentries, rfl⟩ := exists_of_map h
    exact exists_of_mem_entriesOf hentries
  | .sequence _ items, merged, h => by
    rw [mergedOf] at h
    exact exists_of_mem_mergedItems h
  | .within true, merged, h => by
    cases h
    simp
  | .within false, merged, h => by cases h
  | .scalar _ _, merged, h => by cases h

theorem exists_of_mem_mergedItems : ∀ {items : List Node} {merged : List (Datum × Datum)},
    mergedItems items = .ok merged → ∀ entry ∈ merged, ∃ node, datum node = .ok entry.2
  | [], merged, h => by
    cases h
    simp
  | .mapping _ entries :: rest, merged, h => by
    rw [mergedItems] at h
    obtain ⟨⟨more, own⟩, hentries, h⟩ := exists_of_bind h
    obtain ⟨others, hrest, h⟩ := exists_of_bind h
    cases h
    rw [List.forall_mem_append]
    exact ⟨exists_of_mem_mergedItems hrest, exists_of_mem_entriesOf hentries⟩
  | .scalar _ _ :: _, _, h | .sequence _ _ :: _, _, h | .within _ :: _, _, h => by cases h

end

theorem ne_mapping_of_moment {text : List Char} {found : Datum} (h : Moment.datum text = .ok found)
    (entries : List (Datum × Datum)) : found ≠ .mapping entries := by
  rintro rfl
  unfold Moment.datum at h
  dsimp only at h
  split at h
  · rename_i shape hshape
    unfold Moment.Shape.datum at h
    split at h
    · obtain ⟨date, -, h⟩ := exists_of_map h
      cases h
    · split at h
      · obtain ⟨date, -, h⟩ := exists_of_bind h
        obtain ⟨clock, -, h⟩ := exists_of_bind h
        cases h
      · split at h
        · obtain ⟨date, -, h⟩ := exists_of_bind h
          obtain ⟨clock, -, h⟩ := exists_of_bind h
          cases h
        · cases h
  · cases h

theorem ne_mapping_of_scalar {tag : Tag} {text : List Char} {found : Datum}
    (h : Scalar.datum tag text = .ok found) (entries : List (Datum × Datum)) :
    found ≠ .mapping entries := by
  rintro rfl
  unfold Scalar.datum at h
  split at h
  · cases h
  · obtain ⟨b, -, hfound⟩ := exists_of_map (eq_of_mapError h)
    cases hfound
  · obtain ⟨i, -, hfound⟩ := exists_of_map (eq_of_mapError h)
    cases hfound
  · obtain ⟨x, -, hfound⟩ := exists_of_map (eq_of_mapError h)
    cases hfound
  · exact ne_mapping_of_moment (eq_of_mapError h) entries rfl
  · cases h
  · split at h
    · split at h <;> cases h
    · cases h
  · cases h

theorem ne_mapping_of_standingFor {tag : Tag} : ∀ {entries : List (Node × Node)} {found : Datum},
    standingFor tag entries = .ok found → ∀ others, found ≠ .mapping others
  | [], found, h => by
    rw [standingFor] at h
    cases h
  | (key, value) :: rest, found, h => by
    rw [standingFor.eq_def] at h
    dsimp only at h
    split at h
    · split at h
      · exact ne_mapping_of_scalar h
      · exact ne_mapping_of_standingFor h
      · cases h
    · exact ne_mapping_of_standingFor h

theorem exists_of_datum {node : Node} {entries : List (Datum × Datum)}
    (h : datum node = .ok (.mapping entries)) :
    ∃ given, entries = Datum.entriesOfList given ∧
      ∀ entry ∈ given, ∃ node, datum node = .ok entry.2 := by
  cases node with
  | within ofMapping => cases h
  | scalar tag text => exact absurd rfl (ne_mapping_of_scalar (by simpa [datum] using h) entries)
  | sequence tag items =>
    cases tag with
    | sequence | pairs | orderedPairs =>
      obtain ⟨found, -, hfound⟩ := exists_of_map (by simpa only [datum] using h)
      cases hfound
    | _ => cases h
  | mapping tag nodes =>
    rw [datum.eq_def] at h
    dsimp only at h
    split at h
    · obtain ⟨⟨merged, own⟩, hgiven, hfound⟩ := exists_of_map h
      cases hfound
      exact ⟨merged ++ own, rfl, exists_of_mem_entriesOf hgiven⟩
    · obtain ⟨⟨merged, own⟩, -, hfound⟩ := exists_of_map h
      cases hfound
    · exact absurd rfl (ne_mapping_of_standingFor h entries)

-- So it has each of its keys once, whatever its text says, and so have the mappings in it.
theorem keyed_of_datum {node : Node} {entries : List (Datum × Datum)}
    (h : datum node = .ok (.mapping entries)) :
    Datum.Keyed entries ∧ ∀ key inner, (key, .mapping inner) ∈ entries → Datum.Keyed inner := by
  have hkeyed {node : Node} {entries : List (Datum × Datum)}
      (h : datum node = .ok (.mapping entries)) : Datum.Keyed entries := by
    obtain ⟨given, rfl, -⟩ := exists_of_datum h
    exact Datum.keyed_entriesOfList given
  refine ⟨hkeyed h, fun key inner hmem => ?_⟩
  obtain ⟨given, rfl, hgiven⟩ := exists_of_datum h
  obtain ⟨entry, hentry, hvalue⟩ := Datum.exists_of_mem_entriesOfList hmem
  obtain ⟨node, hnode⟩ := hgiven entry hentry
  exact hkeyed (hnode.trans (congrArg Except.ok hvalue.symm))

end Node

theorem Datum.keyed_of_ofText {text : List Char} {entries : List (Datum × Datum)}
    (h : ofText text = .ok (.mapping entries)) :
    Keyed entries ∧ ∀ key inner, (key, .mapping inner) ∈ entries → Keyed inner := by
  unfold ofText at h
  split at h
  · cases h
  · obtain ⟨tokens, -, h⟩ := exists_of_bind h
    obtain ⟨root, -, h⟩ := exists_of_bind h
    cases root with
    | none => cases h
    | some node => exact Node.keyed_of_datum h

end LogSieve.Yaml
