import LogSieve.Record.Fields
import Mathlib.Data.List.Induction
import Mathlib.Data.List.Perm.Subperm
import Mathlib.Tactic.SplitIfs

namespace LogSieve.Fields

variable {α : Type}

theorem insert_of_forall_lt {name : String} {value : α} {fields : List (String × α)}
    (h : ∀ n ∈ fields.map Prod.fst, n < name) :
    insert name value fields = fields ++ [(name, value)] := by
  induction fields with
  | nil => rfl
  | cons entry rest ih =>
    obtain ⟨other, kept⟩ := entry
    have hother : other < name := h other (by simp)
    have hrest := ih fun n hn => h n (List.mem_cons_of_mem _ hn)
    rw [insert, if_neg (String.lt_asymm hother), if_neg (String.ne_of_lt hother).symm, hrest]
    rfl

private theorem foldl_insert_of_ordered (fields : List (String × α)) {entries : List (String × α)}
    (h : Ordered (fields ++ entries)) :
    entries.foldl (fun fields entry => insert entry.1 entry.2 fields) fields =
      fields ++ entries := by
  induction entries generalizing fields with
  | nil => simp
  | cons entry rest ih =>
    have hlast : ∀ n ∈ fields.map Prod.fst, n < entry.1 := by
      rw [Ordered, List.map_append] at h
      exact fun n hn => (List.pairwise_append.mp h).2.2 n hn entry.1 (by simp)
    rw [List.foldl_cons, insert_of_forall_lt hlast, ih _ (by simpa using h)]
    simp

theorem ofList_of_ordered {fields : List (String × α)} (h : Ordered fields) :
    ofList fields = fields :=
  foldl_insert_of_ordered [] h

theorem get?_insert_self (name : String) (value : α) (fields : List (String × α)) :
    get? name (insert name value fields) = some value := by
  induction fields with
  | nil => simp [insert, get?]
  | cons entry rest ih =>
    obtain ⟨other, kept⟩ := entry
    unfold insert
    split_ifs with hlt heq
    · simp [get?]
    · simp [get?]
    · have hne : (name == other) = false := by simpa using heq
      simpa [get?, List.lookup_cons, hne] using ih

theorem get?_insert_of_ne {name other : String} (value : α) (fields : List (String × α))
    (h : other ≠ name) : get? other (insert name value fields) = get? other fields := by
  have hne : (other == name) = false := by simpa using h
  induction fields with
  | nil => simp [insert, get?, List.lookup_cons, hne]
  | cons entry rest ih =>
    obtain ⟨third, kept⟩ := entry
    unfold insert
    split_ifs with hlt heq
    · simp [get?, List.lookup_cons, hne]
    · subst heq
      simp [get?, List.lookup_cons, hne]
    · simp only [get?, List.lookup_cons] at ih ⊢
      split
      · rfl
      · exact ih

theorem mem_of_get? {name : String} {value : α} {fields : List (String × α)}
    (h : get? name fields = some value) : (name, value) ∈ fields := by
  obtain ⟨before, behind, rfl, -⟩ := List.lookup_eq_some_iff.mp h
  simp

theorem get?_of_mem {name : String} {value : α} {fields : List (String × α)} (h : Ordered fields)
    (hmem : (name, value) ∈ fields) : get? name fields = some value := by
  obtain ⟨before, behind, rfl⟩ := List.append_of_mem hmem
  refine List.lookup_eq_some_iff.mpr ⟨before, behind, rfl, fun entry hentry => ?_⟩
  rw [Ordered, List.map_append] at h
  have hlt : entry.1 < name :=
    (List.pairwise_append.mp h).2.2 entry.1 (List.mem_map_of_mem hentry) name (by simp)
  simpa using (String.ne_of_lt hlt).symm

theorem get?_eq_none_of_forall_lt {name : String} {fields : List (String × α)}
    (h : ∀ n ∈ fields.map Prod.fst, name < n) : get? name fields = none := by
  refine List.lookup_eq_none_iff.mpr fun entry hentry => ?_
  simpa using String.ne_of_lt (h entry.1 (List.mem_map_of_mem hentry))

theorem insert_subperm (name : String) (value : α) (fields : List (String × α)) :
    (insert name value fields).Subperm ((name, value) :: fields) := by
  induction fields with
  | nil => exact .refl _
  | cons entry rest ih =>
    obtain ⟨other, kept⟩ := entry
    unfold insert
    split_ifs
    · exact .refl _
    · exact ((List.sublist_cons_self _ rest).cons_cons (name, value)).subperm
    · exact ((List.subperm_cons (other, kept)).mpr ih).trans (List.Perm.swap ..).subperm

theorem mem_insert {name : String} {value : α} {fields : List (String × α)}
    {entry : String × α} (h : entry ∈ insert name value fields) :
    entry = (name, value) ∨ entry ∈ fields :=
  List.mem_cons.mp ((insert_subperm name value fields).subset h)

theorem ofList_concat (entries : List (String × α)) (entry : String × α) :
    ofList (entries ++ [entry]) = insert entry.1 entry.2 (ofList entries) := by
  simp [ofList]

-- Setting one entry after the other keeps some of them and makes up none.
theorem ofList_subperm (entries : List (String × α)) : (ofList entries).Subperm entries := by
  induction entries using List.reverseRecOn with
  | nil => exact .refl _
  | append_singleton entries entry ih =>
    rw [ofList_concat]
    exact (insert_subperm ..).trans
      (((List.subperm_cons entry).mpr ih).trans (List.perm_append_singleton entry entries).symm.subperm)

end LogSieve.Fields
