namespace LogSieve.Fields

variable {α : Type}

-- The order of a record's fields never shows, so it is fixed: two lists with the same names and values
-- are equal.
def Ordered (fields : List (String × α)) : Prop :=
  (fields.map Prod.fst).Pairwise (· < ·)

def insert (name : String) (value : α) : List (String × α) → List (String × α)
  | [] => [(name, value)]
  | (other, kept) :: rest =>
    if name < other then (name, value) :: (other, kept) :: rest
    else if name = other then (name, value) :: rest
    else (other, kept) :: insert name value rest

def get? (name : String) (fields : List (String × α)) : Option α :=
  fields.lookup name

-- The fields of a list in any order; of several values for one name the last counts.
def ofList (entries : List (String × α)) : List (String × α) :=
  entries.foldl (fun fields entry => insert entry.1 entry.2 fields) []

theorem mem_names_insert {name n : String} {value : α} {fields : List (String × α)}
    (h : n ∈ (insert name value fields).map Prod.fst) :
    n = name ∨ n ∈ fields.map Prod.fst := by
  induction fields with
  | nil => simpa [insert] using h
  | cons entry rest ih =>
    obtain ⟨other, kept⟩ := entry
    unfold insert at h
    split at h
    · simpa using h
    · split at h
      · simp only [List.map_cons, List.mem_cons] at h ⊢
        rcases h with h | h
        · exact .inl h
        · exact .inr (.inr h)
      · simp only [List.map_cons, List.mem_cons] at h ⊢
        rcases h with h | h
        · exact .inr (.inl h)
        · rcases ih h with h | h
          · exact .inl h
          · exact .inr (.inr h)

theorem ordered_insert {name : String} {value : α} {fields : List (String × α)}
    (h : Ordered fields) : Ordered (insert name value fields) := by
  induction fields with
  | nil => simp [insert, Ordered]
  | cons entry rest ih =>
    obtain ⟨other, kept⟩ := entry
    simp only [Ordered, List.map_cons, List.pairwise_cons] at h ih
    unfold insert
    split
    · rename_i hlt
      simp only [Ordered, List.map_cons, List.pairwise_cons]
      refine ⟨fun n hn => ?_, h.1, h.2⟩
      rcases List.mem_cons.mp hn with rfl | hn
      · exact hlt
      · exact String.lt_trans hlt (h.1 n hn)
    · split
      · rename_i heq
        subst heq
        exact List.pairwise_cons.mpr h
      · rename_i hlt hne
        refine List.pairwise_cons.mpr ⟨fun n hn => ?_, ih h.2⟩
        rcases mem_names_insert hn with rfl | hn
        · exact Std.lt_of_le_of_ne (String.not_lt.mp hlt) (Ne.symm hne)
        · exact h.1 n hn

theorem ordered_foldl_insert {entries fields : List (String × α)} (h : Ordered fields) :
    Ordered (entries.foldl (fun fields entry => insert entry.1 entry.2 fields) fields) := by
  induction entries generalizing fields with
  | nil => exact h
  | cons entry rest ih => exact ih (ordered_insert h)

theorem ordered_ofList (entries : List (String × α)) : Ordered (ofList entries) :=
  ordered_foldl_insert List.Pairwise.nil

end LogSieve.Fields
