import LogSieve.Stream.Basic

namespace LogSieve

variable {α : Type} {isBreak : α → Bool} {items line rest body : List α} {c : α}

theorem firstLine?_append (rest : List α) (hbody : ∀ b ∈ body, isBreak b = false)
    (hc : isBreak c = true) : firstLine? isBreak (body ++ c :: rest) = some (body ++ [c], rest) := by
  induction body with
  | nil => simp [firstLine?, hc]
  | cons b body ih =>
    have hb := hbody b (by simp)
    have hmore := ih fun d hd => hbody d (List.mem_cons_of_mem _ hd)
    simp [firstLine?, hb, hmore]

theorem exists_of_firstLine? (h : firstLine? isBreak items = some (line, rest)) :
    ∃ body c, items = body ++ c :: rest ∧ line = body ++ [c] ∧
      (∀ b ∈ body, isBreak b = false) ∧ isBreak c = true := by
  induction items generalizing line with
  | nil => simp [firstLine?] at h
  | cons b items ih =>
    unfold firstLine? at h
    split at h
    · rename_i hb
      cases h
      exact ⟨[], b, rfl, rfl, by simp, hb⟩
    · rename_i hb
      simp only [Option.map_eq_some_iff, Prod.exists] at h
      obtain ⟨tail, behind, htail, h⟩ := h
      cases h
      obtain ⟨body, c, rfl, rfl, hbody, hc⟩ := ih htail
      exact ⟨b :: body, c, rfl, rfl, List.forall_mem_cons.mpr ⟨by simpa using hb, hbody⟩, hc⟩

theorem firstLine?_eq_none (h : firstLine? isBreak items = none) :
    ∀ b ∈ items, isBreak b = false := by
  induction items with
  | nil => simp
  | cons b items ih =>
    unfold firstLine? at h
    split at h
    · simp at h
    · rename_i hb
      rw [Option.map_eq_none_iff] at h
      exact List.forall_mem_cons.mpr ⟨by simpa using hb, ih h⟩

theorem splitLines_append (rest : List α) (hbody : ∀ b ∈ body, isBreak b = false)
    (hc : isBreak c = true) :
    splitLines isBreak (body ++ c :: rest) = (body ++ [c]) :: splitLines isBreak rest := by
  induction body with
  | nil => simp [splitLines, hc]
  | cons b body ih =>
    have hb := hbody b (by simp)
    have hmore := ih fun d hd => hbody d (List.mem_cons_of_mem _ hd)
    simp [splitLines, hb, hmore]

theorem splitLines_flatMap {bodies : List (List α)}
    (hbodies : ∀ body ∈ bodies, ∀ b ∈ body, isBreak b = false) (hc : isBreak c = true) :
    splitLines isBreak (bodies.flatMap (· ++ [c])) = bodies.map (· ++ [c]) := by
  induction bodies with
  | nil => rfl
  | cons body rest ih =>
    obtain ⟨hbody, hrest⟩ := List.forall_mem_cons.mp hbodies
    rw [List.flatMap_cons, List.append_assoc, List.singleton_append, splitLines_append _ hbody hc,
      ih hrest, List.map_cons]

theorem splitLines_of_forall (hne : items ≠ []) (h : ∀ b ∈ items, isBreak b = false) :
    splitLines isBreak items = [items] := by
  induction items with
  | nil => exact absurd rfl hne
  | cons b items ih =>
    have hb := h b (by simp)
    cases items with
    | nil => simp [splitLines, hb]
    | cons d items =>
      have hmore := ih (by simp) fun e he => h e (List.mem_cons_of_mem _ he)
      rw [splitLines, hmore]
      simp [hb]

theorem append_of_firstLine? (h : firstLine? isBreak items = some (line, rest)) :
    line ++ rest = items ∧ line ≠ [] := by
  obtain ⟨body, c, rfl, rfl, -, -⟩ := exists_of_firstLine? h
  simp

theorem splitLines_of_firstLine? (h : firstLine? isBreak items = some (line, rest)) :
    splitLines isBreak items = line :: splitLines isBreak rest := by
  obtain ⟨body, c, rfl, rfl, hbody, hc⟩ := exists_of_firstLine? h
  exact splitLines_append rest hbody hc

-- What is appended behind a complete line does not change it.
theorem firstLine?_append_of_some (more : List α)
    (h : firstLine? isBreak items = some (line, rest)) :
    firstLine? isBreak (items ++ more) = some (line, rest ++ more) := by
  obtain ⟨body, c, rfl, rfl, hbody, hc⟩ := exists_of_firstLine? h
  rw [List.append_assoc, List.cons_append]
  exact firstLine?_append (rest ++ more) hbody hc

theorem any_of_firstLine? (h : firstLine? isBreak items = some (line, rest)) :
    line.any isBreak = true := by
  obtain ⟨body, c, -, rfl, -, hc⟩ := exists_of_firstLine? h
  simp [hc]

end LogSieve
