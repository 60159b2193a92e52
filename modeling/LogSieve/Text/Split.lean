namespace LogSieve

def splitAtEach (mark : Char) : List Char → List (List Char)
  | [] => [[]]
  | c :: rest =>
    if c = mark then [] :: splitAtEach mark rest
    else match splitAtEach mark rest with
      | [] => [[c]]
      | part :: parts => (c :: part) :: parts

theorem splitAtEach_eq_splitOn (mark : Char) (text : List Char) :
    splitAtEach mark text = text.splitOn mark := by
  induction text with
  | nil => simp [splitAtEach]
  | cons c rest ih =>
    rw [splitAtEach, ih, List.splitOn_cons_eq_if_modifyHead]
    by_cases hc : c = mark
    · simp [hc]
    · obtain ⟨part, parts, hparts⟩ := List.exists_cons_of_ne_nil (List.splitOn_ne_nil mark rest)
      simp [hc, hparts]

end LogSieve
