import LogSieve.Text.Blank
import Mathlib.Data.List.DropRight

namespace LogSieve

variable {α : Type} {test : α → Bool}

theorem stripBoth_eq_rdropWhile (items : List α) :
    stripBoth test items = (items.dropWhile test).rdropWhile test := rfl

theorem rdropWhile_append_of_forall (items : List α) {back : List α}
    (h : ∀ c ∈ back, test c = true) : (items ++ back).rdropWhile test = items.rdropWhile test := by
  have hback : ∀ c ∈ back.reverse, test c = true := fun c hc => h c (List.mem_reverse.mp hc)
  rw [List.rdropWhile, List.reverse_append, List.dropWhile_append_of_pos hback]
  rfl

-- Behind a member that stays, members are taken off as if nothing stood before them.
theorem rdropWhile_append_cons {c : α} (front back : List α) (hc : test c = false) :
    (front ++ c :: back).rdropWhile test = front ++ c :: back.rdropWhile test := by
  rw [List.rdropWhile, List.reverse_append, List.reverse_cons, List.append_assoc,
    List.dropWhile_append]
  by_cases hnil : (back.reverse.dropWhile test).isEmpty
  · have hback : back.rdropWhile test = [] := by
      rw [List.rdropWhile, List.isEmpty_iff.mp hnil, List.reverse_nil]
    simp [hnil, hc, hback]
  · simp [hnil, List.rdropWhile]

theorem rdropWhile_append_of_forall_not {front : List α} (back : List α)
    (h : ∀ c ∈ front, test c = false) :
    (front ++ back).rdropWhile test = front ++ back.rdropWhile test := by
  rcases List.eq_nil_or_concat front with rfl | ⟨front, c, rfl⟩
  · rfl
  · have hc : test c = false := h c (by simp)
    rw [List.concat_eq_append, List.append_assoc, List.append_assoc]
    exact rdropWhile_append_cons front back hc

theorem dropWhile_of_head? {items : List α} (h : ∀ c ∈ items.head?, test c = false) :
    items.dropWhile test = items := by
  cases items with
  | nil => rfl
  | cons c rest => simp [h c rfl]

theorem not_mem_of_forall {c : α} {items : List α} (hc : test c = false)
    (h : ∀ d ∈ items, test d = true) : c ∉ items := by
  intro hmem
  rw [h c hmem] at hc
  cases hc

theorem mem_dropWhile_of_not {c : α} {items : List α} (h : c ∈ items) (hc : test c = false) :
    c ∈ items.dropWhile test := by
  rw [← List.takeWhile_append_dropWhile (p := test) (l := items), List.mem_append] at h
  rcases h with htaken | hrest
  · rw [List.mem_takeWhile_imp htaken] at hc
    cases hc
  · exact hrest

theorem head?_dropWhile (test : α → Bool) (items : List α) :
    ∀ c ∈ (items.dropWhile test).head?, test c = false := by
  intro c hc
  have hnot := List.head?_dropWhile_not test items
  rw [hc] at hnot
  exact hnot

theorem span_append {front back : List α} (hfront : ∀ c ∈ front, test c = true)
    (hback : ∀ c ∈ back.head?, test c = false) :
    (front ++ back).takeWhile test = front ∧ (front ++ back).dropWhile test = back := by
  rw [List.takeWhile_append_of_pos hfront, List.dropWhile_append_of_pos hfront,
    dropWhile_of_head? hback]
  cases back with
  | nil => simp
  | cons c rest => simp [hback c rfl]

theorem stripBoth_of_forall_not {items : List α} (h : ∀ c ∈ items, test c = false) :
    stripBoth test items = items := by
  have hfront : items.dropWhile test = items :=
    dropWhile_of_head? fun c hc => h c (List.mem_of_mem_head? hc)
  have hback := rdropWhile_append_of_forall_not [] h
  rw [stripBoth_eq_rdropWhile, hfront]
  simpa using hback

theorem stripBoth_surround {front back : List α} (items : List α)
    (hfront : ∀ c ∈ front, test c = true) (hback : ∀ c ∈ back, test c = true) :
    stripBoth test (front ++ items ++ back) = stripBoth test items := by
  rw [stripBoth_eq_rdropWhile, stripBoth_eq_rdropWhile, List.append_assoc,
    List.dropWhile_append_of_pos hfront, List.dropWhile_append]
  by_cases hnil : (items.dropWhile test).isEmpty
  · have hnone : back.dropWhile test = [] := List.dropWhile_eq_nil_iff.mpr hback
    simp [hnone, List.isEmpty_iff.mp hnil]
  · simp only [hnil, Bool.false_eq_true, if_false]
    exact rdropWhile_append_of_forall _ hback

theorem exists_stripBoth_cons {c : α} (items : List α) (hc : test c = false) :
    ∃ rest, stripBoth test (c :: items) = c :: rest := by
  have hdrop : (c :: items).dropWhile test = c :: items := by simp [hc]
  refine ⟨items.rdropWhile test, ?_⟩
  rw [stripBoth_eq_rdropWhile, hdrop]
  exact rdropWhile_append_cons [] items hc

theorem exists_surround (test : α → Bool) (items : List α) :
    ∃ front back, front ++ stripBoth test items ++ back = items ∧
      (∀ c ∈ front, test c = true) ∧ ∀ c ∈ back, test c = true := by
  refine ⟨items.takeWhile test, (items.dropWhile test).rtakeWhile test, ?_,
    fun c hc => List.mem_takeWhile_imp hc, fun c hc => List.mem_rtakeWhile_imp hc⟩
  rw [stripBoth_eq_rdropWhile, List.append_assoc, List.rdropWhile_append_rtakeWhile,
    List.takeWhile_append_dropWhile]

theorem stripBoth_eq_nil_iff {items : List α} :
    stripBoth test items = [] ↔ ∀ c ∈ items, test c = true := by
  constructor
  · intro h
    obtain ⟨front, back, hitems, hfront, hback⟩ := exists_surround test items
    rw [h, List.append_nil] at hitems
    intro c hc
    rw [← hitems] at hc
    rcases List.mem_append.mp hc with hc | hc
    · exact hfront c hc
    · exact hback c hc
  · intro h
    rw [stripBoth_eq_rdropWhile, List.dropWhile_eq_nil_iff.mpr h, List.rdropWhile_nil]

theorem mem_stripBoth {c : α} {items : List α} (h : c ∈ items) (hc : test c = false) :
    c ∈ stripBoth test items := by
  have hfront := mem_dropWhile_of_not h hc
  rw [stripBoth, List.mem_reverse]
  exact mem_dropWhile_of_not (List.mem_reverse.mpr hfront) hc

theorem head?_stripBoth (items : List α) : ∀ c ∈ (stripBoth test items).head?, test c = false := by
  intro c hc
  have hdrop : (items.dropWhile test).head? = some c := by
    obtain ⟨back, hback⟩ := List.rdropWhile_prefix test (items.dropWhile test)
    rw [← hback, List.head?_append, ← stripBoth_eq_rdropWhile]
    rw [Option.mem_def] at hc
    rw [hc]
    rfl
  exact head?_dropWhile test items c hdrop

theorem exists_trim (text : List Char) :
    ∃ before after, before ++ trim text ++ after = text ∧
      (∀ c ∈ before, isBlank c = true) ∧ ∀ c ∈ after, isBlank c = true :=
  exists_surround isBlank text

theorem trim_trim (text : List Char) : trim (trim text) = trim text := by
  obtain ⟨before, after, htext, hbefore, hafter⟩ := exists_trim text
  calc trim (trim text) = trim (before ++ trim text ++ after) :=
        (stripBoth_surround (trim text) hbefore hafter).symm
    _ = trim text := by rw [htext]

end LogSieve
