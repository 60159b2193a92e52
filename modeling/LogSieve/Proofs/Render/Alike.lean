import LogSieve.Proofs.Render.PassThrough
import LogSieve.Run.Frequency

namespace LogSieve

theorem Double.canonical_of_equal {x y : Double} (h : x.equal y = true) :
    x.canonical = y.canonical := by
  by_cases hzero : x.toInt? = some 0
  · have hx := Double.whole?_of_toInt?_zero hzero
    have hy := Double.whole?_of_toInt?_zero (Double.toInt?_eq_of_equal h ▸ hzero)
    simp only [canonical, hx, hy]
  · rw [Double.eq_of_equal h hzero]

namespace Value

theorem canonical_of_alike {v w : Value} (h : v.Alike w) : v.canonical = w.canonical := by
  have hdocument := toJson_of_alike h
  cases h with
  | string s => rfl
  | number h => rw [canonical, canonical, Double.canonical_of_equal h]
  | bool b => rfl
  | null => rfl
  | object h => simp only [canonical, hdocument]
  | array h => simp only [canonical, hdocument]

theorem names_of_fieldsAlike {xs ys : List (String × Value)} (h : FieldsAlike xs ys) :
    xs.map Prod.fst = ys.map Prod.fst := by
  induction xs generalizing ys with
  | nil =>
    cases h
    rfl
  | cons field rest ih =>
    cases h with
    | cons name head tail => exact congrArg (name :: ·) (ih tail)

theorem get?_of_fieldsAlike (name : String) {xs ys : List (String × Value)}
    (h : FieldsAlike xs ys) :
    (Fields.get? name xs = none ∧ Fields.get? name ys = none) ∨
      ∃ v w, Fields.get? name xs = some v ∧ Fields.get? name ys = some w ∧ v.Alike w := by
  induction xs generalizing ys with
  | nil =>
    cases h
    exact .inl ⟨rfl, rfl⟩
  | cons field rest ih =>
    cases h with
    | cons other head tail =>
      simp only [Fields.get?, List.lookup_cons]
      cases name == other with
      | true => exact .inr ⟨_, _, rfl, rfl, head⟩
      | false => exact ih tail

end Value

section

variable {r s : Record} (h : r.Alike s)

include h

namespace Record

theorem names_of_alike : r.names = s.names :=
  Value.names_of_fieldsAlike h

theorem get?_of_alike (name : String) :
    (r.get? name = none ∧ s.get? name = none) ∨
      ∃ v w, r.get? name = some v ∧ s.get? name = some w ∧ v.Alike w :=
  Value.get?_of_fieldsAlike name h

theorem contains_of_alike (name : String) : r.contains name = s.contains name := by
  rcases get?_of_alike h name with ⟨hr, hs⟩ | ⟨v, w, hr, hs, -⟩ <;> simp [contains, hr, hs]

theorem textOf_of_alike (names : List String) : r.textOf names = s.textOf names := by
  induction names with
  | nil => rfl
  | cons name rest ih =>
    simp only [textOf, firstPresent?, List.findSome?_cons] at ih ⊢
    rcases get?_of_alike h name with ⟨hr, hs⟩ | ⟨v, w, hr, hs, hvw⟩
    · simpa only [hr, hs, Option.map_none] using ih
    · simp only [hr, hs, Option.map_some, Value.canonical_of_alike hvw]

end Record

namespace Filter

theorem holds_of_alike (filter : Filter) : filter.holds r = filter.holds s := by
  rcases Record.get?_of_alike h filter.field with ⟨hr, hs⟩ | ⟨v, w, hr, hs, hvw⟩
  · simp only [holds, hr, hs]
  · simp only [holds, hr, hs, Value.canonical_of_alike hvw]

theorem allHold_of_alike (filters : List Filter) : allHold filters r = allHold filters s := by
  induction filters with
  | nil => rfl
  | cons filter rest ih => rw [allHold, allHold, holds_of_alike h, ih]

end Filter

namespace Renderer

theorem pairs_of_alike (quote : List Char → List Char) (names : List String) :
    pairs quote r names = pairs quote s names := by
  induction names with
  | nil => rfl
  | cons name rest ih =>
    rw [pairs, pairs]
    rcases Record.get?_of_alike h name with ⟨hr, hs⟩ | ⟨v, w, hr, hs, hvw⟩
    · simp only [hr, hs, ih]
    · simp only [hr, hs, ih, Value.canonical_of_alike hvw]

theorem extras_of_alike (colored : Bool) (fields : List String) :
    extras colored fields r = extras colored fields s := by
  have hcontains : r.contains = s.contains := funext (Record.contains_of_alike h)
  have hnames : extraNames r fields = extraNames s fields := by
    rw [extraNames, extraNames, Record.names_of_alike h, hcontains]
  simp only [extras, hnames, pairs_of_alike h]

theorem render_of_alike (renderer : Renderer) : renderer.render r = renderer.render s := by
  cases renderer with
  | json pretty => simp only [render, Record.toJson_of_alike h]
  | text colored fields =>
    simp only [render, textLine, Record.textOf_of_alike h, extras_of_alike h]
  | logfmt => simp only [render, logfmtLine, Record.names_of_alike h, pairs_of_alike h]

end Renderer

theorem Frequency.valueOf?_of_alike (filters : List Filter) (field : String) :
    valueOf? filters field r = valueOf? filters field s := by
  have hvalue : valueOf field r = valueOf field s := by
    rcases Record.get?_of_alike h field with ⟨hr, hs⟩ | ⟨v, w, hr, hs, hvw⟩
    · simp only [valueOf, hr, hs]
    · simp only [valueOf, hr, hs, Value.canonical_of_alike hvw]
  rw [valueOf?, valueOf?, Filter.allHold_of_alike h, hvalue]

end

end LogSieve
