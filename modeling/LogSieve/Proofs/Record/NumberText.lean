import LogSieve.Proofs.Attempt
import LogSieve.Proofs.Number.Style
import LogSieve.Proofs.Record.Limits
import LogSieve.Render.Line

namespace LogSieve

namespace Renderer

theorem exists_joinWith_around (separator : List Char) (before behind : List (List Char)) :
    ∃ left right, ∀ part,
      joinWith separator (before ++ part :: behind) = left ++ (part ++ right) := by
  induction before with
  | nil =>
    cases behind with
    | nil => exact ⟨[], [], fun part => by simp [joinWith]⟩
    | cons next rest =>
      refine ⟨[], separator ++ joinWith separator (next :: rest), fun part => ?_⟩
      simp [joinWith]
  | cons first before ih =>
    obtain ⟨left, right, hjoin⟩ := ih
    refine ⟨first ++ separator ++ left, right, fun part => ?_⟩
    have hcons : ∀ parts, parts ≠ [] → joinWith separator (first :: parts) =
        first ++ separator ++ joinWith separator parts := by
      intro parts hne
      cases parts with
      | nil => exact absurd rfl hne
      | cons next rest => rfl
    rw [List.cons_append, hcons _ (by simp), hjoin part, List.append_assoc _ left]

end Renderer

namespace Json

def memberText (name : String) (text : List Char) : List Char :=
  quote name ++ ':' :: text

theorem compactMembers_eq (members : List (String × Json)) :
    compactMembers members = Renderer.joinWith [',']
      (members.map fun (name, item) => memberText name item.compact) ++ ['}'] := by
  induction members with
  | nil => rfl
  | cons first rest ih =>
    obtain ⟨name, item⟩ := first
    cases rest with
    | nil => simp [compactMembers, Renderer.joinWith, memberText]
    | cons next rest =>
      simp only [List.map_cons] at ih
      simp [compactMembers, Renderer.joinWith, memberText, ih]

theorem memberText_injective (name : String) : Function.Injective (memberText name) := by
  intro text other h
  simpa [memberText] using h

-- A document in which everything but one number is within the limits of writing shows that number as
-- it is shown on its own exactly if the number is neither too large for 64 bits nor too small.
theorem write_eq_iff {x : Double} (hx : x.isFinite = true) {document : Json}
    {around : List Char → List Char} (haround : Function.Injective around)
    (hcompact : document.compact = around (Value.number x).toJson.compact)
    (hfault : document.fault? writeDepth = none ↔ ¬x.IsOversized) :
    document.write false = .ok (around x.canonical) ↔
      ¬x.IsOversized ∧
        ¬((10 : ℚ) ^ (-9 : Int) ≤ x.magnitude ∧ x.magnitude < (10 : ℚ) ^ (-4 : Int)) := by
  rw [← hfault, ← Double.canonical_eq_compact_iff hx, write]
  cases document.fault? writeDepth with
  | some fault => simp
  | none =>
    simp only [Bool.false_eq_true, if_false, Except.ok.injEq, hcompact, haround.eq_iff, true_and]
    exact eq_comm

end Json

namespace Value

theorem fieldsNumbers_append (fields others : List (String × Value)) :
    fieldsNumbers (fields ++ others) = fieldsNumbers fields ++ fieldsNumbers others := by
  induction fields with
  | nil => rfl
  | cons field rest ih =>
    rw [List.cons_append, fieldsNumbers, fieldsNumbers, ih, List.append_assoc]

theorem fieldsNesting_append (fields others : List (String × Value)) :
    fieldsNesting (fields ++ others) = max (fieldsNesting fields) (fieldsNesting others) := by
  induction fields with
  | nil => simp [fieldsNesting]
  | cons field rest ih =>
    rw [List.cons_append, fieldsNesting, fieldsNesting, ih, Nat.max_assoc]

def fieldText (field : String × Value) : List Char :=
  Json.memberText field.1 field.2.toJson.compact

theorem map_toMembers (fields : List (String × Value)) :
    (toMembers fields).map (fun (name, item) => Json.memberText name item.compact) =
      fields.map fieldText := by
  induction fields with
  | nil => rfl
  | cons field rest ih => rw [toMembers, List.map_cons, ih, List.map_cons, fieldText]

end Value

namespace Record

theorem compact_toJson (record : Record) :
    record.toJson.compact =
      '{' :: (Renderer.joinWith [','] (record.fields.map Value.fieldText) ++ ['}']) := by
  rw [toJson, Json.compact, Json.compactMembers_eq, Value.map_toMembers]

-- A number as one more field does not put a record beyond the limits of writing, unless the number
-- itself is beyond them.
theorem fault?_toJson_number {before behind : List (String × Value)} {name : String} {x : Double}
    {record others : Record} (hrecord : record.fields = before ++ (name, .number x) :: behind)
    (hothers : others.fields = before ++ behind)
    (hwritable : others.toJson.fault? Json.writeDepth = none) :
    record.toJson.fault? Json.writeDepth = none ↔ ¬x.IsOversized := by
  rw [fault?_toJson_eq_none_iff] at hwritable ⊢
  obtain ⟨hnesting, hnumbers⟩ := hwritable
  rw [nesting, hothers, Value.fieldsNesting_append] at hnesting
  rw [numbers, hothers, Value.fieldsNumbers_append, List.forall_mem_append] at hnumbers
  simp only [nesting, numbers, hrecord, Value.fieldsNesting_append, Value.fieldsNumbers_append,
    Value.fieldsNesting, Value.fieldsNumbers, Value.nesting, Value.numbers,
    List.forall_mem_append, List.forall_mem_singleton, Nat.zero_max]
  constructor
  · intro h
    exact h.2.2.1
  · intro h
    exact ⟨hnesting, hnumbers.1, h, hnumbers.2⟩

end Record

namespace Value

theorem map_ofList_eq_iff {written : Except Json.WriteFault (List Char)} {text : List Char} :
    written.map String.ofList = .ok (String.ofList text) ↔ written = .ok text := by
  cases written with
  | error fault => simp [Except.map]
  | ok shown => simp [Except.map, String.ofList_inj]

theorem canonical_array_eq_iff (items : List Value) (text : List Char) :
    (array items).canonical = .ok (String.ofList text) ↔
      (array items).toJson.write false = .ok text :=
  map_ofList_eq_iff

theorem canonical_object_eq_iff (fields : List (String × Value)) (text : List Char) :
    (object fields).canonical = .ok (String.ofList text) ↔
      (object fields).toJson.write false = .ok text :=
  map_ofList_eq_iff

end Value

namespace Renderer

theorem render_json_eq_iff (record : Record) (text : List Char) :
    (json false).render record = .ok (text ++ ['\n']) ↔ record.toJson.write false = .ok text := by
  rw [render]
  cases record.toJson.write false with
  | error fault => simp [Except.map]
  | ok shown => simp [Except.map]

theorem fault?_of_render_json {record : Record} {text : List Char}
    (h : (json false).render record = .ok text) :
    record.toJson.fault? Json.writeDepth = none := by
  obtain ⟨body, hbody, -⟩ := exists_of_map h
  exact (Json.eq_of_write hbody).1

end Renderer

namespace Value

-- A finite number has one text wherever it stands: in an array, in an object, and in a record that is
-- rendered as JSON with any other fields that can be. Only a whole number that has no 64-bit form
-- cannot be shown there, and one between `10 ^ -9` and `10 ^ -4` is shown otherwise.
theorem number_text_iff {x : Double} (hx : x.isFinite = true) :
    let alike := ¬x.IsOversized ∧
      ¬((10 : ℚ) ^ (-9 : Int) ≤ x.magnitude ∧ x.magnitude < (10 : ℚ) ^ (-4 : Int))
    ((array [number x]).canonical = .ok (String.ofList ('[' :: (x.canonical ++ [']']))) ↔ alike) ∧
    (∀ key, (object [(key, number x)]).canonical =
      .ok (String.ofList ('{' :: (Json.memberText key x.canonical ++ ['}']))) ↔ alike) ∧
    (∀ before key behind (record others : Record),
      record.fields = before ++ (key, number x) :: behind → others.fields = before ++ behind →
      (∃ text, (Renderer.json false).render others = .ok text) →
      ((Renderer.json false).render record = .ok ('{' :: (Renderer.joinWith [',']
        (before.map fieldText ++ Json.memberText key x.canonical :: behind.map fieldText) ++
          ['}']) ++ ['\n']) ↔ alike)) := by
  intro alike
  refine ⟨?_, fun key => ?_, fun before key behind record others hrecord hothers hrendered => ?_⟩
  · -- In each place the text around the number tells its own text.
    have haround : Function.Injective fun text : List Char => '[' :: (text ++ [']']) := by
      intro text other h
      simpa using h
    have hfault : (array [number x]).toJson.fault? Json.writeDepth = none ↔ ¬x.IsOversized := by
      rw [fault?_toJson_eq_none_iff]
      simp [nesting, itemsNesting, numbers, itemsNumbers, Json.writeDepth]
    rw [canonical_array_eq_iff]
    exact Json.write_eq_iff hx haround rfl hfault
  · have haround : Function.Injective fun text =>
        '{' :: (Json.memberText key text ++ ['}']) := by
      intro text other h
      exact Json.memberText_injective key (by simpa using h)
    have hcompact : (object [(key, number x)]).toJson.compact =
        '{' :: (Json.memberText key (number x).toJson.compact ++ ['}']) := by
      simp [toJson, toMembers, Json.compact, Json.compactMembers, Json.memberText]
    have hfault : (object [(key, number x)]).toJson.fault? Json.writeDepth = none ↔
        ¬x.IsOversized := by
      rw [fault?_toJson_eq_none_iff]
      simp [nesting, fieldsNesting, numbers, fieldsNumbers, Json.writeDepth]
    rw [canonical_object_eq_iff]
    exact Json.write_eq_iff hx haround hcompact hfault
  · obtain ⟨left, right, hjoin⟩ :=
      Renderer.exists_joinWith_around [','] (before.map fieldText) (behind.map fieldText)
    have haround : Function.Injective fun text => '{' :: (Renderer.joinWith [',']
        (before.map fieldText ++ Json.memberText key text :: behind.map fieldText) ++ ['}']) := by
      intro text other h
      simp only [hjoin] at h
      exact Json.memberText_injective key (by simpa using h)
    have hcompact : record.toJson.compact = '{' :: (Renderer.joinWith [',']
        (before.map fieldText ++ Json.memberText key (number x).toJson.compact ::
          behind.map fieldText) ++ ['}']) := by
      rw [record.compact_toJson, hrecord, List.map_append, List.map_cons, fieldText]
    obtain ⟨text, htext⟩ := hrendered
    have hfault := Record.fault?_toJson_number hrecord hothers (Renderer.fault?_of_render_json htext)
    rw [Renderer.render_json_eq_iff]
    exact Json.write_eq_iff hx haround hcompact hfault

theorem number_text_betweenFields :
    let x := Double.ofRatio false 5 2
    ∃ record : Record, record.fields = [("a", .null), ("n", .number x), ("z", .bool true)] ∧
      (array [number x]).canonical = .ok "[2.5]" ∧
      (Renderer.json false).render record =
        .ok "\x7b\"a\":null,\"n\":2.5,\"z\":true\x7d\n".toList := by
  intro x
  have hordered : Fields.Ordered [("a", null), ("n", number x), ("z", bool true)] := by
    unfold Fields.Ordered
    decide +kernel
  have hothers : Fields.Ordered [("a", null), ("z", bool true)] := by
    unfold Fields.Ordered
    decide +kernel
  have hrendered : (Renderer.json false).render ⟨_, hothers⟩ =
      .ok "\x7b\"a\":null,\"z\":true\x7d\n".toList := rfl
  have harray : (array [number x]).canonical =
      .ok (String.ofList ('[' :: (x.canonical ++ [']']))) := by
    decide +kernel
  obtain ⟨halike, -, hrecord⟩ := number_text_iff (by decide +kernel : x.isFinite = true)
  refine ⟨⟨_, hordered⟩, rfl, by decide +kernel, ?_⟩
  have hshown := (hrecord [("a", null)] "n" [("z", bool true)] ⟨_, hordered⟩ ⟨_, hothers⟩ rfl rfl
    ⟨_, hrendered⟩).mpr (halike.mp harray)
  rw [hshown]
  decide +kernel

-- A hundred-thousandth has an exponent on its own and a point in an array.
theorem not_number_text :
    ¬∀ x : Double, x.isFinite = true →
      (array [number x]).canonical = .ok (String.ofList ('[' :: (x.canonical ++ [']']))) := by
  intro h
  have htiny : (Decimal.toDouble false ⟨1, -5⟩).canonical = "1e-05".toList := by decide +kernel
  have harray : (array [number (Decimal.toDouble false ⟨1, -5⟩)]).canonical = .ok "[0.00001]" := by
    decide +kernel
  have hall := h _ (by decide +kernel : (Decimal.toDouble false ⟨1, -5⟩).isFinite = true)
  rw [harray, htiny] at hall
  exact absurd hall (by decide +kernel)

end Value

end LogSieve
