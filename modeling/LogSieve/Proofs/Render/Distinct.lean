import LogSieve.Proofs.Record.NumberText
import LogSieve.Proofs.Render.Alike

namespace LogSieve

namespace Json

-- A text is that of a number if reading one takes all of it.
theorem read?_of_number {text : List Char} {document : Json}
    (hlead : ∃ lead more, text = lead :: more ∧ (lead = '-' ∨ lead.isDigit = true))
    (h : number text = some (document, [])) : read? text = some document := by
  obtain ⟨lead, more, rfl, hlead⟩ := hlead
  rw [read?, value_number readDepth hlead, h]
  rfl

end Json

namespace Double

theorem read?_canonical {x : Double} (hx : x.isFinite = true) :
    ∃ document, Json.read? x.canonical = some document ∧
      (Value.ofJson document).Alike (.number x) := by
  cases hwhole : x.whole? with
  | some i =>
    have hequal := equal_ofInt (toInt?_of_whole? hwhole)
    have hnumber := Json.number_writeInt ((isFinite_of_equal hequal).trans hx) Json.endsNumber_nil
    rw [List.append_nil] at hnumber
    refine ⟨.int i, ?_, .number hequal⟩
    simp only [canonical, hwhole]
    exact Json.read?_of_number (Json.writeInt_lead i) hnumber
  | none =>
    cases x with
    | infinite negative => cases hx
    | nan => cases hx
    | finite negative units hr =>
      have hne : units ≠ 0 := by
        rintro rfl
        simp [whole?, toInt?] at hwhole
      have hnumber := Json.number_write .standalone negative hr hne Json.endsNumber_nil
      rw [List.append_nil] at hnumber
      refine ⟨.real (.finite negative units hr), ?_, .number (equal_self hx)⟩
      simp only [canonical, hwhole]
      exact Json.read?_of_number (Json.write_lead .standalone negative hr) hnumber

theorem equal_of_equal_left {x y z : Double} (hy : x.equal y = true) (hz : x.equal z = true) :
    y.equal z = true := by
  by_cases hzero : x.toInt? = some 0
  · -- Zeros are all equal.
    obtain ⟨negative, m, hm, rfl, hunits, -⟩ := exists_of_toInt? hzero
    cases y with
    | infinite negative => simp [equal] at hy
    | nan => simp [equal] at hy
    | finite s n hn =>
      cases z with
      | infinite negative => simp [equal] at hz
      | nan => simp [equal] at hz
      | finite t k hk =>
        simp only [Int.natAbs_zero, Nat.zero_mul] at hunits
        subst hunits
        simp only [equal, Bool.and_eq_true, beq_iff_eq] at hy hz
        simp [equal, ← hy.1, ← hz.1]
  · rw [← eq_of_equal hy hzero]
    exact hz

end Double

namespace Value

mutual

theorem alike_of_alike_left : ∀ {u v w : Value}, u.Alike v → u.Alike w → v.Alike w
  | _, _, _, .string s, .string _ => .string s
  | _, _, _, .number hv, .number hw => .number (Double.equal_of_equal_left hv hw)
  | _, _, _, .bool b, .bool _ => .bool b
  | _, _, _, .null, .null => .null
  | _, _, _, .object hv, .object hw => .object (fieldsAlike_of_left hv hw)
  | _, _, _, .array hv, .array hw => .array (itemsAlike_of_left hv hw)

theorem itemsAlike_of_left : ∀ {us vs ws : List Value},
    ItemsAlike us vs → ItemsAlike us ws → ItemsAlike vs ws
  | _, _, _, .nil, .nil => .nil
  | _, _, _, .cons hv hvs, .cons hw hws =>
    .cons (alike_of_alike_left hv hw) (itemsAlike_of_left hvs hws)

theorem fieldsAlike_of_left : ∀ {us vs ws : List (String × Value)},
    FieldsAlike us vs → FieldsAlike us ws → FieldsAlike vs ws
  | _, _, _, .nil, .nil => .nil
  | _, _, _, .cons name hv hvs, .cons _ hw hws =>
    .cons name (alike_of_alike_left hv hw) (fieldsAlike_of_left hvs hws)

end

inductive Within (v : Value) : Value → Prop
  | whole : Within v v
  | item {items : List Value} {item : Value} (hmem : item ∈ items) (h : Within v item) :
    Within v (.array items)
  | field {fields : List (String × Value)} {name : String} {item : Value}
    (hmem : (name, item) ∈ fields) (h : Within v item) : Within v (.object fields)

theorem wellFormed_of_mem_items {items : List Value} {item : Value} (h : ItemsWellFormed items)
    (hmem : item ∈ items) : item.WellFormed := by
  induction items with
  | nil => cases hmem
  | cons first rest ih =>
    rcases List.mem_cons.mp hmem with rfl | hmem
    · exact h.1
    · exact ih h.2 hmem

theorem wellFormed_of_mem_fields {fields : List (String × Value)} {name : String} {item : Value}
    (h : FieldsWellFormed fields) (hmem : (name, item) ∈ fields) : item.WellFormed := by
  induction fields with
  | nil => cases hmem
  | cons first rest ih =>
    rcases List.mem_cons.mp hmem with rfl | hmem
    · exact h.1
    · exact ih h.2 hmem

theorem Within.wellFormed {v w : Value} (h : v.Within w) (hw : w.WellFormed) : v.WellFormed := by
  induction h with
  | whole => exact hw
  | item hmem _ ih => exact ih (wellFormed_of_mem_items hw hmem)
  | field hmem _ ih => exact ih (wellFormed_of_mem_fields hw.2 hmem)

theorem read?_write {v : Value} (hv : v.WellFormed) {text : List Char}
    (htext : v.toJson.write false = .ok text) :
    ∃ document, Json.read? text = some document ∧ (ofJson document).Alike v := by
  obtain ⟨hfault, rfl⟩ := Json.eq_of_write htext
  exact ⟨v.toJson, Json.read?_compact (legible_toJson hv) hfault, alike_ofJson_toJson hv⟩

theorem read?_canonical {v : Value} (hv : v.WellFormed) (hkind : v.kind ≠ .string) {text : String}
    (htext : v.canonical = .ok text) :
    ∃ document, Json.read? text.toList = some document ∧ (ofJson document).Alike v := by
  have hwritten {v : Value} (h : (v.toJson.write false).map String.ofList = .ok text) :
      v.toJson.write false = .ok text.toList :=
    map_ofList_eq_iff.mp (by rwa [String.ofList_toList])
  cases v with
  | string s => exact absurd rfl hkind
  | number x =>
    cases htext
    rw [String.toList_ofList]
    exact Double.read?_canonical hv
  | bool b =>
    refine ⟨.bool b, ?_, .bool b⟩
    cases b with
    | true => cases htext; rfl
    | false => cases htext; rfl
  | null =>
    cases htext
    exact ⟨.null, rfl, .null⟩
  | object fields => exact read?_write hv (hwritten htext)
  | array items => exact read?_write hv (hwritten htext)

-- Two values that are no strings, wherever they stand in records that were read from JSON, have one
-- text exactly if they are alike: of one kind at every depth, with the same names, strings and
-- numbers, where both zeros are one. In what order fields were read does not show in a value.
theorem canonical_eq_iff {line other : List Char} {record again : Record} {v w : Value}
    {text shown : String} (hrecord : Dialect.jsonLines.readLine line = .ok record)
    (hagain : Dialect.jsonLines.readLine other = .ok again) (hv : v.Within (.object record.fields))
    (hw : w.Within (.object again.fields)) (hvkind : v.kind ≠ .string) (hwkind : w.kind ≠ .string)
    (htext : v.canonical = .ok text) (hshown : w.canonical = .ok shown) :
    text = shown ↔ v.Alike w := by
  have hvwell := hv.wellFormed ⟨record.ordered, Dialect.wellFormed_of_readLine hrecord⟩
  have hwwell := hw.wellFormed ⟨again.ordered, Dialect.wellFormed_of_readLine hagain⟩
  constructor
  · rintro rfl
    obtain ⟨document, hread, halike⟩ := read?_canonical hvwell hvkind htext
    obtain ⟨found, hfound, hlike⟩ := read?_canonical hwwell hwkind hshown
    rw [hread] at hfound
    cases hfound
    exact alike_of_alike_left halike hlike
  · intro halike
    have hsame := canonical_of_alike halike
    rw [htext, hshown] at hsame
    exact Except.ok.inj hsame

-- Fields in another order, another spelling of a number and another zero: one text, and alike.
theorem canonical_eq_iff_respelled :
    let line := "\x7b\"a\":[1e-5,\x7b\"y\":-0.0,\"x\":\"é\"\x7d]\x7d".toList
    let other := "\x7b\"b\":[0.00001,\x7b\"x\":\"\\u00e9\",\"y\":0\x7d]\x7d".toList
    let shown := "[0.00001,\x7b\"x\":\"é\",\"y\":0\x7d]"
    ∃ (record again : Record) (v w : Value), Dialect.jsonLines.readLine line = .ok record ∧
      Dialect.jsonLines.readLine other = .ok again ∧
      v.Within (.object record.fields) ∧ w.Within (.object again.fields) ∧
      v.canonical = .ok shown ∧ w.canonical = .ok shown ∧ v.Alike w := by
  intro line other shown
  have hstands (text : List Char) (name : String)
      (h : ((Dialect.jsonLines.readLine text).toOption.bind (·.get? name)).map
        (fun v => (v.kind, v.canonical)) = some (.array, .ok shown)) :
      ∃ (record : Record) (v : Value), Dialect.jsonLines.readLine text = .ok record ∧
        v.Within (.object record.fields) ∧ v.kind ≠ .string ∧ v.canonical = .ok shown := by
    cases hread : Dialect.jsonLines.readLine text with
    | error fault => simp [hread, Except.toOption] at h
    | ok record =>
      simp only [hread, Except.toOption, Option.bind_some, Option.map_eq_some_iff,
        Prod.mk.injEq] at h
      obtain ⟨v, hv, hkind, htext⟩ := h
      exact ⟨record, v, rfl, .field (Fields.mem_of_get? hv) .whole, by simp [hkind], htext⟩
  obtain ⟨record, v, hrecord, hv, hvkind, hvtext⟩ := hstands line "a"
    (by decide +kernel)
  obtain ⟨again, w, hagain, hw, hwkind, hwtext⟩ := hstands other "b"
    (by decide +kernel)
  have halike := (canonical_eq_iff hrecord hagain hv hw hvkind hwkind hvtext hwtext).mp rfl
  exact ⟨record, again, v, w, hrecord, hagain, hv, hw, hvtext, hwtext, halike⟩

end Value

end LogSieve
