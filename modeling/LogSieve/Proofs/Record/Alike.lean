import LogSieve.Proofs.Json.ReadBack
import LogSieve.Proofs.Record.Fields
import LogSieve.Record.Basic

namespace LogSieve.Value

mutual

-- Numbers are finite, and the fields of every object are in order, as in every value that is read.
def WellFormed : Value → Prop
  | .number x => x.isFinite = true
  | .object fields => Fields.Ordered fields ∧ FieldsWellFormed fields
  | .array items => ItemsWellFormed items
  | _ => True

def ItemsWellFormed : List Value → Prop
  | [] => True
  | item :: rest => WellFormed item ∧ ItemsWellFormed rest

def FieldsWellFormed : List (String × Value) → Prop
  | [] => True
  | (_, item) :: rest => WellFormed item ∧ FieldsWellFormed rest

end

mutual

-- Two values agree in kind at every depth, in names and in what stands under them; of numbers,
-- both zeros are one.
inductive Alike : Value → Value → Prop
  | string (s : String) : Alike (.string s) (.string s)
  | number {x y : Double} (h : x.equal y = true) : Alike (.number x) (.number y)
  | bool (b : Bool) : Alike (.bool b) (.bool b)
  | null : Alike .null .null
  | object {xs ys : List (String × Value)} (h : FieldsAlike xs ys) : Alike (.object xs) (.object ys)
  | array {xs ys : List Value} (h : ItemsAlike xs ys) : Alike (.array xs) (.array ys)

inductive ItemsAlike : List Value → List Value → Prop
  | nil : ItemsAlike [] []
  | cons {v w : Value} {vs ws : List Value} (head : Alike v w) (tail : ItemsAlike vs ws) :
    ItemsAlike (v :: vs) (w :: ws)

inductive FieldsAlike : List (String × Value) → List (String × Value) → Prop
  | nil : FieldsAlike [] []
  | cons {v w : Value} {vs ws : List (String × Value)} (name : String) (head : Alike v w)
    (tail : FieldsAlike vs ws) : FieldsAlike ((name, v) :: vs) ((name, w) :: ws)

end

theorem fieldsWellFormed_insert {name : String} {value : Value} {fields : List (String × Value)}
    (hvalue : value.WellFormed) (h : FieldsWellFormed fields) :
    FieldsWellFormed (Fields.insert name value fields) := by
  induction fields with
  | nil => exact ⟨hvalue, trivial⟩
  | cons entry rest ih =>
    obtain ⟨other, kept⟩ := entry
    unfold Fields.insert
    split_ifs
    · exact ⟨hvalue, h⟩
    · exact ⟨hvalue, h.2⟩
    · exact ⟨h.1, ih h.2⟩

private theorem fieldsWellFormed_foldl_insert {entries fields : List (String × Value)}
    (hentries : FieldsWellFormed entries) (h : FieldsWellFormed fields) :
    FieldsWellFormed
      (entries.foldl (fun fields entry => Fields.insert entry.1 entry.2 fields) fields) := by
  induction entries generalizing fields with
  | nil => exact h
  | cons entry rest ih => exact ih hentries.2 (fieldsWellFormed_insert hentries.1 h)

theorem fieldsWellFormed_ofList {entries : List (String × Value)}
    (h : FieldsWellFormed entries) : FieldsWellFormed (Fields.ofList entries) :=
  fieldsWellFormed_foldl_insert h trivial

mutual

theorem wellFormed_ofJson : ∀ {document : Json}, document.Legible → (ofJson document).WellFormed
  | .null, _ => trivial
  | .bool _, _ => trivial
  | .int _, h => h
  | .real _, h => h
  | .string _, _ => trivial
  | .array _, h => itemsWellFormed_ofItems h
  | .object _, h => ⟨Fields.ordered_ofList _, fieldsWellFormed_ofList (fieldsWellFormed_ofMembers h)⟩

theorem itemsWellFormed_ofItems : ∀ {items : List Json}, Json.LegibleItems items →
    ItemsWellFormed (ofItems items)
  | [], _ => trivial
  | _ :: _, h => ⟨wellFormed_ofJson h.1, itemsWellFormed_ofItems h.2⟩

theorem fieldsWellFormed_ofMembers : ∀ {members : List (String × Json)},
    Json.LegibleMembers members → FieldsWellFormed (ofMembers members)
  | [], _ => trivial
  | _ :: _, h => ⟨wellFormed_ofJson h.1, fieldsWellFormed_ofMembers h.2⟩

end

theorem names_ofMembers (members : List (String × Json)) :
    (ofMembers members).map Prod.fst = members.map Prod.fst := by
  induction members with
  | nil => rfl
  | cons member rest ih => simp [ofMembers, ih]

theorem names_toMembers (fields : List (String × Value)) :
    (toMembers fields).map Prod.fst = fields.map Prod.fst := by
  induction fields with
  | nil => rfl
  | cons entry rest ih => simp [toMembers, ih]

-- Fields in order come back in order, so nothing is lost to a repeated name.
theorem ofList_ofMembers_toMembers {fields : List (String × Value)} (h : Fields.Ordered fields) :
    Fields.ofList (ofMembers (toMembers fields)) = ofMembers (toMembers fields) := by
  apply Fields.ofList_of_ordered
  rw [Fields.Ordered, names_ofMembers, names_toMembers]
  exact h

end LogSieve.Value

namespace LogSieve.Double

theorem equal_self {x : Double} (h : x.isFinite = true) : x.equal x = true := by
  cases x <;> simp_all [isFinite, equal]

theorem isFinite_ofNat_toNat (b : Bool) : (ofNat b.toNat).isFinite = true := by
  cases b <;> decide +kernel

theorem isFinite_of_equal {x y : Double} (h : x.equal y = true) : x.isFinite = y.isFinite := by
  cases x <;> cases y <;> simp_all [isFinite, equal]

theorem toInt?_of_whole? {x : Double} {i : Int} (h : x.whole? = some i) : x.toInt? = some i :=
  (Option.filter_eq_some_iff.mp h).1

theorem whole?_of_toInt?_zero {x : Double} (h : x.toInt? = some 0) : x.whole? = some 0 := by
  simp [whole?, h]

end LogSieve.Double

namespace LogSieve.Value

theorem alike_number {x : Double} (h : x.isFinite = true) :
    (ofJson (toJson (.number x))).Alike (.number x) := by
  rw [toJson]
  cases hwhole : x.whole? with
  | none => exact .number (Double.equal_self h)
  | some i => exact .number (Double.equal_ofInt (Double.toInt?_of_whole? hwhole))

-- Numbers that are equal are written alike: either both are zero, or they are one double.
theorem toJson_number_of_equal {x y : Double} (h : x.equal y = true) :
    toJson (.number x) = toJson (.number y) := by
  by_cases hzero : x.toInt? = some 0
  · have hx := Double.whole?_of_toInt?_zero hzero
    have hy := Double.whole?_of_toInt?_zero (Double.toInt?_eq_of_equal h ▸ hzero)
    simp [toJson, hx, hy]
  · rw [Double.eq_of_equal h hzero]

theorem legible_number {x : Double} (h : x.isFinite = true) : (toJson (.number x)).Legible := by
  rw [toJson]
  cases hwhole : x.whole? with
  | none => exact h
  | some i =>
    have hequal := Double.equal_ofInt (Double.toInt?_of_whole? hwhole)
    exact (Double.isFinite_of_equal hequal).trans h

mutual

theorem legible_toJson : ∀ {v : Value}, v.WellFormed → v.toJson.Legible
  | .string _, _ => trivial
  | .number _, h => legible_number h
  | .bool _, _ => trivial
  | .null, _ => trivial
  | .object _, h => legible_toMembers h.2
  | .array _, h => legible_toItems h

theorem legible_toItems : ∀ {items : List Value}, ItemsWellFormed items →
    Json.LegibleItems (toItems items)
  | [], _ => trivial
  | _ :: _, h => ⟨legible_toJson h.1, legible_toItems h.2⟩

theorem legible_toMembers : ∀ {fields : List (String × Value)}, FieldsWellFormed fields →
    Json.LegibleMembers (toMembers fields)
  | [], _ => trivial
  | _ :: _, h => ⟨legible_toJson h.1, legible_toMembers h.2⟩

end

mutual

theorem alike_ofJson_toJson : ∀ {v : Value}, v.WellFormed → (ofJson v.toJson).Alike v
  | .string s, _ => .string s
  | .number _, h => alike_number h
  | .bool b, _ => .bool b
  | .null, _ => .null
  | .object fields, h => by
    rw [toJson, ofJson, ofList_ofMembers_toMembers h.1]
    exact .object (alike_ofMembers_toMembers h.2)
  | .array _, h => .array (alike_ofItems_toItems h)

theorem alike_ofItems_toItems : ∀ {items : List Value}, ItemsWellFormed items →
    ItemsAlike (ofItems (toItems items)) items
  | [], _ => .nil
  | _ :: _, h => .cons (alike_ofJson_toJson h.1) (alike_ofItems_toItems h.2)

theorem alike_ofMembers_toMembers : ∀ {fields : List (String × Value)}, FieldsWellFormed fields →
    FieldsAlike (ofMembers (toMembers fields)) fields
  | [], _ => .nil
  | (name, _) :: _, h => .cons name (alike_ofJson_toJson h.1) (alike_ofMembers_toMembers h.2)

end

mutual

theorem toJson_of_alike : ∀ {v w : Value}, v.Alike w → v.toJson = w.toJson
  | _, _, .string _ => rfl
  | _, _, .number h => toJson_number_of_equal h
  | _, _, .bool _ => rfl
  | _, _, .null => rfl
  | _, _, .object h => by rw [toJson, toJson, toMembers_of_alike h]
  | _, _, .array h => by rw [toJson, toJson, toItems_of_alike h]

theorem toItems_of_alike : ∀ {vs ws : List Value}, ItemsAlike vs ws → toItems vs = toItems ws
  | _, _, .nil => rfl
  | _, _, .cons head tail => by
    rw [toItems, toItems, toJson_of_alike head, toItems_of_alike tail]

theorem toMembers_of_alike : ∀ {vs ws : List (String × Value)}, FieldsAlike vs ws →
    toMembers vs = toMembers ws
  | _, _, .nil => rfl
  | _, _, .cons _ head tail => by
    rw [toMembers, toMembers, toJson_of_alike head, toMembers_of_alike tail]

end

mutual

theorem equal_of_alike : ∀ {v w : Value}, v.Alike w → v.equal w = true
  | _, _, .string _ => by simp [equal]
  | _, _, .number h => by simpa only [equal, asNumber?] using h
  | _, _, .bool b => by
    simpa only [equal, asNumber?] using Double.equal_self (Double.isFinite_ofNat_toNat b)
  | _, _, .null => rfl
  | _, _, .object h => equalFields_of_alike h
  | _, _, .array h => equalItems_of_alike h

theorem equalItems_of_alike : ∀ {vs ws : List Value}, ItemsAlike vs ws → equalItems vs ws = true
  | _, _, .nil => rfl
  | _, _, .cons head tail => by simp [equalItems, equal_of_alike head, equalItems_of_alike tail]

theorem equalFields_of_alike : ∀ {vs ws : List (String × Value)}, FieldsAlike vs ws →
    equalFields vs ws = true
  | _, _, .nil => rfl
  | _, _, .cons _ head tail => by
    simp [equalFields, equal_of_alike head, equalFields_of_alike tail]

end

end LogSieve.Value
