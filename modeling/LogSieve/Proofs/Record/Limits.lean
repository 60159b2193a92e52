import LogSieve.Record.Basic
import Mathlib.Tactic.Ring

namespace LogSieve

-- A whole number below `10 ^ 21` in magnitude that has no 64-bit form, signed or unsigned.
def Double.IsOversized (x : Double) : Prop :=
  ∃ i, x.toInt? = some i ∧ i.natAbs < 10 ^ 21 ∧ ¬(-2 ^ 63 ≤ i ∧ i ≤ 2 ^ 64 - 1)

theorem Json.fitsWord_eq_false_iff (i : Int) :
    fitsWord i = false ↔ ¬(-2 ^ 63 ≤ i ∧ i ≤ 2 ^ 64 - 1) := by
  have hsigned : Int.pow 2 63 = 2 ^ 63 := rfl
  have hunsigned : Int.pow 2 64 = 2 ^ 64 := rfl
  rw [fitsWord, hsigned, hunsigned, Bool.and_eq_false_iff, decide_eq_false_iff_not,
    decide_eq_false_iff_not]
  omega

theorem Double.isOversized_iff (x : Double) :
    x.IsOversized ↔ ∃ i, x.whole? = some i ∧ Json.fitsWord i = false := by
  unfold IsOversized whole?
  constructor
  · rintro ⟨i, hi, hsmall, hwide⟩
    refine ⟨i, Option.filter_eq_some_iff.mpr ⟨hi, decide_eq_true hsmall⟩, ?_⟩
    exact (Json.fitsWord_eq_false_iff i).mpr hwide
  · rintro ⟨i, hi, hwide⟩
    obtain ⟨hi, hsmall⟩ := Option.filter_eq_some_iff.mp hi
    refine ⟨i, hi, of_decide_eq_true hsmall, ?_⟩
    exact (Json.fitsWord_eq_false_iff i).mp hwide

theorem Json.eq_of_write {pretty : Bool} {document : Json} {text : List Char}
    (h : document.write pretty = .ok text) :
    document.fault? writeDepth = none ∧
      text = if pretty then document.indented 0 else document.compact := by
  rw [write] at h
  cases hfault : document.fault? writeDepth with
  | some fault => simp [hfault] at h
  | none =>
    rw [hfault] at h
    exact ⟨rfl, (Except.ok.inj h).symm⟩

namespace Value

mutual

def numbers : Value → List Double
  | .number x => [x]
  | .object fields => fieldsNumbers fields
  | .array items => itemsNumbers items
  | _ => []

def itemsNumbers : List Value → List Double
  | [] => []
  | item :: rest => numbers item ++ itemsNumbers rest

def fieldsNumbers : List (String × Value) → List Double
  | [] => []
  | (_, item) :: rest => numbers item ++ fieldsNumbers rest

end

mutual

-- How many containers a value has inside one another, itself counted.
def nesting : Value → Nat
  | .object fields => fieldsNesting fields + 1
  | .array items => itemsNesting items + 1
  | _ => 0

def itemsNesting : List Value → Nat
  | [] => 0
  | item :: rest => max (nesting item) (itemsNesting rest)

def fieldsNesting : List (String × Value) → Nat
  | [] => 0
  | (_, item) :: rest => max (nesting item) (fieldsNesting rest)

end

theorem fault?_number_eq_none_iff (x : Double) (depth : Nat) :
    (toJson (.number x)).fault? depth = none ↔ ¬x.IsOversized := by
  rw [Double.isOversized_iff, toJson]
  cases h : x.whole? with
  | none => simp [Json.fault?]
  | some i => cases hfits : Json.fitsWord i <;> simp [Json.fault?, hfits]

mutual

theorem fault?_toJson_eq_none_iff : ∀ (v : Value) (depth : Nat),
    v.toJson.fault? depth = none ↔ v.nesting ≤ depth ∧ ∀ x ∈ v.numbers, ¬x.IsOversized
  | .string _, _ => by simp [toJson, Json.fault?, nesting, numbers]
  | .bool _, _ => by simp [toJson, Json.fault?, nesting, numbers]
  | .null, _ => by simp [toJson, Json.fault?, nesting, numbers]
  | .number x, depth => by
    rw [fault?_number_eq_none_iff]
    simp [nesting, numbers]
  | .array _, 0 => by simp [toJson, Json.fault?, nesting]
  | .array items, depth + 1 => by
    simp only [toJson, Json.fault?, nesting, numbers, Nat.add_le_add_iff_right]
    exact itemsFault?_toItems_eq_none_iff items depth
  | .object _, 0 => by simp [toJson, Json.fault?, nesting]
  | .object fields, depth + 1 => by
    simp only [toJson, Json.fault?, nesting, numbers, Nat.add_le_add_iff_right]
    exact membersFault?_toMembers_eq_none_iff fields depth

theorem itemsFault?_toItems_eq_none_iff : ∀ (items : List Value) (depth : Nat),
    Json.itemsFault? depth (toItems items) = none ↔
      itemsNesting items ≤ depth ∧ ∀ x ∈ itemsNumbers items, ¬x.IsOversized
  | [], _ => by simp [toItems, Json.itemsFault?, itemsNesting, itemsNumbers]
  | item :: rest, depth => by
    have hitem := fault?_toJson_eq_none_iff item depth
    have hrest := itemsFault?_toItems_eq_none_iff rest depth
    simp only [toItems, Json.itemsFault?, Option.or_eq_none_iff, hitem, hrest, itemsNesting,
      itemsNumbers, Nat.max_le, List.forall_mem_append]
    exact and_and_and_comm

theorem membersFault?_toMembers_eq_none_iff : ∀ (fields : List (String × Value)) (depth : Nat),
    Json.membersFault? depth (toMembers fields) = none ↔
      fieldsNesting fields ≤ depth ∧ ∀ x ∈ fieldsNumbers fields, ¬x.IsOversized
  | [], _ => by simp [toMembers, Json.membersFault?, fieldsNesting, fieldsNumbers]
  | (_, item) :: rest, depth => by
    have hitem := fault?_toJson_eq_none_iff item depth
    have hrest := membersFault?_toMembers_eq_none_iff rest depth
    simp only [toMembers, Json.membersFault?, Option.or_eq_none_iff, hitem, hrest, fieldsNesting,
      fieldsNumbers, Nat.max_le, List.forall_mem_append]
    exact and_and_and_comm

end

-- A value is within the limits of writing: few enough containers inside one another, and no whole
-- number that is too large.
def Writable (v : Value) : Prop :=
  v.nesting ≤ Json.writeDepth ∧ ∀ x ∈ v.numbers, ¬x.IsOversized

theorem exists_write_iff (v : Value) (pretty : Bool) :
    (∃ text, v.toJson.write pretty = .ok text) ↔ v.Writable := by
  unfold Json.write Writable
  rw [← fault?_toJson_eq_none_iff]
  cases v.toJson.fault? Json.writeDepth <;> simp

def HasText : Value → Prop
  | .object fields => Writable (.object fields)
  | .array items => Writable (.array items)
  | _ => True

theorem exists_canonical_iff (v : Value) : (∃ text, v.canonical = .ok text) ↔ v.HasText := by
  have hwrite := exists_write_iff v false
  cases v with
  | object fields =>
    have htext : (object fields).canonical =
        ((object fields).toJson.write false).map String.ofList := rfl
    rw [HasText, ← hwrite, htext]
    cases (object fields).toJson.write false <;> simp [Except.map]
  | array items =>
    have htext : (array items).canonical =
        ((array items).toJson.write false).map String.ofList := rfl
    rw [HasText, ← hwrite, htext]
    cases (array items).toJson.write false <;> simp [Except.map]
  | bool b => cases b <;> simp [HasText, canonical]
  | string s => simp [HasText, canonical]
  | number x => simp [HasText, canonical]
  | null => simp [HasText, canonical]

end Value

namespace Record

def numbers (record : Record) : List Double :=
  Value.fieldsNumbers record.fields

def nesting (record : Record) : Nat :=
  Value.fieldsNesting record.fields + 1

theorem fault?_toJson_eq_none_iff (record : Record) :
    record.toJson.fault? Json.writeDepth = none ↔
      record.nesting ≤ Json.writeDepth ∧ ∀ x ∈ record.numbers, ¬x.IsOversized :=
  Value.fault?_toJson_eq_none_iff (.object record.fields) Json.writeDepth

end Record

end LogSieve
