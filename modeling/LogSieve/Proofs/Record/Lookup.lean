import LogSieve.Proofs.Record.Fields
import LogSieve.Proofs.Record.Limits
import LogSieve.Time.Timestamp

namespace LogSieve

-- Every item of a list is good that is reached: all items before it let pass.
def AllReached {α : Type} (passes good : α → Prop) (items : List α) : Prop :=
  ∀ passed item rest, items = passed ++ item :: rest → (∀ other ∈ passed, passes other) → good item

theorem allReached_nil {α : Type} (passes good : α → Prop) : AllReached passes good [] := by
  intro passed item rest h
  simp at h

theorem allReached_cons {α : Type} {passes good : α → Prop} {item : α} {rest : List α} :
    AllReached passes good (item :: rest) ↔
      good item ∧ (passes item → AllReached passes good rest) := by
  constructor
  · intro h
    refine ⟨h [] item rest rfl (by simp), fun hpass passed next behind hrest hpassed => ?_⟩
    apply h (item :: passed) next behind (by rw [hrest, List.cons_append])
    intro other hother
    rcases List.mem_cons.mp hother with rfl | hother
    · exact hpass
    · exact hpassed other hother
  · rintro ⟨hgood, hrest⟩ passed next behind heq hpassed
    cases passed with
    | nil =>
      cases heq
      exact hgood
    | cons first passed =>
      obtain ⟨rfl, rfl⟩ := List.cons.inj heq
      exact hrest (hpassed item (by simp)) passed next behind rfl
        fun other hother => hpassed other (List.mem_cons_of_mem _ hother)

theorem allReached_of_forall {α : Type} {passes good : α → Prop} {items : List α}
    (h : ∀ item ∈ items, good item) : AllReached passes good items := by
  intro passed item rest heq _
  exact h item (by simp [heq])

theorem Value.canonical_error_iff (v : Value) :
    (∃ fault, v.canonical = .error fault) ↔ ¬v.HasText := by
  rw [← exists_canonical_iff]
  cases v.canonical <;> simp

def Value.instant? (v : Value) : Option DateTime :=
  v.canonical.toOption.bind fun text => Timestamp.ofText? text.toList

namespace Record

def instantAt? (record : Record) (name : String) : Option DateTime :=
  (record.get? name).bind Value.instant?

def TextAt (record : Record) (name : String) : Prop :=
  ∀ value, record.get? name = some value → value.HasText

-- Some names are looked at in order, up to the first that holds an instant, and every value that
-- is looked at has a text.
def Datable (record : Record) (names : List String) : Prop :=
  AllReached (fun name => record.instantAt? name = none) record.TextAt names

theorem firstInstant?_cons {record : Record} {name : String} (rest : List String)
    (h : record.TextAt name) :
    record.firstInstant? (name :: rest) =
      match record.instantAt? name with
      | some t => .ok (some t)
      | none => record.firstInstant? rest := by
  rw [firstInstant?, instantAt?]
  cases hget : record.get? name with
  | none => rfl
  | some value =>
    obtain ⟨text, htext⟩ := value.exists_canonical_iff.mpr (h value hget)
    have hinstant : value.instant? = Timestamp.ofText? text.toList := by
      simp [Value.instant?, htext, Except.toOption]
    simp only [htext, Option.bind_some, hinstant]
    rfl

theorem firstInstant?_cons_error {record : Record} {name : String} (rest : List String)
    (h : ¬record.TextAt name) : ∃ fault, record.firstInstant? (name :: rest) = .error fault := by
  simp only [TextAt, Classical.not_forall] at h
  obtain ⟨value, hget, htext⟩ := h
  obtain ⟨fault, hfault⟩ := value.canonical_error_iff.mpr htext
  refine ⟨fault, ?_⟩
  rw [firstInstant?, hget]
  simp only [hfault]
  rfl

theorem firstInstant?_of_datable {record : Record} {names : List String}
    (h : record.Datable names) :
    record.firstInstant? names = .ok (names.findSome? record.instantAt?) := by
  induction names with
  | nil => rfl
  | cons name rest ih =>
    obtain ⟨htext, hrest⟩ := allReached_cons.mp h
    rw [firstInstant?_cons rest htext, List.findSome?_cons]
    cases hinstant : record.instantAt? name with
    | some t => rfl
    | none => exact ih (hrest hinstant)

theorem exists_firstInstant?_iff (record : Record) (names : List String) :
    (∃ t, record.firstInstant? names = .ok t) ↔ record.Datable names := by
  refine ⟨fun h => ?_, fun h => ⟨_, firstInstant?_of_datable h⟩⟩
  induction names with
  | nil => exact allReached_nil _ _
  | cons name rest ih =>
    by_cases htext : record.TextAt name
    · rw [firstInstant?_cons rest htext] at h
      refine allReached_cons.mpr ⟨htext, fun hnone => ?_⟩
      rw [hnone] at h
      exact ih h
    · obtain ⟨fault, hfault⟩ := firstInstant?_cons_error rest htext
      obtain ⟨t, ht⟩ := h
      rw [hfault] at ht
      cases ht

end Record

end LogSieve
