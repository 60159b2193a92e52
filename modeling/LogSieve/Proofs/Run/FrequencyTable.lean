import LogSieve.Proofs.Record.Fields
import LogSieve.Proofs.Run.Isolated
import LogSieve.Proofs.Run.StableSort
import Mathlib.Data.List.Sort

namespace LogSieve

namespace Fields

theorem sum_insert (name : String) (value : Nat) {fields : List (String × Nat)}
    (h : Ordered fields) :
    ((insert name value fields).map Prod.snd).sum + (get? name fields).getD 0 =
      (fields.map Prod.snd).sum + value := by
  induction fields with
  | nil => simp [insert, get?]
  | cons entry rest ih =>
    obtain ⟨other, kept⟩ := entry
    have hordered := List.pairwise_cons.mp h
    unfold insert
    split_ifs with hlt heq
    · have hnone : get? name ((other, kept) :: rest) = none := by
        refine get?_eq_none_of_forall_lt fun n hn => ?_
        rcases List.mem_cons.mp hn with rfl | hn
        · exact hlt
        · exact String.lt_trans hlt (hordered.1 n hn)
      simp [hnone, Nat.add_comm]
    · subst heq
      simp only [get?, List.lookup_cons_self, List.map_cons, List.sum_cons, Option.getD_some]
      omega
    · have hget : get? name ((other, kept) :: rest) = get? name rest := by
        have hne : (name == other) = false := by simpa using heq
        simp [get?, List.lookup_cons, hne]
      have hrest := ih hordered.2
      simp only [hget, List.map_cons, List.sum_cons]
      omega

end Fields

namespace Frequency

-- A count with any condition on the records. It ends where the condition or the text of a value
-- raises something.
def tally (accepts : Record → Except Json.WriteFault Bool) (field : String) :
    Frequency → List Record → Except Json.WriteFault Frequency
  | frequency, [] => .ok frequency
  | frequency, record :: rest => do
    if ← accepts record then tally accepts field (frequency.add (← valueOf field record)) rest
    else tally accepts field frequency rest

def table (accepts : Record → Except Json.WriteFault Bool) (field : String)
    (records : List Record) : Except Json.WriteFault (List (String × Nat)) :=
  (tally accepts field {} records).map rows

theorem foldl_step_of_fault {frequency : Frequency} {fault : Json.WriteFault}
    (h : frequency.fault = some fault) (label : String) (filters : List Filter) (field : String)
    (items : List Item) : items.foldl (step label filters field) frequency = frequency := by
  induction items with
  | nil => rfl
  | cons item rest ih =>
    have hstep : frequency.step label filters field item = frequency := by
      cases item <;> simp [step, h]
    rw [List.foldl_cons, hstep, ih]

theorem step_record {frequency : Frequency} (h : frequency.fault = none) (label : String)
    (filters : List Filter) (field : String) (record : Record) :
    frequency.step label filters field (.record record) =
      match valueOf? filters field record with
      | .error fault => { frequency with fault := some fault }
      | .ok (some value) => frequency.add value
      | .ok none => frequency := by
  have hnone : ¬frequency.fault.isSome = true := by simp [h]
  exact if_neg hnone

theorem foldl_step_eq_tally {frequency other : Frequency} (hfault : frequency.fault = none)
    (hcounts : frequency.counts = other.counts) (label : String) (filters : List Filter)
    (field : String) (items : List Item) :
    match tally (Filter.allHold filters) field other (items.filterMap Item.record?) with
    | .ok final =>
      (items.foldl (step label filters field) frequency).fault = none ∧
        (items.foldl (step label filters field) frequency).counts = final.counts
    | .error fault =>
      (items.foldl (step label filters field) frequency).fault = some fault := by
  induction items generalizing frequency other with
  | nil => exact ⟨hfault, hcounts⟩
  | cons item rest ih =>
    rw [List.foldl_cons]
    cases item with
    | malformed line fault =>
      have hnotice : (frequency.step label filters field (.malformed line fault)).fault = none := by
        simp [step, hfault]
      exact ih hnotice (by simp [step, hfault, hcounts])
    | record record =>
      rw [step_record hfault, List.filterMap_cons, Item.record?, tally, valueOf?]
      cases hanswer : Filter.allHold filters record with
      | error fault => exact congrArg Frequency.fault (foldl_step_of_fault rfl ..)
      | ok answer =>
        cases answer with
        | false => exact ih hfault hcounts
        | true =>
          cases hvalue : valueOf field record with
          | error fault => exact congrArg Frequency.fault (foldl_step_of_fault rfl ..)
          | ok value =>
            have hadd : (frequency.add value).counts = (other.add value).counts := by
              simp only [add, hcounts]
            exact ih hfault hadd

theorem table_eq_run (label : String) (filters : List Filter) (field : String)
    (items : List Item) :
    table (Filter.allHold filters) field (items.filterMap Item.record?) =
      match (run label filters field items).fault with
      | none => .ok (run label filters field items).rows
      | some fault => .error fault := by
  have hsame := foldl_step_eq_tally (rfl : fault {} = none) rfl label filters field items
  rw [table, run]
  cases htally : tally (Filter.allHold filters) field {} (items.filterMap Item.record?) with
  | error fault =>
    rw [htally] at hsame
    simp only [hsame, Except.map]
  | ok final =>
    rw [htally] at hsame
    simp only [hsame.1, Except.map, rows, hsame.2]

structure Tallies (texts : List String) (frequency : Frequency) : Prop where
  ordered : Fields.Ordered frequency.counts
  occurs : ∀ value, (Fields.get? value frequency.counts).getD 0 = texts.count value
  positive : ∀ row ∈ frequency.counts, 0 < row.2
  total : (frequency.counts.map Prod.snd).sum = texts.length

theorem tallies_nil : Tallies [] {} where
  ordered := List.Pairwise.nil
  occurs := fun _ => rfl
  positive := by simp
  total := rfl

theorem Tallies.add {texts : List String} {frequency : Frequency} (h : Tallies texts frequency)
    (value : String) : Tallies (texts ++ [value]) (frequency.add value) where
  ordered := Fields.ordered_insert h.ordered
  occurs := by
    intro other
    rw [List.count_append, List.count_singleton, ← h.occurs other, Frequency.add]
    by_cases heq : other = value
    · subst heq
      simp [Fields.get?_insert_self]
    · simp [Fields.get?_insert_of_ne _ _ heq, Ne.symm heq]
  positive := by
    intro row hrow
    rcases Fields.mem_insert hrow with rfl | hrow
    · exact Nat.succ_pos _
    · exact h.positive row hrow
  total := by
    have hsum := Fields.sum_insert value ((Fields.get? value frequency.counts).getD 0 + 1) h.ordered
    have htotal := h.total
    simp only [Frequency.add, List.length_append, List.length_singleton]
    omega

def texts (field : String) (records : List Record) : List String :=
  records.filterMap fun record => (valueOf field record).toOption

variable {accepts : Record → Except Json.WriteFault Bool} {holds : Record → Bool} {field : String}

theorem exists_tally {records : List Record} {before : List String} {frequency : Frequency}
    (hanswers : ∀ record ∈ records, accepts record = .ok (holds record))
    (htexts : ∀ record ∈ records, holds record = true → record.TextAt field)
    (h : Tallies before frequency) :
    ∃ final, tally accepts field frequency records = .ok final ∧
      Tallies (before ++ texts field (records.filter holds)) final := by
  induction records generalizing before frequency with
  | nil => exact ⟨frequency, rfl, by simpa [texts] using h⟩
  | cons record rest ih =>
    obtain ⟨hanswer, hanswers⟩ := List.forall_mem_cons.mp hanswers
    obtain ⟨htext, htexts⟩ := List.forall_mem_cons.mp htexts
    rw [tally, hanswer]
    cases hholds : holds record with
    | false =>
      rw [List.filter_cons_of_neg (by simp [hholds])]
      exact ih hanswers htexts h
    | true =>
      obtain ⟨value, hvalue⟩ := (exists_valueOf_iff field record).mpr (htext hholds)
      obtain ⟨final, hfinal, htallies⟩ := ih hanswers htexts (h.add value)
      refine ⟨final, ?_, ?_⟩
      · rw [hvalue]
        exact hfinal
      · rw [List.filter_cons_of_pos hholds]
        simpa [texts, hvalue, Except.toOption] using htallies

-- A row with the greater count comes first, and of two with one count that with the lesser text.
def Precedes (row other : String × Nat) : Prop :=
  other.2 < row.2 ∨ row.2 = other.2 ∧ row.1 < other.1

instance : Std.Irrefl Precedes where
  irrefl row h := by
    rcases h with hcount | ⟨-, htext⟩
    · exact Nat.lt_irrefl _ hcount
    · exact String.lt_irrefl _ htext

instance : Std.Antisymm Precedes where
  antisymm row other h hback := by
    rcases h with hcount | ⟨hcount, htext⟩ <;> rcases hback with hless | ⟨hsame, hbefore⟩
    · omega
    · omega
    · omega
    · exact absurd hbefore (String.lt_asymm htext)

theorem stableSort_rows (frequency : Frequency) :
    StableSort (fun row => -(row.2 : Int)) frequency.counts frequency.rows := by
  have hsort := stableSort_mergeSort (fun row : String × Nat => -(row.2 : Int)) frequency.counts
  simpa only [rows, Int.neg_le_neg_iff, Int.ofNat_le] using hsort

-- Texts are in order where the count leaves them, so that they are among those with one count.
theorem pairwise_rows {frequency : Frequency} (h : Fields.Ordered frequency.counts) :
    frequency.rows.Pairwise Precedes := by
  have hsort := stableSort_rows frequency
  refine List.pairwise_iff_forall_sublist.mpr fun {row other} hsub => ?_
  have hcounts : other.2 ≤ row.2 := by
    have hle := List.pairwise_iff_forall_sublist.mp hsort.ordered hsub
    omega
  rcases Nat.lt_or_eq_of_le hcounts with hlt | heq
  · exact .inl hlt
  · have hkept := (hsort.sublist_iff (by rw [heq])).mp hsub
    have htexts : row.1 < other.1 :=
      List.pairwise_iff_forall_sublist.mp h (hkept.map Prod.fst)
    exact .inr ⟨heq.symm, htexts⟩

theorem Tallies.mem_rows_iff {texts : List String} {frequency : Frequency}
    (h : Tallies texts frequency) (value : String) (count : Nat) :
    (value, count) ∈ frequency.rows ↔ 0 < count ∧ count = texts.count value := by
  rw [(stableSort_rows frequency).perm.mem_iff, ← h.occurs value]
  constructor
  · intro hmem
    rw [Fields.get?_of_mem h.ordered hmem]
    exact ⟨h.positive _ hmem, rfl⟩
  · rintro ⟨hpos, hcount⟩
    apply Fields.mem_of_get?
    cases hget : Fields.get? value frequency.counts with
    | none =>
      rw [hget, Option.getD_none] at hcount
      omega
    | some kept =>
      rw [hget, Option.getD_some] at hcount
      rw [hcount]

theorem names_nodup {frequency : Frequency} (h : Fields.Ordered frequency.counts) :
    (frequency.rows.map Prod.fst).Nodup := by
  have hnames : (frequency.counts.map Prod.fst).Nodup :=
    List.Pairwise.imp (fun hlt => String.ne_of_lt hlt) h
  exact ((stableSort_rows frequency).perm.map Prod.fst).nodup_iff.mpr hnames

-- The rows depend on how often each text occurs alone.
theorem Tallies.rows_eq {texts again : List String} {frequency other : Frequency}
    (h : Tallies texts frequency) (hagain : Tallies again other) (hperm : texts.Perm again) :
    frequency.rows = other.rows := by
  have hrows := pairwise_rows h.ordered
  have hother := pairwise_rows hagain.ordered
  have hmembers : frequency.rows.Perm other.rows := by
    refine (List.perm_ext_iff_of_nodup hrows.nodup hother.nodup).mpr fun ⟨value, count⟩ => ?_
    rw [h.mem_rows_iff, hagain.mem_rows_iff, hperm.count_eq]
  exact hmembers.eq_of_pairwise' hrows hother

def equals (field value : String) : Filter :=
  ⟨field, .equal, value, none⟩

def lacks (field : String) (record : Record) : Bool :=
  (record.get? field).isNone

def writes (field value : String) (record : Record) : Bool :=
  (record.get? field).any fun kept => kept.canonical.toOption == some value

theorem writes_eq_holds (field value : String) (record : Record) :
    writes field value record = decide ((equals field value).holds record = .ok true) := by
  unfold writes Filter.holds equals
  cases record.get? field with
  | none => simp
  | some kept =>
    cases hkept : kept.canonical with
    | error fault => simp [hkept, Except.map, Except.toOption]
    | ok text =>
      by_cases heq : text = value <;>
        simp [hkept, Except.map, Except.toOption, Filter.accepts, Operator.relates, heq]

theorem count_texts (field value : String) (records : List Record) :
    (texts field records).count value = records.countP fun record =>
      writes field value record || decide (value = missing) && lacks field record := by
  rw [texts, List.count_filterMap]
  refine List.countP_congr fun record _ => ?_
  unfold writes lacks valueOf
  cases record.get? field with
  | none => simpa [Except.toOption] using ⟨Eq.symm, Eq.symm⟩
  | some kept => simp

theorem count_texts_missing (field : String) (records : List Record) :
    (texts field records).count missing =
      records.countP (lacks field) + records.countP (writes field missing) := by
  rw [count_texts]
  simp only [decide_true, Bool.true_and]
  induction records with
  | nil => rfl
  | cons record rest ih =>
    have hone : writes field missing record = true → lacks field record = false := by
      unfold writes lacks
      cases record.get? field <;> simp
    simp only [List.countP_cons, ih]
    cases hwrites : writes field missing record with
    | false =>
      rw [Bool.false_or, if_neg Bool.false_ne_true]
      omega
    | true =>
      simp only [hone hwrites, Bool.true_or, if_true, Bool.false_eq_true, if_false]
      omega

theorem length_texts {records : List Record}
    (h : ∀ record ∈ records, record.TextAt field) : (texts field records).length = records.length := by
  rw [texts, List.length_filterMap_eq_countP, List.countP_eq_length]
  intro record hrecord
  obtain ⟨text, htext⟩ := (exists_valueOf_iff field record).mpr (h record hrecord)
  simp [htext, Except.toOption]

-- A count of records on all of which the condition has an answer, and where every value that is
-- counted has a text. Each text has one row, with how often it occurs among the records that satisfy
-- the condition; rows stand by falling count, and those of one count by text. A record without the
-- field counts as one whose text is the text for that. Records in another order give the same table.
-- A count that tries filters on the records of a source is such a count.
theorem table_exact (accepts : Record → Except Json.WriteFault Bool) (holds : Record → Bool)
    (field : String) (records : List Record)
    (hanswers : ∀ record ∈ records, accepts record = .ok (holds record))
    (htexts : ∀ record ∈ records, holds record = true → record.TextAt field) :
    (∃ rows, table accepts field records = .ok rows ∧
      (rows.map Prod.fst).Nodup ∧ (∀ row ∈ rows, 0 < row.2) ∧ rows.Pairwise Precedes ∧
      (∀ value count, value ≠ missing → ((value, count) ∈ rows ↔ 0 < count ∧
        count = (records.filter holds).countP fun record =>
          decide ((equals field value).holds record = .ok true))) ∧
      (∀ count, (missing, count) ∈ rows ↔ 0 < count ∧
        count = (records.filter holds).countP (lacks field) +
          (records.filter holds).countP (writes field missing)) ∧
      (rows.map Prod.snd).sum = (records.filter holds).length ∧
      ∀ other : List Record, other.Perm records → table accepts field other = .ok rows) ∧
    ∀ (label : String) (filters : List Filter) (items : List Item),
      table (Filter.allHold filters) field (items.filterMap Item.record?) =
        match (run label filters field items).fault with
        | none => .ok (run label filters field items).rows
        | some fault => .error fault := by
  refine ⟨?_, fun label filters items => table_eq_run label filters field items⟩
  obtain ⟨final, hfinal, htallies⟩ := exists_tally hanswers htexts tallies_nil
  rw [List.nil_append] at htallies
  refine ⟨final.rows, by rw [table, hfinal]; rfl, names_nodup htallies.ordered, ?_,
    pairwise_rows htallies.ordered, ?_, ?_, ?_, ?_⟩
  · exact fun row hrow => ((htallies.mem_rows_iff row.1 row.2).mp hrow).1
  · intro value count hne
    rw [htallies.mem_rows_iff, count_texts]
    simp only [hne, decide_false, Bool.false_and, Bool.or_false, writes_eq_holds]
  · intro count
    rw [htallies.mem_rows_iff, count_texts_missing]
  · have hmatching : ∀ record ∈ records.filter holds, record.TextAt field := by
      intro record hrecord
      obtain ⟨hmem, hholds⟩ := List.mem_filter.mp hrecord
      exact htexts record hmem hholds
    rw [((stableSort_rows final).perm.map Prod.snd).sum_nat, htallies.total, length_texts hmatching]
  · -- The rows depend on the texts alone, and these are a permutation.
    intro other hperm
    obtain ⟨again, hagain, hother⟩ := exists_tally
      (fun record hrecord => hanswers record (hperm.subset hrecord))
      (fun record hrecord => htexts record (hperm.subset hrecord)) tallies_nil
    rw [List.nil_append] at hother
    have hsame : (texts field (other.filter holds)).Perm (texts field (records.filter holds)) :=
      (hperm.filter holds).filterMap _
    rw [table, hagain, Except.map, hother.rows_eq htallies hsame]

-- A number and a string with one text share a row, and so do a field that is absent and one with the
-- text for that. One record is left out.
theorem table_exact_sharedTexts :
    let one (value : Value) : Record := .ofList [("kind", .string "a"), ("v", value)]
    let records : List Record :=
      [one (.number (Decimal.toDouble false ⟨1, 0⟩)), .ofList [("kind", .string "a")],
        .ofList [("kind", .string "b"), ("v", .string "1")], one (.string "z"),
        one (.string "(none)"), one (.string "z"), one (.string "1"), one (.string "z")]
    let accepts := Filter.allHold [equals "kind" "a"]
    let holds (record : Record) : Bool := writes "kind" "a" record
    (∀ record ∈ records, accepts record = .ok (holds record)) ∧
    (∀ record ∈ records, holds record = true → record.TextAt "v") ∧
    table accepts "v" records = .ok [("z", 3), ("(none)", 2), ("1", 2)] ∧
    table accepts "v" records.reverse = .ok [("z", 3), ("(none)", 2), ("1", 2)] := by
  intro one records accepts holds
  have hanswers : ∀ record ∈ records, accepts record = .ok (holds record) := by decide +kernel
  have hvalues : ∀ record ∈ records, (valueOf "v" record).isOk = true := by decide +kernel
  have htexts : ∀ record ∈ records, holds record = true → record.TextAt "v" := by
    intro record hrecord _
    refine (exists_valueOf_iff "v" record).mp ?_
    cases hvalue : valueOf "v" record with
    | error fault => simpa [hvalue, Except.isOk, Except.toBool] using hvalues record hrecord
    | ok text => exact ⟨text, rfl⟩
  have hcounts : (tally accepts "v" {} records).map counts =
      .ok [("(none)", 2), ("1", 2), ("z", 3)] := by
    decide +kernel
  have htable : table accepts "v" records = .ok [("z", 3), ("(none)", 2), ("1", 2)] := by
    rw [table]
    cases htally : tally accepts "v" {} records with
    | error fault => simp [htally, Except.map] at hcounts
    | ok final =>
      rw [htally] at hcounts
      simp [Except.map, rows, Except.ok.inj hcounts, List.mergeSort,
        List.MergeSort.Internal.splitInTwo]
  obtain ⟨⟨rows, hrows, -, -, -, -, -, -, hany⟩, -⟩ :=
    table_exact accepts holds "v" records hanswers htexts
  have hreverse := hany records.reverse (List.reverse_perm records)
  rw [← hrows, htable] at hreverse
  exact ⟨hanswers, htexts, htable, hreverse⟩

end Frequency

end LogSieve
