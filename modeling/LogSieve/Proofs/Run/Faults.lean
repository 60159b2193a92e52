import LogSieve.Proofs.Log.Watch
import LogSieve.Proofs.Run.Merge
import LogSieve.Run.Frequency

namespace LogSieve

namespace Filter

def Answerable (filters : List Filter) (record : Record) : Prop :=
  AllReached (fun filter => filter.holds record = .ok true)
    (fun filter => record.TextAt filter.field) filters

theorem exists_holds_iff (filter : Filter) (record : Record) :
    (∃ answer, filter.holds record = .ok answer) ↔ record.TextAt filter.field := by
  unfold holds Record.TextAt
  cases hget : record.get? filter.field with
  | none => simp
  | some value =>
    simp only [Option.some.injEq, forall_eq', ← value.exists_canonical_iff]
    cases value.canonical <;> simp [Except.map]

theorem exists_allHold_iff (filters : List Filter) (record : Record) :
    (∃ answer, allHold filters record = .ok answer) ↔ Answerable filters record := by
  induction filters with
  | nil => exact iff_of_true ⟨true, rfl⟩ (allReached_nil _ _)
  | cons filter rest ih =>
    rw [Answerable, allReached_cons, ← exists_holds_iff, allHold]
    cases hholds : filter.holds record with
    | error fault =>
      refine iff_of_false ?_ ?_
      · rintro ⟨answer, hanswer⟩
        cases hanswer
      · rintro ⟨⟨answer, hanswer⟩, -⟩
        cases hanswer
    | ok answer =>
      cases answer with
      | false =>
        refine iff_of_true ⟨false, rfl⟩ ⟨⟨false, rfl⟩, fun h => ?_⟩
        cases h
      | true =>
        refine ih.trans ⟨fun h => ⟨⟨true, rfl⟩, fun _ => h⟩, fun h => h.2 rfl⟩

end Filter

-- Outcomes handled one by one leave no fault exactly if every record among them does.
theorem foldl_fault_eq_none_iff {σ : Type} {fault : σ → Option Json.WriteFault}
    {step : σ → Outcome → σ} {good : Record → Prop}
    (hstep : ∀ state outcome, fault (step state outcome) = none ↔
      fault state = none ∧ ∀ record ∈ outcome.record?, good record)
    (state : σ) (outcomes : List Outcome) :
    fault (outcomes.foldl step state) = none ↔
      fault state = none ∧ ∀ record ∈ outcomes.filterMap Outcome.record?, good record := by
  induction outcomes generalizing state with
  | nil => simp
  | cons outcome rest ih =>
    rw [List.foldl_cons, ih, hstep, and_assoc, List.filterMap_cons]
    cases outcome.record? <;> simp

namespace Pass

theorem fault_render (renderer : Renderer) (pass : Pass) (record : Record) :
    (pass.render renderer record).fault = pass.fault := by
  unfold render
  simp only
  split <;> rfl

theorem fault_step_eq_none_iff (label : String) (filters : List Filter) (renderer : Renderer)
    (pass : Pass) (outcome : Outcome) :
    (pass.step label filters renderer (.ofOutcome outcome)).fault = none ↔
      pass.fault = none ∧ ∀ record ∈ outcome.record?, Filter.Answerable filters record := by
  obtain ⟨line, result⟩ := outcome
  cases hfault : pass.fault with
  | some fault => cases result <;> simp [Item.ofOutcome, step, hfault]
  | none =>
    cases result with
    | error fault => simp [Item.ofOutcome, step, hfault, note, Outcome.record?, Except.toOption]
    | ok record =>
      simp only [Item.ofOutcome, step, hfault, Option.isSome_none, Bool.false_eq_true, if_false,
        Outcome.record?, Except.toOption, Option.mem_some_iff, forall_eq', true_and,
        ← Filter.exists_allHold_iff]
      cases hanswer : Filter.allHold filters record with
      | error fault => simp
      | ok answer => cases answer <;> simp [fault_render, hfault]

theorem fault_run_eq_none_iff (label : String) (filters : List Filter) (renderer : Renderer)
    (pass : Pass) (outcomes : List Outcome) :
    (run label filters renderer pass (outcomes.map .ofOutcome)).fault = none ↔
      pass.fault = none ∧
        ∀ record ∈ outcomes.filterMap Outcome.record?, Filter.Answerable filters record := by
  rw [run, List.foldl_map]
  exact foldl_fault_eq_none_iff (fault_step_eq_none_iff label filters renderer) pass outcomes

end Pass

namespace Frequency

def Countable (filters : List Filter) (field : String) (record : Record) : Prop :=
  Filter.Answerable filters record ∧
    (Filter.allHold filters record = .ok true → record.TextAt field)

theorem exists_valueOf_iff (field : String) (record : Record) :
    (∃ text, valueOf field record = .ok text) ↔ record.TextAt field := by
  unfold valueOf Record.TextAt
  cases hget : record.get? field with
  | none => simp
  | some value => simp [← value.exists_canonical_iff]

theorem exists_valueOf?_iff (filters : List Filter) (field : String) (record : Record) :
    (∃ text, valueOf? filters field record = .ok text) ↔ Countable filters field record := by
  rw [Countable, ← Filter.exists_allHold_iff, ← exists_valueOf_iff, valueOf?]
  cases Filter.allHold filters record with
  | error fault =>
    refine iff_of_false ?_ ?_
    · rintro ⟨text, htext⟩
      cases htext
    · rintro ⟨⟨answer, hanswer⟩, -⟩
      cases hanswer
  | ok answer =>
    cases answer with
    | false =>
      refine iff_of_true ⟨none, rfl⟩ ⟨⟨false, rfl⟩, fun h => ?_⟩
      cases h
    | true =>
      cases valueOf field record with
      | error fault =>
        refine iff_of_false ?_ ?_
        · rintro ⟨text, htext⟩
          cases htext
        · rintro ⟨-, htext⟩
          obtain ⟨text, htext⟩ := htext rfl
          cases htext
      | ok text => exact iff_of_true ⟨some text, rfl⟩ ⟨⟨true, rfl⟩, fun _ => ⟨text, rfl⟩⟩

theorem fault_step_eq_none_iff (label : String) (filters : List Filter) (field : String)
    (frequency : Frequency) (outcome : Outcome) :
    (frequency.step label filters field (.ofOutcome outcome)).fault = none ↔
      frequency.fault = none ∧ ∀ record ∈ outcome.record?, Countable filters field record := by
  obtain ⟨line, result⟩ := outcome
  cases hfault : frequency.fault with
  | some fault => cases result <;> simp [Item.ofOutcome, step, hfault]
  | none =>
    cases result with
    | error fault => simp [Item.ofOutcome, step, hfault, Outcome.record?, Except.toOption]
    | ok record =>
      simp only [Item.ofOutcome, step, hfault, Option.isSome_none, Bool.false_eq_true, if_false,
        Outcome.record?, Except.toOption, Option.mem_some_iff, forall_eq', true_and,
        ← exists_valueOf?_iff]
      cases valueOf? filters field record with
      | error fault => simp
      | ok text => cases text <;> simp [add, hfault]

theorem fault_run_eq_none_iff (label : String) (filters : List Filter) (field : String)
    (outcomes : List Outcome) :
    (run label filters field (outcomes.map .ofOutcome)).fault = none ↔
      ∀ record ∈ outcomes.filterMap Outcome.record?, Countable filters field record := by
  rw [run, List.foldl_map,
    foldl_fault_eq_none_iff (fault_step_eq_none_iff label filters field) {} outcomes]
  simp

end Frequency

namespace Session

theorem exists_parse_of_finished (session : Session) (bytes : List UInt8) :
    ∃ outcomes notices,
      (session.parse (.bytes ⟨bytes, .finished⟩)).1 = .ok (outcomes, notices) := by
  unfold parse
  cases session.format with
  | fixed dialect => exact ⟨_, _, rfl⟩
  | auto =>
    obtain ⟨sniffed, hsniffed⟩ :
        ∃ sniffed, sniff ⟨bytes, .finished⟩ .whole = .ok sniffed := exists_sniff_of_finished bytes
    rw [begin_of_sniff hsniffed]
    exact ⟨_, _, rfl⟩

end Session

-- Sources that end are read to their end. A pass over what they hold, a count and a merge come to
-- theirs exactly if every value has a text that is asked for: by the filters, for the count, and for
-- a timestamp.
theorem run_faults_iff (session : Session) (bytes : List UInt8) (label : String)
    (filters : List Filter) (renderer : Renderer) (sink : Sink) (field : String)
    (sources : List (String × List UInt8)) :
    (∃ outcomes notices,
      (session.parse (.bytes ⟨bytes, .finished⟩)).1 = .ok (outcomes, notices) ∧
      ((Pass.run label filters renderer { sink := sink } (outcomes.map .ofOutcome)).fault = none ↔
        ∀ record ∈ outcomes.filterMap Outcome.record?, Filter.Answerable filters record) ∧
      ((Frequency.run label filters field (outcomes.map .ofOutcome)).fault = none ↔
        ∀ record ∈ outcomes.filterMap Outcome.record?,
          Frequency.Countable filters field record)) ∧
    ((∃ sorted, (Merge.run (sources.map fun (label, bytes) => (label, ⟨bytes, .finished⟩))).entries =
        .ok sorted) ↔
      ∀ source ∈ sources, ∀ record ∈ ByteStream.records ⟨source.2, .finished⟩,
        record.Datable Record.timestampNames) := by
  constructor
  · obtain ⟨outcomes, notices, hparse⟩ := session.exists_parse_of_finished bytes
    refine ⟨outcomes, notices, hparse, ?_, Frequency.fault_run_eq_none_iff label filters field _⟩
    rw [Pass.fault_run_eq_none_iff]
    simp
  · rw [Merge.exists_run_iff]
    simp only [List.forall_mem_map, exists_sniff_of_finished, true_and]
    exact Iff.rfl

-- A line that is read, and whose one value has no text.
def oversizedSource : List UInt8 :=
  Utf8.encode "\x7b\"ts\":[1e20]\x7d\n".toList

theorem run_faults_oversizedSource :
    ∃ filters outcomes notices, Filter.ofTexts ["ts=1"] = .ok filters ∧
      (Session.parse ⟨.fixed .jsonLines, none, {}⟩ (.bytes ⟨oversizedSource, .finished⟩)).1 =
        .ok (outcomes, notices) ∧
      (Pass.run "app" filters (.json false) { sink := {} } (outcomes.map .ofOutcome)).fault =
        some .integerRange ∧
      (Frequency.run "app" [] "ts" (outcomes.map .ofOutcome)).fault = some .integerRange ∧
      ¬∃ sorted, (Merge.run [("app", ⟨oversizedSource, .finished⟩)]).entries = .ok sorted := by
  obtain ⟨outcomes, notices, hparse⟩ :=
    Session.exists_parse_of_finished ⟨.fixed .jsonLines, none, {}⟩ oversizedSource
  have hfaults : (Filter.ofTexts ["ts=1"]).toOption.bind (fun filters =>
      (Session.parse ⟨.fixed .jsonLines, none, {}⟩
        (.bytes ⟨oversizedSource, .finished⟩)).1.toOption.map fun (outcomes, _) =>
          ((Pass.run "app" filters (.json false) { sink := {} } (outcomes.map .ofOutcome)).fault,
            (Frequency.run "app" [] "ts" (outcomes.map .ofOutcome)).fault)) =
      some (some .integerRange, some .integerRange) := by
    decide +kernel
  have hmerge : (Merge.run [("app", ⟨oversizedSource, .finished⟩)]).entries.toOption.isSome =
      false := by
    decide +kernel
  cases hfilters : Filter.ofTexts ["ts=1"] with
  | error fault =>
    rw [hfilters] at hfaults
    cases hfaults
  | ok filters =>
    rw [hfilters, hparse] at hfaults
    obtain ⟨hpass, hcount⟩ := Prod.mk.inj (Option.some.inj hfaults)
    refine ⟨filters, outcomes, notices, rfl, hparse, hpass, hcount, ?_⟩
    rintro ⟨sorted, hsorted⟩
    rw [hsorted] at hmerge
    cases hmerge

end LogSieve
