import LogSieve.Proofs.Render.Alike

namespace LogSieve

-- Two folds, one over outcomes and one over their records or those that are alike, keep to a relation
-- that malformed lines do not touch.
theorem foldl_alike {σ τ : Type} (agree : σ → τ → Prop) {step : σ → Item → σ}
    {again : τ → Item → τ} {f : Record → Record} {outcomes : List Outcome}
    (hmalformed : ∀ {s t}, agree s t → ∀ line fault, agree (step s (.malformed line fault)) t)
    (hrecord : ∀ {s t}, agree s t → ∀ {r r'}, Record.Alike r r' →
      agree (step s (.record r')) (again t (.record r)))
    (halike : ∀ record ∈ outcomes.filterMap Outcome.record?, (f record).Alike record)
    {s : σ} {t : τ} (h : agree s t) :
    agree ((outcomes.map .ofOutcome).foldl step s)
      (((outcomes.filterMap Outcome.record?).map fun record => .record (f record)).foldl again
        t) := by
  induction outcomes generalizing s t with
  | nil => exact h
  | cons outcome rest ih =>
    obtain ⟨line, result⟩ := outcome
    cases result with
    -- Only the first fold takes a step here.
    | error fault => exact ih halike (hmalformed h line fault)
    | ok record =>
      obtain ⟨hfirst, hrest⟩ := List.forall_mem_cons.mp halike
      exact ih hrest (hrecord h hfirst)

variable {f : Record → Record} {outcomes : List Outcome}
  (halike : ∀ record ∈ outcomes.filterMap Outcome.record?, (f record).Alike record)

namespace Pass

structure Agree (pass other : Pass) : Prop where
  sink : pass.sink = other.sink
  report : pass.report = other.report
  fault : pass.fault = other.fault

theorem agree_malformed {pass other : Pass} (h : pass.Agree other) (label : String)
    (filters : List Filter) (renderer : Renderer) (line : Int) (fault : LineFault) :
    (pass.step label filters renderer (.malformed line fault)).Agree other := by
  rw [step]
  split
  · exact h
  · exact ⟨h.sink, h.report, h.fault⟩

theorem agree_render {pass other : Pass} (h : pass.Agree other) (renderer : Renderer)
    {r r' : Record} (hr : r.Alike r') :
    (pass.render renderer r').Agree (other.render renderer r) := by
  simp only [render, Sink.put, ← h.sink, ← h.report, Renderer.render_of_alike hr renderer]
  split <;> exact ⟨rfl, rfl, h.fault⟩

theorem agree_record {pass other : Pass} (h : pass.Agree other) (label again : String)
    (filters : List Filter) (renderer : Renderer) {r r' : Record} (hr : r.Alike r') :
    (pass.step label filters renderer (.record r')).Agree
      (other.step again filters renderer (.record r)) := by
  rw [step, step, ← h.fault, ← Filter.allHold_of_alike hr filters]
  split
  · exact h
  · cases Filter.allHold filters r with
    | error fault => exact ⟨h.sink, h.report, rfl⟩
    | ok answer =>
      cases answer with
      | true => exact agree_render h renderer hr
      | false => exact h

include halike in
theorem agree_run {pass other : Pass} (h : pass.Agree other) (label again : String)
    (filters : List Filter) (renderer : Renderer) :
    (run label filters renderer pass (outcomes.map .ofOutcome)).Agree
      (run again filters renderer other
        ((outcomes.filterMap Outcome.record?).map fun record => .record (f record))) :=
  foldl_alike Agree (fun h => agree_malformed h label filters renderer)
    (fun h _ _ hr => agree_record h label again filters renderer hr) halike h

end Pass

namespace Frequency

structure Agree (table other : Frequency) : Prop where
  counts : table.counts = other.counts
  fault : table.fault = other.fault

theorem agree_malformed {table other : Frequency} (h : table.Agree other) (label : String)
    (filters : List Filter) (field : String) (line : Int) (fault : LineFault) :
    (table.step label filters field (.malformed line fault)).Agree other := by
  rw [step]
  split
  · exact h
  · exact ⟨h.counts, h.fault⟩

theorem agree_record {table other : Frequency} (h : table.Agree other) (label again : String)
    (filters : List Filter) (field : String) {r r' : Record} (hr : r.Alike r') :
    (table.step label filters field (.record r')).Agree
      (other.step again filters field (.record r)) := by
  rw [step, step, ← h.fault, ← valueOf?_of_alike hr filters field]
  split
  · exact h
  · cases valueOf? filters field r with
    | error fault => exact ⟨h.counts, rfl⟩
    | ok value =>
      cases value with
      | none => exact h
      | some value => exact ⟨by simp only [add, h.counts], h.fault⟩

include halike in
theorem agree_run (label again : String) (filters : List Filter) (field : String) :
    (run label filters field (outcomes.map .ofOutcome)).Agree
      (run again filters field
        ((outcomes.filterMap Outcome.record?).map fun record => .record (f record))) :=
  foldl_alike Agree (fun h => agree_malformed h label filters field)
    (fun h _ _ hr => agree_record h label again filters field hr) halike ⟨rfl, rfl⟩

end Frequency

end LogSieve
