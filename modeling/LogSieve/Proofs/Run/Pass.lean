import LogSieve.Run.Single

namespace LogSieve

inductive Fate where
  | malformed (fault : LineFault)
  | passedOver
  | written (text : List Char)
  | unwritable (fault : Json.WriteFault)
deriving DecidableEq

namespace Fate

def ofRecord (filters : List Filter) (renderer : Renderer) (record : Record) : Fate :=
  match Filter.allHold filters record with
  | .ok true =>
    match renderer.render record with
    | .ok text => .written text
    | .error fault => .unwritable fault
  | _ => .passedOver

def text : Fate → List Char
  | .written text => text
  | _ => []

def isUnwritable : Fate → Bool
  | .unwritable _ => true
  | _ => false

def notices (label : String) (renderer : Renderer) (line : Int) : Fate → List Notice
  | .malformed fault => [.malformed label line fault]
  | .unwritable fault => [.unrendered ⟨renderer.format, .unwritable fault⟩]
  | _ => []

end Fate

-- The fate of a line by what it reads as.
def Outcome.fate (filters : List Filter) (renderer : Renderer) (outcome : Outcome) : Fate :=
  match outcome.result with
  | .error fault => .malformed fault
  | .ok record => .ofRecord filters renderer record

namespace Pass

variable {label : String} {filters : List Filter} {renderer : Renderer}

-- A pass that went over some lines after another: what it has more than the other is what the lines
-- come to, and nothing ended it.
structure Adds (label : String) (filters : List Filter) (renderer : Renderer) (pass : Pass)
    (outcomes : List Outcome) (final : Pass) : Prop where
  fault : final.fault = none
  failing : final.sink.failing = []
  text : final.sink.text =
    pass.sink.text ++ outcomes.flatMap fun outcome => (outcome.fate filters renderer).text
  notices : final.notices =
    pass.notices ++ outcomes.flatMap fun outcome =>
      (outcome.fate filters renderer).notices label renderer outcome.line
  failures : final.report.failures =
    pass.report.failures + outcomes.countP fun outcome =>
      (outcome.fate filters renderer).isUnwritable

theorem Adds.nil {pass : Pass} (hfault : pass.fault = none) (hsink : pass.sink.failing = []) :
    Adds label filters renderer pass [] pass :=
  ⟨hfault, hsink, by simp, by simp, by simp⟩

theorem Adds.trans {first second third : Pass} {outcomes others : List Outcome}
    (h : Adds label filters renderer first outcomes second)
    (h' : Adds label filters renderer second others third) :
    Adds label filters renderer first (outcomes ++ others) third := by
  refine ⟨h'.fault, h'.failing, ?_, ?_, ?_⟩
  · rw [h'.text, h.text, List.flatMap_append, List.append_assoc]
  · rw [h'.notices, h.notices, List.flatMap_append, List.append_assoc]
  · rw [h'.failures, h.failures, List.countP_append, Nat.add_assoc]

theorem adds_step {pass : Pass} (hfault : pass.fault = none) (hsink : pass.sink.failing = [])
    {outcome : Outcome}
    (h : ∀ record ∈ outcome.record?, ∃ answer, Filter.allHold filters record = .ok answer) :
    Adds label filters renderer pass [outcome]
      (pass.step label filters renderer (.ofOutcome outcome)) := by
  obtain ⟨line, result⟩ := outcome
  cases result with
  | error fault =>
    constructor <;> simp [Item.ofOutcome, step, note, hfault, hsink, Outcome.fate, Fate.text,
      Fate.notices, Fate.isUnwritable]
  | ok record =>
    obtain ⟨answer, hanswer⟩ := h record rfl
    cases answer with
    | false =>
      constructor <;> simp [Item.ofOutcome, step, hfault, hsink, hanswer, Outcome.fate, Fate.ofRecord,
        Fate.text, Fate.notices, Fate.isUnwritable]
    | true =>
      cases hrender : renderer.render record with
      | error fault =>
        constructor <;> simp [Item.ofOutcome, step, render, note, Sink.put, hfault, hsink, hanswer,
          hrender, Outcome.fate, Fate.ofRecord, Fate.text, Fate.notices, Fate.isUnwritable]
      | ok text =>
        constructor <;> simp [Item.ofOutcome, step, render, Sink.put, Sink.write, Sink.text, hfault,
          hsink, hanswer, hrender, Outcome.fate, Fate.ofRecord, Fate.text, Fate.notices,
          Fate.isUnwritable]

theorem adds_run {pass : Pass} (hfault : pass.fault = none) (hsink : pass.sink.failing = [])
    {outcomes : List Outcome}
    (h : ∀ outcome ∈ outcomes, ∀ record ∈ outcome.record?,
      ∃ answer, Filter.allHold filters record = .ok answer) :
    Adds label filters renderer pass outcomes
      (run label filters renderer pass (outcomes.map .ofOutcome)) := by
  induction outcomes generalizing pass with
  | nil => exact .nil hfault hsink
  | cons outcome rest ih =>
    obtain ⟨hfirst, hrest⟩ := List.forall_mem_cons.mp h
    have hstep : Adds label filters renderer pass [outcome]
        (pass.step label filters renderer (.ofOutcome outcome)) :=
      adds_step hfault hsink hfirst
    exact hstep.trans (ih hstep.fault hstep.failing hrest)

end Pass

end LogSieve
