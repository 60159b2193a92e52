import LogSieve.Proofs.Run.Faults

namespace LogSieve

def faultOf? {ε α : Type} : Except ε α → Option ε
  | .error fault => some fault
  | .ok _ => none

theorem length_ends {ε α : Type} (ends : List (Except ε α)) :
    (ends.filterMap Except.toOption).length + (ends.filterMap faultOf?).length = ends.length := by
  induction ends with
  | nil => rfl
  | cons first rest ih =>
    cases first <;> simp [List.filterMap_cons, Except.toOption, faultOf?] <;> omega

structure Formatter where
  format : OutputFormat
  render : Record → Except RenderCause (List Char)

def Renderer.formatter (renderer : Renderer) : Formatter :=
  ⟨renderer.format, fun record => (renderer.render record).mapError .unwritable⟩

namespace Formatter

def comesToWrite (formatter : Formatter) (record : Record) : Bool :=
  (formatter.render record).isOk

-- What becomes of a record: its text, if the write of that number takes it, or why there is none.
def deliver (formatter : Formatter) (failing : List Nat) (number : Nat) (record : Record) :
    Except RenderFault (List Char) :=
  match formatter.render record with
  | .error cause => .error ⟨formatter.format, cause⟩
  | .ok text =>
    if failing.contains number then .error ⟨formatter.format, .sink Sink.brokenPipe⟩ else .ok text

def deliveries (formatter : Formatter) (failing : List Nat) (attempts : Nat)
    (records : List Record) : List (Except RenderFault (List Char)) :=
  records.mapIdx fun index record =>
    formatter.deliver failing
      (attempts + (records.take index).countP formatter.comesToWrite) record

theorem deliveries_cons (formatter : Formatter) (failing : List Nat) (attempts : Nat)
    (record : Record) (rest : List Record) :
    formatter.deliveries failing attempts (record :: rest) =
      formatter.deliver failing attempts record ::
        formatter.deliveries failing
          (attempts + if formatter.comesToWrite record then 1 else 0) rest := by
  simp only [deliveries, List.mapIdx_cons, List.take_zero, List.countP_nil, Nat.add_zero]
  congr 2
  funext index later
  rw [List.take_succ_cons, List.countP_cons, Nat.add_assoc, Nat.add_comm (List.countP _ _)]

end Formatter

def Sink.putBy (formatter : Formatter) (sink : Sink) (record : Record) :
    Except RenderFault Unit × Sink :=
  match formatter.render record with
  | .error cause => (.error ⟨formatter.format, cause⟩, sink)
  | .ok text =>
    match sink.write text with
    | (.ok (), sink) => (.ok (), sink)
    | (.error detail, sink) => (.error ⟨formatter.format, .sink detail⟩, sink)

theorem Sink.put_eq_putBy (renderer : Renderer) (sink : Sink) (record : Record) :
    sink.put renderer record = sink.putBy renderer.formatter record := by
  simp only [put, putBy, Renderer.formatter]
  cases renderer.render record <;> rfl

def Item.record? : Item → Option Record
  | .record entry => some entry
  | .malformed .. => none

namespace Pass

def renderBy (formatter : Formatter) (pass : Pass) (record : Record) : Pass :=
  let report := { pass.report with matched := pass.report.matched + 1 }
  match pass.sink.putBy formatter record with
  | (.ok (), sink) =>
    { pass with sink := sink, report := { report with rendered := report.rendered + 1 } }
  | (.error fault, sink) =>
    { pass with
      sink := sink, report := { report with failures := report.failures + 1 } }.note
      (.unrendered fault)

theorem render_eq_renderBy (renderer : Renderer) (pass : Pass) (record : Record) :
    pass.render renderer record = pass.renderBy renderer.formatter record := by
  rw [render, Sink.put_eq_putBy]
  rfl

-- A pass over what an iterator gives, with any condition on the records. It ends where the iterator
-- or the condition raises something.
def drain {ε : Type} (accepts : Record → Except ε Bool) (formatter : Formatter) :
    Pass → List (Except ε Record) → Except ε Unit × Pass
  | pass, [] => (.ok (), pass)
  | pass, .error fault :: _ => (.error fault, pass)
  | pass, .ok record :: rest =>
    match accepts record with
    | .error fault => (.error fault, pass)
    | .ok true => drain accepts formatter (pass.renderBy formatter record) rest
    | .ok false => drain accepts formatter pass rest

def delivered (formatter : Formatter) (pass : Pass) (records : List Record) : Pass :=
  let ends := formatter.deliveries pass.sink.failing pass.sink.attempts records
  { pass with
    sink :=
      { pass.sink with
        written := pass.sink.written ++ ends.filterMap Except.toOption
        attempts := pass.sink.attempts + records.countP formatter.comesToWrite }
    report :=
      { matched := pass.report.matched + records.length
        rendered := pass.report.rendered + (ends.filterMap Except.toOption).length
        failures := pass.report.failures + (ends.filterMap faultOf?).length }
    notices := pass.notices ++ (ends.filterMap faultOf?).map .unrendered }

theorem delivered_nil (formatter : Formatter) (pass : Pass) :
    pass.delivered formatter [] = pass := by
  simp [delivered, Formatter.deliveries]

theorem renderBy_eq (formatter : Formatter) (pass : Pass) (record : Record) :
    pass.renderBy formatter record =
      let attempts := pass.sink.attempts + if formatter.comesToWrite record then 1 else 0
      match formatter.deliver pass.sink.failing pass.sink.attempts record with
      | .ok text =>
        { pass with
          sink := { pass.sink with written := pass.sink.written ++ [text], attempts := attempts }
          report :=
            { pass.report with
              matched := pass.report.matched + 1, rendered := pass.report.rendered + 1 } }
      | .error fault =>
        { pass with
          sink := { pass.sink with attempts := attempts }
          report :=
            { pass.report with
              matched := pass.report.matched + 1, failures := pass.report.failures + 1 }
          notices := pass.notices ++ [.unrendered fault] } := by
  cases hrender : formatter.render record with
  | error cause =>
    simp [renderBy, Sink.putBy, Formatter.deliver, Formatter.comesToWrite, hrender, note,
      Except.isOk, Except.toBool]
  | ok text =>
    by_cases hfails : pass.sink.attempts ∈ pass.sink.failing <;>
      simp [renderBy, Sink.putBy, Formatter.deliver, Formatter.comesToWrite, hrender, Sink.write,
        hfails, note, Except.isOk, Except.toBool]

theorem delivered_cons (formatter : Formatter) (pass : Pass) (record : Record)
    (rest : List Record) :
    pass.delivered formatter (record :: rest) =
      (pass.renderBy formatter record).delivered formatter rest := by
  have hattempts : pass.sink.attempts + (record :: rest).countP formatter.comesToWrite =
      pass.sink.attempts + (if formatter.comesToWrite record then 1 else 0) +
        rest.countP formatter.comesToWrite := by
    rw [List.countP_cons, Nat.add_comm (rest.countP _), Nat.add_assoc]
  rw [renderBy_eq, delivered, Formatter.deliveries_cons, hattempts]
  cases formatter.deliver pass.sink.failing pass.sink.attempts record with
  | ok text =>
    simp [delivered, List.filterMap_cons, faultOf?, Except.toOption, Nat.add_assoc, Nat.add_comm 1]
  | error fault =>
    simp [delivered, List.filterMap_cons, faultOf?, Except.toOption, Nat.add_assoc, Nat.add_comm 1]

variable {ε : Type} {accepts : Record → Except ε Bool} {formatter : Formatter}

theorem drain_of_answers {records : List Record} {holds : Record → Bool}
    (h : ∀ record ∈ records, accepts record = .ok (holds record)) (pass : Pass) :
    drain accepts formatter pass (records.map .ok) =
      (.ok (), pass.delivered formatter (records.filter holds)) := by
  induction records generalizing pass with
  | nil => rw [List.filter_nil, delivered_nil]; rfl
  | cons record rest ih =>
    obtain ⟨hfirst, hrest⟩ := List.forall_mem_cons.mp h
    rw [List.map_cons, drain, hfirst]
    cases hholds : holds record with
    | false =>
      rw [List.filter_cons_of_neg (by simp [hholds])]
      exact ih hrest pass
    | true =>
      rw [List.filter_cons_of_pos hholds, delivered_cons]
      exact ih hrest _

-- What is raised behind some items leaves the pass as it was in front of it.
theorem drain_append (pass : Pass) (items rest : List (Except ε Record)) :
    drain accepts formatter pass (items ++ rest) =
      match drain accepts formatter pass items with
      | (.ok (), mid) => drain accepts formatter mid rest
      | (.error fault, final) => (.error fault, final) := by
  induction items generalizing pass with
  | nil => rfl
  | cons item items ih =>
    cases item with
    | error fault => rfl
    | ok record =>
      simp only [List.cons_append, drain]
      cases accepts record with
      | error fault => rfl
      | ok answer =>
        cases answer with
        | false => exact ih pass
        | true => exact ih _

def errors (pass : Pass) : List Notice :=
  pass.notices.filter fun notice => notice.severity = .error

structure Matches (pass other : Pass) : Prop where
  sink_eq : pass.sink = other.sink
  report_eq : pass.report = other.report
  errors_eq : pass.errors = other.errors

namespace Matches

variable {pass other : Pass}

theorem renderBy (h : Matches pass other) (formatter : Formatter) (record : Record) :
    Matches (pass.renderBy formatter record) (other.renderBy formatter record) := by
  obtain ⟨hsink, hreport, herrors⟩ := h
  unfold Pass.renderBy
  rw [hsink, hreport]
  cases hput : other.sink.putBy formatter record with
  | mk result sink =>
    cases result with
    | ok written => exact ⟨rfl, rfl, herrors⟩
    | error fault =>
      refine ⟨rfl, rfl, ?_⟩
      unfold errors at herrors ⊢
      simp only [note, List.filter_append, herrors]

theorem note (h : Matches pass other) (notice : Notice) (hnotice : notice.severity ≠ .error) :
    Matches (pass.note notice) other := by
  refine ⟨h.sink_eq, h.report_eq, ?_⟩
  rw [← h.errors_eq, errors, Pass.note, List.filter_append,
    List.filter_cons_of_neg (by simpa using hnotice), List.filter_nil, List.append_nil, errors]

end Matches

theorem step_of_fault {pass : Pass} {fault : Json.WriteFault} (h : pass.fault = some fault)
    (label : String) (filters : List Filter) (renderer : Renderer) (item : Item) :
    pass.step label filters renderer item = pass := by
  cases item <;> simp [step, h]

theorem run_of_fault {pass : Pass} {fault : Json.WriteFault} (h : pass.fault = some fault)
    (label : String) (filters : List Filter) (renderer : Renderer) (items : List Item) :
    pass.run label filters renderer items = pass := by
  induction items with
  | nil => rfl
  | cons item rest ih =>
    rw [run, List.foldl_cons, step_of_fault h]
    exact ih

theorem matches_run {pass other : Pass} (h : Matches pass other) (hfault : pass.fault = none)
    (label : String) (filters : List Filter) (renderer : Renderer) (items : List Item) :
    let ended := drain (Filter.allHold filters) renderer.formatter other
      ((items.filterMap Item.record?).map .ok)
    Matches (pass.run label filters renderer items) ended.2 ∧
      (pass.run label filters renderer items).fault = faultOf? ended.1 := by
  induction items generalizing pass other with
  | nil => exact ⟨h, hfault⟩
  | cons item rest ih =>
    rw [run, List.foldl_cons]
    -- A malformed line is reported and is nothing to the pass over records.
    cases item with
    | malformed line fault =>
      have hstep : pass.step label filters renderer (.malformed line fault) =
          pass.note (.malformed label line fault) := by simp [step, hfault]
      rw [hstep]
      exact ih (h.note _ (by simp [Notice.severity])) hfault
    | record record =>
      simp only [List.filterMap_cons, Item.record?, List.map_cons, drain, step, hfault,
        Option.isSome_none, Bool.false_eq_true, if_false]
      cases hanswer : Filter.allHold filters record with
      | error fault =>
        have hraised : ({ pass with fault := some fault } : Pass).fault = some fault := rfl
        have hended := run_of_fault hraised label filters renderer rest
        rw [run] at hended
        simp only [hended]
        exact ⟨⟨h.sink_eq, h.report_eq, h.errors_eq⟩, rfl⟩
      | ok answer =>
        cases answer with
        | false => exact ih h hfault
        | true =>
          have hnext : (pass.render renderer record).fault = none := by
            rw [fault_render, hfault]
          have hmatches : Matches (pass.render renderer record)
              (other.renderBy renderer.formatter record) := by
            rw [render_eq_renderBy]
            exact h.renderBy renderer.formatter record
          exact ih hmatches hnext

-- A pass over records on which the condition has an answer. Those that satisfy it are counted and
-- delivered, each for itself: the output gets the whole text of each record that could be rendered
-- and whose own write succeeded, in order, and nothing else; the others are reported one by one, in
-- order. If the iterator or the condition raises something at a record, everything is as after a pass
-- over the records in front of it. A pass that tries filters on the records of a source is such a
-- pass.
theorem isolated {ε : Type} (accepts : Record → Except ε Bool) (formatter : Formatter)
    (sink : Sink) :
    (∀ (records : List Record) (holds : Record → Bool),
      (∀ record ∈ records, accepts record = .ok (holds record)) →
      let matching := records.filter holds
      let ends := formatter.deliveries sink.failing sink.attempts matching
      let ended := drain accepts formatter { sink := sink } (records.map .ok)
      let final := ended.2
      ended.1 = .ok () ∧
      final.report.matched = matching.length ∧
      final.report.matched = final.report.rendered + final.report.failures ∧
      final.report.rendered = (ends.filterMap Except.toOption).length ∧
      final.sink.text = sink.text ++ (ends.filterMap Except.toOption).flatten ∧
      final.notices = (ends.filterMap faultOf?).map .unrendered) ∧
    (∀ (before : List Record) (rest : List (Except ε Record)) (fault : ε),
      let upTo := drain accepts formatter { sink := sink } (before.map .ok)
      let raised :=
        drain accepts formatter { sink := sink } (before.map .ok ++ .error fault :: rest)
      raised.2 = upTo.2 ∧ (upTo.1 = .ok () → raised.1 = .error fault)) ∧
    (∀ (before : List Record) (record : Record) (rest : List (Except ε Record)) (fault : ε),
      accepts record = .error fault →
      let upTo := drain accepts formatter { sink := sink } (before.map .ok)
      let raised :=
        drain accepts formatter { sink := sink } (before.map .ok ++ .ok record :: rest)
      raised.2 = upTo.2 ∧ (upTo.1 = .ok () → raised.1 = .error fault)) ∧
    ∀ (label : String) (filters : List Filter) (renderer : Renderer) (items : List Item),
      let ended := drain (Filter.allHold filters) renderer.formatter { sink := sink }
        ((items.filterMap Item.record?).map .ok)
      let actual := run label filters renderer { sink := sink } items
      actual.sink = ended.2.sink ∧ actual.report = ended.2.report ∧
        actual.errors = ended.2.errors ∧ actual.fault = faultOf? ended.1 := by
  refine ⟨?_, ?_, ?_, ?_⟩
  · intro records holds hanswers
    simp only [drain_of_answers hanswers]
    refine ⟨trivial, ?_, ?_, ?_, ?_, rfl⟩
    · simp only [delivered, Nat.zero_add]
    · simp only [delivered, Nat.zero_add]
      rw [length_ends, Formatter.deliveries, List.length_mapIdx]
    · simp only [delivered, Nat.zero_add]
    · simp only [delivered, Sink.text, List.flatten_append]
  · intro before rest fault
    simp only [drain_append, drain]
    cases drain accepts formatter { sink := sink } (before.map .ok) with
    | mk ending final => cases ending <;> simp
  · intro before record rest fault hraised
    simp only [drain_append, drain, hraised]
    cases drain accepts formatter { sink := sink } (before.map .ok) with
    | mk ending final => cases ending <;> simp
  · intro label filters renderer items
    have hstart : Matches { sink := sink } { sink := sink } := ⟨rfl, rfl, rfl⟩
    obtain ⟨hmatches, hfault⟩ := matches_run hstart rfl label filters renderer items
    exact ⟨hmatches.sink_eq, hmatches.report_eq, hmatches.errors_eq, hfault⟩

-- The first record cannot be rendered and the write of the second fails, which is the first write.
-- Behind the second, the first has no text for a condition to ask for.
theorem isolated_brokenRecords :
    let huge : Record := .ofList [("v", .array [.number (Decimal.toDouble false ⟨1, 20⟩)])]
    let plain (id : String) : Record := .ofList [("id", .string id)]
    let sink : Sink := { failing := [0] }
    let all : Record → Except Json.WriteFault Bool := Filter.allHold []
    let asked : Record → Except Json.WriteFault Bool :=
      Filter.allHold [⟨"v", .notEqual, "", none⟩]
    let final := (drain all Renderer.logfmt.formatter { sink := sink }
      ([huge, plain "1", plain "2"].map .ok)).2
    (∀ record ∈ [huge, plain "1", plain "2"], all record = .ok true) ∧
    asked huge = .error .integerRange ∧
    final.sink.text = "id=2\n".toList ∧ final.notices.length = 2 ∧
    (drain asked Renderer.logfmt.formatter { sink := sink }
        ([plain "1"].map .ok ++ [.ok huge])).2 =
      (drain asked Renderer.logfmt.formatter { sink := sink } ([plain "1"].map .ok)).2 := by
  intro huge plain sink all asked final
  have hall : ∀ record ∈ [huge, plain "1", plain "2"], all record = .ok true := fun _ _ => rfl
  have hhuge : asked huge = .error .integerRange := by decide +kernel
  obtain ⟨hdelivered, -⟩ := isolated all Renderer.logfmt.formatter sink
  obtain ⟨-, -, -, -, htext, hnotices⟩ := hdelivered _ (fun _ => true) hall
  obtain ⟨-, -, hraised, -⟩ := isolated asked Renderer.logfmt.formatter sink
  obtain ⟨hsame, -⟩ := hraised [plain "1"] huge [] _ hhuge
  refine ⟨hall, hhuge, ?_, ?_, hsame⟩
  · rw [htext]
    decide +kernel
  · rw [hnotices]
    decide +kernel

end Pass

end LogSieve
