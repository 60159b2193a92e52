import LogSieve.Proofs.Command.Single
import LogSieve.Proofs.Log.CompactLines
import LogSieve.Proofs.Render.LogfmtPassThrough
import LogSieve.Proofs.Run.Alike

namespace LogSieve

theorem Value.fieldsWellFormed_of_forall {fields : List (String × Value)}
    (h : ∀ field ∈ fields, field.2.WellFormed) : FieldsWellFormed fields := by
  induction fields with
  | nil => trivial
  | cons field rest ih =>
    obtain ⟨hfield, hrest⟩ := List.forall_mem_cons.mp h
    exact ⟨hfield, ih hrest⟩

theorem Dialect.wellFormed_of_readLine_eq_ok {dialect : Dialect} {line : List Char}
    {record : Record} (h : dialect.readLine line = .ok record) : record.WellFormed := by
  cases dialect with
  | jsonLines => exact wellFormed_of_readLine h
  | keyValue =>
    simp only [readLine] at h
    cases hread : KeyValue.read line with
    | error fault =>
      rw [hread] at h
      cases h
    | ok found =>
      rw [hread] at h
      cases h
      refine Value.fieldsWellFormed_of_forall fun field hfield => ?_
      obtain ⟨name, value⟩ := field
      have hvalue : KeyValue.IsRead value := (KeyValue.isKey_isRead_of_read hread _ hfield).2
      cases hvalue <;> trivial

theorem Outcome.record?_eq_some {outcome : Outcome} {record : Record}
    (h : outcome.record? = some record) : outcome.result = .ok record := by
  obtain ⟨line, result⟩ := outcome
  cases result with
  | error fault => cases h
  | ok found => exact congrArg Except.ok (Option.some.inj h)

theorem ByteStream.wellFormed_of_mem_recordsIn {format : InputFormat} {stream : ByteStream}
    {record : Record} (h : record ∈ stream.recordsIn format) : record.WellFormed := by
  obtain ⟨outcome, houtcome, hrecord⟩ := List.mem_filterMap.mp h
  obtain ⟨line, -, rfl⟩ := List.mem_map.mp houtcome
  exact Dialect.wellFormed_of_readLine_eq_ok (Outcome.record?_eq_some hrecord)

-- Where nothing is selected, a line comes to its record as compact JSON, if it has one that can be
-- written so.
theorem Outcome.fate_compact {outcome : Outcome}
    (h : ∀ record ∈ outcome.record?, ∃ text, (Renderer.json false).render record = .ok text) :
    (outcome.fate [] (.json false)).isUnwritable = false ∧
      (outcome.fate [] (.json false)).text = compactLines outcome.record?.toList := by
  obtain ⟨line, result⟩ := outcome
  cases result with
  | error fault => exact ⟨rfl, rfl⟩
  | ok record =>
    obtain ⟨text, htext⟩ := h record rfl
    obtain rfl := (Renderer.eq_of_render_json htext).2
    simp [fate, Fate.ofRecord, Filter.allHold, htext, Fate.isUnwritable, Fate.text, record?,
      Except.toOption, compactLines]

theorem items_compactLines {records : List Record}
    (hwell : ∀ record ∈ records, record.WellFormed)
    (hfault : ∀ record ∈ records, record.toJson.fault? Json.writeDepth = none) :
    (ByteStream.outcomesIn .auto ⟨Utf8.encode (compactLines records), .finished⟩).map
      Item.ofOutcome = records.map fun record => .record record.reread := by
  rw [ByteStream.outcomesIn_compactLines hwell hfault, List.map_map]
  calc (records.zipIdx 1).map (fun entry => Item.record entry.1.reread)
    _ = ((records.zipIdx 1).map Prod.fst).map fun record => .record record.reread := by
      rw [List.map_map]
      rfl
    _ = records.map fun record => .record record.reread := by rw [List.zipIdx_map_fst]

structure Finish.Agree (finish other : Finish) : Prop where
  exitCode : finish.exitCode = other.exitCode
  output : finish.output = other.output
  crash : finish.crash = other.crash

namespace Command

theorem output_compact {plan : Plan} (hrenderer : plan.renderer = .json false)
    (hfilters : plan.filters = []) (hstats : plan.stats = none) (label : String)
    {bytes : List UInt8}
    (hrenders : ∀ record ∈ ByteStream.recordsIn plan.input ⟨bytes, .finished⟩,
      ∃ text, (Renderer.json false).render record = .ok text) :
    let finish := runPlan plan (singleInput plan.input label ⟨bytes, .finished⟩)
    finish.exitCode = 0 ∧ finish.crash = none ∧
      finish.output = compactLines (ByteStream.recordsIn plan.input ⟨bytes, .finished⟩) := by
  intro finish
  have hanswers : ∀ record ∈ ByteStream.recordsIn plan.input ⟨bytes, .finished⟩,
      ∃ answer, Filter.allHold plan.filters record = .ok answer := by
    intro record _
    rw [hfilters]
    exact ⟨true, rfl⟩
  obtain ⟨hcode, houtput, -, hcrash⟩ := runPlan_single hstats label hanswers
  -- Nothing is selected, so each line comes to its own record, or to none.
  have hfate : ∀ outcome ∈ ByteStream.outcomesIn plan.input ⟨bytes, .finished⟩,
      (outcome.fate plan.filters plan.renderer).isUnwritable = false ∧
        (outcome.fate plan.filters plan.renderer).text =
          compactLines outcome.record?.toList := by
    intro outcome houtcome
    rw [hfilters, hrenderer]
    exact Outcome.fate_compact fun record hrecord =>
      hrenders record (List.mem_filterMap.mpr ⟨outcome, houtcome, hrecord⟩)
  refine ⟨?_, hcrash, ?_⟩
  · rw [hcode, ByteStream.fates, List.any_map, if_neg]
    simpa using fun outcome houtcome => (hfate outcome houtcome).1
  · rw [houtput, ByteStream.fates, List.flatMap_map,
      List.flatMap_congr fun outcome houtcome => (hfate outcome houtcome).2]
    simp only [compactLines, ByteStream.recordsIn, List.filterMap_eq_flatMap_toList,
      List.flatMap_assoc]

theorem renderItems_agree {plan plan' : Plan} {given given' : Input} {items items' : List Item}
    (h : (Pass.run given.label plan.filters plan.renderer
        { sink := {}, notices := given.notices } items).Agree
      (Pass.run given'.label plan'.filters plan'.renderer
        { sink := {}, notices := given'.notices } items')) :
    (renderItems plan given items).Agree (renderItems plan' given' items') := by
  simp only [renderItems, h.fault, h.sink, h.report]
  split <;> exact ⟨rfl, rfl, rfl⟩

theorem countItems_agree {plan plan' : Plan} {field : String} {given given' : Input}
    {items items' : List Item}
    (h : (Frequency.run given.label plan.filters field items).Agree
      (Frequency.run given'.label plan'.filters field items')) :
    (countItems plan field given items).Agree (countItems plan' field given' items') := by
  simp only [countItems, h.fault, Frequency.text, Frequency.rows, h.counts]
  split <;> exact ⟨rfl, rfl, rfl⟩

-- Of a source whose records can be written as compact JSON, one run writes a line for each. A run over
-- these lines, and a run over the source itself, print the same and end in the same way, whatever they
-- select, render or count.
theorem runPlan_of_compact (plan : Plan) (label again : String) {bytes : List UInt8}
    (hrenders : ∀ record ∈ ByteStream.recordsIn plan.input ⟨bytes, .finished⟩,
      ∃ text, (Renderer.json false).render record = .ok text) :
    let run := fun (plan : Plan) (label : String) (bytes : List UInt8) =>
      runPlan plan (singleInput plan.input label ⟨bytes, .finished⟩)
    let compact := run { plan with renderer := .json false, filters := [], stats := none } label bytes
    let direct := run plan label bytes
    let second := run { plan with input := .auto } again (Utf8.encode compact.output)
    compact.exitCode = 0 ∧ compact.crash = none ∧
      compact.output = compactLines (ByteStream.recordsIn plan.input ⟨bytes, .finished⟩) ∧
      direct.Agree second := by
  intro run compact direct second
  let first : Plan := { plan with renderer := .json false, filters := [], stats := none }
  obtain ⟨hcode, hcrash, houtput⟩ :=
    output_compact (show first.renderer = .json false from rfl) rfl rfl label hrenders
  refine ⟨hcode, hcrash, houtput, ?_⟩
  let records := ByteStream.recordsIn plan.input ⟨bytes, .finished⟩
  have hwell : ∀ record ∈ records, record.WellFormed := fun record hrecord =>
    ByteStream.wellFormed_of_mem_recordsIn hrecord
  have hfault : ∀ record ∈ records, record.toJson.fault? Json.writeDepth = none := by
    intro record hrecord
    obtain ⟨text, htext⟩ := hrenders record hrecord
    exact (Renderer.eq_of_render_json htext).1
  have halike : ∀ record ∈ records, record.reread.Alike record := fun record hrecord =>
    Record.reread_alike (hwell record hrecord)
  have hitems : (ByteStream.outcomesIn .auto ⟨Utf8.encode compact.output, .finished⟩).map
      Item.ofOutcome = records.map fun record => .record record.reread := by
    rw [show compact.output = compactLines records from houtput, items_compactLines hwell hfault]
  -- The second run is given the records themselves, but for signs of zeros, and no malformed line.
  obtain ⟨noted, hdirect, -⟩ := exists_singleInput plan.input label bytes
  obtain ⟨noted', hsecond, -⟩ := exists_singleInput .auto again (Utf8.encode compact.output)
  rw [hitems] at hsecond
  simp only [second, direct, run, hdirect, hsecond, runPlan]
  cases plan.stats with
  | none =>
    have hstart : Pass.Agree { sink := {}, notices := noted } { sink := {}, notices := noted' } :=
      ⟨rfl, rfl, rfl⟩
    exact renderItems_agree
      (Pass.agree_run halike hstart label again plan.filters plan.renderer)
  | some field =>
    exact countItems_agree (Frequency.agree_run halike label again plan.filters field)

-- Records with containers, a negative zero and whole numbers with fractions, and a malformed line.
def looseLines : List UInt8 :=
  ["\x7b\"n\":-0.0,\"user\":\x7b\"b\":1.0,\"a\":[1,2]\x7d\x7d", "-", "\x7b\"n\":2.5,\"user\":1e3\x7d",
    "\x7b\"n\":7\x7d"].flatMap
      fun line => Utf8.encode (line.toList ++ ['\n'])

theorem runPlan_of_compact_looseLines :
    let plan : Plan := ⟨.auto, .logfmt, [⟨"n", .lessEqual, "2.5", none⟩], none, .warning⟩
    let run := fun (plan : Plan) (label : String) (bytes : List UInt8) =>
      runPlan plan (singleInput plan.input label ⟨bytes, .finished⟩)
    let compact :=
      run { plan with renderer := .json false, filters := [], stats := none } "stdin" looseLines
    compact.output = ("\x7b\"n\":0,\"user\":\x7b\"a\":[1,2],\"b\":1\x7d\x7d\n".toList ++
      "\x7b\"n\":2.5,\"user\":1000\x7d\n\x7b\"n\":7\x7d\n".toList) ∧
    (run plan "stdin" (Utf8.encode compact.output)).output =
      "n=0 user=\"\x7b\\\"a\\\":[1,2],\\\"b\\\":1\x7d\"\nn=2.5 user=1000\n".toList := by
  intro plan run compact
  have hrenders : ∀ record ∈ ByteStream.recordsIn .auto ⟨looseLines, .finished⟩,
      ∃ text, (Renderer.json false).render record = .ok text :=
    exists_ok_of_all (by decide +kernel)
  obtain ⟨-, -, -, hagree⟩ := runPlan_of_compact plan "stdin" "stdin" hrenders
  refine ⟨by decide +kernel, hagree.output.symm.trans ?_⟩
  decide +kernel

end Command

end LogSieve
