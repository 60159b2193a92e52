import LogSieve.Proofs.Log.Scan
import LogSieve.Proofs.Record.Lookup
import LogSieve.Proofs.Run.StableSort
import LogSieve.Run.Merge

namespace LogSieve

namespace Record

theorem get?_withSource_self (record : Record) (source : String) :
    (record.withSource source).get? sourceName = some (.string source) :=
  Fields.get?_insert_self _ _ _

theorem get?_withSource_of_ne (record : Record) (source : String) {name : String}
    (h : name ≠ sourceName) : (record.withSource source).get? name = record.get? name :=
  Fields.get?_insert_of_ne _ _ h

theorem firstInstant?_withSource (record : Record) (source : String) {names : List String}
    (h : sourceName ∉ names) :
    (record.withSource source).firstInstant? names = record.firstInstant? names := by
  induction names with
  | nil => rfl
  | cons name rest ih =>
    have hname : name ≠ sourceName := fun heq => h (by simp [heq])
    have hrest := ih fun hmem => h (List.mem_cons_of_mem _ hmem)
    rw [firstInstant?, firstInstant?, get?_withSource_of_ne record source hname, hrest]

end Record

namespace Merged

def tag (source : String) (record : Record) : Merged :=
  ⟨record.withSource source, source, Record.timestampNames.findSome? record.instantAt?⟩

theorem ofRecord_of_datable (source : String) {record : Record}
    (h : record.Datable Record.timestampNames) : ofRecord source record = .ok (tag source record) := by
  have hfirst := record.firstInstant?_withSource source
    (show Record.sourceName ∉ Record.timestampNames by decide)
  rw [Record.firstInstant?_of_datable h] at hfirst
  simp only [ofRecord, Record.timestamp?, hfirst]
  rfl

theorem ofRecord_error (source : String) {record : Record}
    (h : ¬record.Datable Record.timestampNames) :
    ∃ fault, ofRecord source record = .error fault := by
  have hfirst := record.firstInstant?_withSource source
    (show Record.sourceName ∉ Record.timestampNames by decide)
  rw [← Record.exists_firstInstant?_iff] at h
  cases hnone : record.firstInstant? Record.timestampNames with
  | ok t => exact absurd ⟨t, hnone⟩ h
  | error fault =>
    rw [hnone] at hfirst
    refine ⟨fault, ?_⟩
    simp only [ofRecord, Record.timestamp?, hfirst]
    rfl

end Merged

namespace ByteStream

def Datable (stream : ByteStream) : Prop :=
  ∀ record ∈ stream.records, record.Datable Record.timestampNames

end ByteStream

namespace Merge

-- The records of all sources as they are merged, source by source and line by line.
def entries (sources : List (String × ByteStream)) : List Merged :=
  sources.flatMap fun (label, stream) => stream.records.map (Merged.tag label)

theorem collect_of_datable (label : String) {outcomes : List (Outcome × Tally)} (final : Tally)
    (h : ∀ record ∈ (outcomes.map Prod.fst).filterMap Outcome.record?,
      record.Datable Record.timestampNames) :
    (collect label outcomes final).entries =
        .ok (((outcomes.map Prod.fst).filterMap Outcome.record?).map (Merged.tag label)) ∧
      (collect label outcomes final).tally = final := by
  induction outcomes with
  | nil => exact ⟨rfl, rfl⟩
  | cons entry rest ih =>
    obtain ⟨⟨line, result⟩, tally⟩ := entry
    cases result with
    | error fault =>
      have hrest := ih h
      exact hrest
    | ok record =>
      have hrecord := h record List.mem_cons_self
      obtain ⟨hentries, htally⟩ := ih fun other hother => h other (List.mem_cons_of_mem _ hother)
      simp only [collect, Merged.ofRecord_of_datable label hrecord, hentries, htally]
      exact ⟨rfl, trivial⟩

theorem collect_error (label : String) {outcomes : List (Outcome × Tally)} (final : Tally)
    (h : ¬∀ record ∈ (outcomes.map Prod.fst).filterMap Outcome.record?,
      record.Datable Record.timestampNames) :
    ∃ fault, (collect label outcomes final).entries = .error fault := by
  induction outcomes with
  | nil => simp at h
  | cons entry rest ih =>
    obtain ⟨⟨line, result⟩, tally⟩ := entry
    cases result with
    | error fault => exact ih h
    | ok record =>
      by_cases hrecord : record.Datable Record.timestampNames
      · obtain ⟨fault, hfault⟩ := ih fun hrest => h fun other hother => by
          rcases List.mem_cons.mp hother with rfl | hother
          · exact hrecord
          · exact hrest other hother
        simp only [collect, Merged.ofRecord_of_datable label hrecord, hfault]
        exact ⟨fault, rfl⟩
      · obtain ⟨fault, hfault⟩ := Merged.ofRecord_error label hrecord
        simp only [collect, hfault]
        exact ⟨fault, rfl⟩

theorem load_eq_collect (label : String) (scan : Scan) (tally : Tally) :
    (load label scan tally).entries =
        (collect label (scan.run tally).1 (scan.run tally).2).entries ∧
      (load label scan tally).tally =
        (collect label (scan.run tally).1 (scan.run tally).2).tally := by
  rw [load]
  cases h : (collect label (scan.run tally).1 (scan.run tally).2).entries <;> simp [h]

theorem load_of_datable (label : String) {stream : ByteStream} {sniffed : Sniffed}
    (hsniff : sniff stream = .ok sniffed) (h : stream.Datable) (tally : Tally) :
    (load label (.ofStream sniffed.dialect sniffed.reader.lines) tally).entries =
        .ok (stream.records.map (Merged.tag label)) ∧
      (load label (.ofStream sniffed.dialect sniffed.reader.lines) tally).tally =
        tally + stream.tally := by
  obtain ⟨houtcomes, hcounts⟩ := ByteStream.run_of_sniff hsniff tally
  obtain ⟨hentries, htally⟩ := load_eq_collect label
    (.ofStream sniffed.dialect sniffed.reader.lines) tally
  obtain ⟨hrecords, hfinal⟩ := collect_of_datable label
    ((Scan.ofStream sniffed.dialect sniffed.reader.lines).run tally).2 (by rw [houtcomes]; exact h)
  rw [houtcomes] at hrecords
  exact ⟨hentries.trans hrecords, htally.trans (hfinal.trans hcounts)⟩

theorem load_error (label : String) {stream : ByteStream} {sniffed : Sniffed}
    (hsniff : sniff stream = .ok sniffed) (h : ¬stream.Datable) (tally : Tally) :
    ∃ fault, (load label (.ofStream sniffed.dialect sniffed.reader.lines) tally).entries =
      .error fault := by
  obtain ⟨houtcomes, -⟩ := ByteStream.run_of_sniff hsniff tally
  obtain ⟨hentries, -⟩ := load_eq_collect label
    (.ofStream sniffed.dialect sniffed.reader.lines) tally
  rw [hentries]
  exact collect_error label _ (by rw [houtcomes]; exact h)

theorem loadAll_of_datable {sources : List (String × ByteStream)}
    (hsniff : ∀ source ∈ sources, ∃ sniffed, sniff source.2 = .ok sniffed)
    (hdatable : ∀ source ∈ sources, source.2.Datable) (tally : Tally) :
    (loadAll sources tally).entries = .ok (entries sources) ∧
      (loadAll sources tally).tally = tally + (sources.map (·.2.tally)).sum := by
  induction sources generalizing tally with
  | nil => exact ⟨rfl, rfl⟩
  | cons source rest ih =>
    obtain ⟨label, stream⟩ := source
    obtain ⟨sniffed, hsniffed⟩ := hsniff (label, stream) List.mem_cons_self
    have hstream : stream.Datable := hdatable (label, stream) List.mem_cons_self
    obtain ⟨hentries, htally⟩ := load_of_datable label hsniffed hstream tally
    obtain ⟨hmore, hsum⟩ := ih (fun other hother => hsniff other (List.mem_cons_of_mem _ hother))
      (fun other hother => hdatable other (List.mem_cons_of_mem _ hother)) (tally + stream.tally)
    simp only [loadAll, hsniffed, hentries, htally, hmore, hsum, List.map_cons, List.sum_cons]
    exact ⟨rfl, Tally.add_assoc _ _ _⟩

-- Sources are loaded exactly if all of them can be sniffed and all their records be dated.
theorem exists_loadAll_iff (sources : List (String × ByteStream)) (tally : Tally) :
    (∃ loaded, (loadAll sources tally).entries = .ok loaded) ↔
      ∀ source ∈ sources, (∃ sniffed, sniff source.2 = .ok sniffed) ∧ source.2.Datable := by
  constructor
  · intro h
    induction sources generalizing tally with
    | nil => simp
    | cons source rest ih =>
      obtain ⟨label, stream⟩ := source
      obtain ⟨loaded, hloaded⟩ := h
      cases hsniffed : sniff stream with
      | error fault =>
        simp only [loadAll, hsniffed] at hloaded
        cases hloaded
      | ok sniffed =>
        -- A source that cannot be dated is the fault itself; the others are loaded behind it.
        by_cases hstream : stream.Datable
        · obtain ⟨hentries, -⟩ := load_of_datable label hsniffed hstream tally
          simp only [loadAll, hsniffed, hentries] at hloaded
          cases hmore : (loadAll rest
              (load label (.ofStream sniffed.dialect sniffed.reader.lines) tally).tally).entries with
          | error fault =>
            rw [hmore] at hloaded
            cases hloaded
          | ok more =>
            have hrest := ih _ ⟨more, hmore⟩
            intro other hother
            rcases List.mem_cons.mp hother with rfl | hother
            · exact ⟨⟨sniffed, hsniffed⟩, hstream⟩
            · exact hrest other hother
        · obtain ⟨fault, hfault⟩ := load_error label hsniffed hstream tally
          simp only [loadAll, hsniffed, hfault] at hloaded
          cases hloaded
  · intro h
    exact ⟨_, (loadAll_of_datable (fun source hsource => (h source hsource).1)
      (fun source hsource => (h source hsource).2) tally).1⟩

theorem exists_run_iff (sources : List (String × ByteStream)) :
    (∃ sorted, (run sources).entries = .ok sorted) ↔
      ∀ source ∈ sources, (∃ sniffed, sniff source.2 = .ok sniffed) ∧ source.2.Datable := by
  rw [← exists_loadAll_iff sources {}]
  simp only [run]
  cases (loadAll sources {}).entries <;> simp [Except.map]

theorem sort_stable (loaded : List Merged) :
    StableSort (fun merged => merged.key.instant) loaded (sort loaded) :=
  stableSort_mergeSort _ _

theorem stableSort_of_run {sources : List (String × ByteStream)} {sorted : List Merged}
    (h : (run sources).entries = .ok sorted) :
    StableSort (fun merged => merged.key.instant) (entries sources) sorted ∧
      (run sources).tally = (sources.map (·.2.tally)).sum := by
  have hsources := (exists_run_iff sources).mp ⟨sorted, h⟩
  obtain ⟨hentries, htally⟩ := loadAll_of_datable (fun source hsource => (hsources source hsource).1)
    (fun source hsource => (hsources source hsource).2) {}
  simp only [run, hentries] at h
  cases h
  exact ⟨sort_stable _, htally.trans (Tally.zero_add _)⟩

theorem exists_run_of_text {sources : List (String × ByteStream)}
    (hsniff : ∀ source ∈ sources, ∃ sniffed, sniff source.2 = .ok sniffed)
    (htext : ∀ source ∈ sources, ∀ record ∈ source.2.records, ∀ name ∈ Record.timestampNames,
      ∀ value, record.get? name = some value → ∃ text, value.canonical = .ok text) :
    ∃ sorted, (run sources).entries = .ok sorted := by
  refine (exists_run_iff sources).mpr fun source hsource => ⟨hsniff source hsource, ?_⟩
  intro record hrecord
  apply allReached_of_forall
  intro name hname value hvalue
  exact value.exists_canonical_iff.mp (htext source hsource record hrecord name hname value hvalue)

-- A merge is the one stable sort by instant of the records of all sources. Each carries the label of
-- its source and is otherwise unchanged, and its timestamp is the first that is found in it. It is
-- sorted by that, and a record without one as the earliest. The counts of the sources add up.
theorem run_stableSort {sources : List (String × ByteStream)}
    (hsniff : ∀ source ∈ sources, ∃ sniffed, sniff source.2 = .ok sniffed)
    (htext : ∀ source ∈ sources, ∀ record ∈ source.2.records, ∀ name ∈ Record.timestampNames,
      ∀ value, record.get? name = some value → ∃ text, value.canonical = .ok text) :
    ∃ sorted, (run sources).entries = .ok sorted ∧
      (∀ other, StableSort (fun merged => merged.key.instant)
        (sources.flatMap fun (label, stream) => stream.records.map (Merged.tag label)) other ↔
          other = sorted) ∧
      (∀ merged ∈ sorted, ∃ source ∈ sources, ∃ record ∈ source.2.records,
        merged.source = source.1 ∧
        merged.record.get? Record.sourceName = some (.string source.1) ∧
        (∀ name, name ≠ Record.sourceName → merged.record.get? name = record.get? name) ∧
        merged.timestamp = Record.timestampNames.findSome? record.instantAt? ∧
        (∀ t, merged.timestamp = some t → merged.key = t) ∧
        (merged.timestamp = none → merged.key = .earliest)) ∧
      (run sources).tally = (sources.map (·.2.tally)).sum := by
  obtain ⟨sorted, hsorted⟩ := exists_run_of_text hsniff htext
  obtain ⟨hsort, htally⟩ := stableSort_of_run hsorted
  refine ⟨sorted, hsorted, fun other => ?_, ?_, htally⟩
  · exact ⟨fun hother => (hsort.unique hother).symm, fun heq => heq ▸ hsort⟩
  · intro merged hmerged
    obtain ⟨source, hsource, hmerged⟩ := List.mem_flatMap.mp (hsort.perm.subset hmerged)
    obtain ⟨record, hrecord, rfl⟩ := List.mem_map.mp hmerged
    exact ⟨source, hsource, record, hrecord, rfl, record.get?_withSource_self source.1,
      fun name => record.get?_withSource_of_ne source.1, rfl,
      fun t hdated => by rw [Merged.key, hdated, Option.getD_some],
      fun hundated => by rw [Merged.key, hundated, Option.getD_none]⟩

-- Two sources of different dialects, with a malformed line, a blank one, a record without a
-- timestamp and one instant in two offsets.
def mixedSources : List (String × ByteStream) :=
  [("app", ⟨Utf8.encode ("\x7b\"ts\":\"2024-01-01T10:00:00+02:00\"\x7d\nbroken\n" ++
      "\x7b\"_source\":\"x\"\x7d\n").toList, .finished⟩),
    ("db", ⟨Utf8.encode "\nts=2024-01-01T08:00:00Z level=info\n".toList, .finished⟩)]

theorem sniff_mixedSources :
    ∀ source ∈ mixedSources, ∃ sniffed, sniff source.2 = .ok sniffed := by
  simp only [mixedSources, List.forall_mem_cons]
  exact ⟨exists_sniff_of_finished _, exists_sniff_of_finished _, by simp⟩

theorem text_of_all {sources : List (String × ByteStream)}
    (h : (sources.all fun source => source.2.records.all fun record =>
      Record.timestampNames.all fun name =>
        (record.get? name).all fun value => value.canonical.toOption.isSome) = true) :
    ∀ source ∈ sources, ∀ record ∈ source.2.records, ∀ name ∈ Record.timestampNames,
      ∀ value, record.get? name = some value → ∃ text, value.canonical = .ok text := by
  intro source hsource record hrecord name hname value hvalue
  simp only [List.all_eq_true] at h
  have hsome := h source hsource record hrecord name hname
  rw [hvalue] at hsome
  cases hcanonical : value.canonical with
  | ok text => exact ⟨text, rfl⟩
  | error fault => simp [hcanonical, Except.toOption] at hsome

theorem text_mixedSources :
    ∀ source ∈ mixedSources, ∀ record ∈ source.2.records, ∀ name ∈ Record.timestampNames,
      ∀ value, record.get? name = some value → ∃ text, value.canonical = .ok text :=
  text_of_all (by decide +kernel)

-- The record without a timestamp comes first, and of the two of one instant that of the first source.
theorem run_stableSort_mixedSources :
    ∃ sorted, (run mixedSources).entries = .ok sorted ∧
      sorted.map (fun merged => (merged.source, merged.timestamp.isSome)) =
        [("app", false), ("app", true), ("db", true)] ∧
      StableSort (fun merged => merged.key.instant) (entries mixedSources) sorted ∧
      (run mixedSources).tally = (mixedSources.map (·.2.tally)).sum := by
  have hevaluated : (entries mixedSources).map (fun merged =>
      ((merged.source, merged.timestamp.isSome), merged.key.instant)) =
      [(("app", true), 63839692800000000), (("app", false), 0), (("db", true), 63839692800000000)] := by
    decide +kernel
  obtain ⟨a, more, hentries, ha, hmore⟩ := List.map_eq_cons_iff.mp hevaluated
  obtain ⟨b, last, rfl, hb, hlast⟩ := List.map_eq_cons_iff.mp hmore
  obtain ⟨c, rest, rfl, hc, hrest⟩ := List.map_eq_cons_iff.mp hlast
  rw [List.map_eq_nil_iff.mp hrest] at hentries
  simp only [Prod.mk.injEq] at ha hb hc
  have hordered : StableSort (fun merged => merged.key.instant) (entries mixedSources) [b, a, c] := by
    rw [hentries]
    refine ⟨.swap .., by simp [ha, hb, hc], fun k => ?_⟩
    by_cases hk : k = 0
    · simp [ha, hb, hc, hk]
    · simp [List.filter_cons, hb, Ne.symm hk]
  obtain ⟨sorted, hsorted, hsort, -, htally⟩ :=
    run_stableSort sniff_mixedSources text_mixedSources
  refine ⟨sorted, hsorted, ?_, (hsort sorted).mpr rfl, htally⟩
  rw [← (hsort _).mp hordered]
  simp [ha, hb, hc]

end Merge

end LogSieve
