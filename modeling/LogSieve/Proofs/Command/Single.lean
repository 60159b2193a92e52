import LogSieve.Proofs.Command.Plan
import LogSieve.Proofs.Log.Lines
import LogSieve.Proofs.Run.Pass

namespace LogSieve

def Fate.complaint (label : String) (format : OutputFormat) (line : Int) : Fate → List Char
  | .malformed fault =>
    ("Error parsing " ++ label ++ ": " ++ ("line " ++ toString line ++ ": " ++ fault.message) ++
      "\n").toList
  | .unwritable fault =>
    ("Error formatting log: " ++ ("failed to write " ++ format.name ++ " record: " ++
      fault.message) ++ "\n").toList
  | _ => []

def ByteStream.fates (format : InputFormat) (filters : List Filter) (renderer : Renderer)
    (stream : ByteStream) : List (Int × Fate) :=
  (stream.outcomesIn format).map fun outcome => (outcome.line, outcome.fate filters renderer)

namespace Command

theorem noticeLines_append (least : Severity) (notices others : List Notice) :
    noticeLines least (notices ++ others) =
      noticeLines least notices ++ noticeLines least others := by
  simp [noticeLines]

theorem noticeLines_flatMap {α : Type} (least : Severity) (items : List α)
    (notices : α → List Notice) :
    noticeLines least (items.flatMap notices) =
      items.flatMap fun item => noticeLines least (notices item) := by
  induction items with
  | nil => rfl
  | cons item rest ih => rw [List.flatMap_cons, noticeLines_append, ih, List.flatMap_cons]

theorem noticeLines_eq_nil {least : Severity} {notices : List Notice}
    (h : ∀ notice ∈ notices, notice.severity = .debug) (hleast : least ≠ .debug) :
    noticeLines least notices = [] := by
  have hnone : notices.filter (fun notice => least.rank ≤ notice.severity.rank) = [] := by
    rw [List.filter_eq_nil_iff]
    intro notice hnotice
    rw [h notice hnotice]
    cases least <;> simp [Severity.rank] at hleast ⊢
  rw [noticeLines, hnone]
  rfl

theorem noticeLines_finished {least : Severity} (hleast : least ≠ .debug)
    (matched rendered failures : Nat) :
    noticeLines least [.finished matched rendered failures] = [] :=
  noticeLines_eq_nil (by simp [Notice.severity]) hleast

theorem noticeLines_singleton {least : Severity} {notice : Notice}
    (h : least.rank ≤ notice.severity.rank) :
    noticeLines least [notice] = (notice.message ++ "\n").toList := by
  have hkept : [notice].filter (fun notice => least.rank ≤ notice.severity.rank) = [notice] := by
    simpa using h
  rw [noticeLines, hkept, List.flatMap_singleton, String.toList_append]
  rfl

theorem noticeLines_fate (label : String) (renderer : Renderer) (line : Int) (fate : Fate) :
    noticeLines .warning (fate.notices label renderer line) =
      fate.complaint label renderer.format line := by
  cases fate with
  | malformed fault => exact noticeLines_singleton (Nat.le_refl Severity.warning.rank)
  | unwritable fault =>
    have hrank : Severity.warning.rank ≤ Severity.error.rank := by decide
    exact noticeLines_singleton hrank
  | passedOver => rfl
  | written text => rfl

-- A source that ends is read to its end. Only sniffing is reported of that, and it matters little.
theorem exists_singleInput (format : InputFormat) (label : String) (bytes : List UInt8) :
    ∃ sniffed : List Notice,
      singleInput format label ⟨bytes, .finished⟩ =
        { label := label
          items := .ok ((ByteStream.outcomesIn format ⟨bytes, .finished⟩).map .ofOutcome)
          notices := sniffed } ∧
      ∀ notice ∈ sniffed, notice.severity = .debug := by
  obtain ⟨sniffed, hparse, hsniffed⟩ := Session.exists_parse_outcomesIn format bytes
  refine ⟨sniffed, ?_, hsniffed⟩
  simp only [singleInput, hparse]

theorem renderItems_of_adds {plan : Plan} {given : Input} {items : List Item}
    {outcomes : List Outcome} {pass : Pass}
    (hrun : Pass.run given.label plan.filters plan.renderer
      { sink := {}, notices := given.notices } items = pass)
    (h : Pass.Adds given.label plan.filters plan.renderer
      { sink := {}, notices := given.notices } outcomes pass) :
    let fate := Outcome.fate plan.filters plan.renderer
    renderItems plan given items =
      { exitCode := if outcomes.any fun outcome => (fate outcome).isUnwritable then 1 else 0
        output := outcomes.flatMap fun outcome => (fate outcome).text
        diagnostics := noticeLines plan.level (given.notices ++
          outcomes.flatMap (fun outcome =>
            (fate outcome).notices given.label plan.renderer outcome.line) ++
          [.finished pass.report.matched pass.report.rendered pass.report.failures]) } := by
  intro fate
  have hfailed : pass.report.failed = outcomes.any fun outcome => (fate outcome).isUnwritable := by
    rw [Report.failed, h.failures, Nat.zero_add, Bool.eq_iff_iff, bne_iff_ne,
      ← Nat.pos_iff_ne_zero, List.countP_pos_iff, List.any_eq_true]
  rw [renderItems, hrun, h.fault]
  simp only [hfailed, h.text, h.notices]
  rfl

theorem runPlan_single {plan : Plan} (hstats : plan.stats = none) (label : String)
    {bytes : List UInt8}
    (hanswers : ∀ record ∈ ByteStream.recordsIn plan.input ⟨bytes, .finished⟩,
      ∃ answer, Filter.allHold plan.filters record = .ok answer) :
    let fates := ByteStream.fates plan.input plan.filters plan.renderer ⟨bytes, .finished⟩
    let finish := runPlan plan (singleInput plan.input label ⟨bytes, .finished⟩)
    finish.exitCode = (if fates.any fun (_, fate) => fate.isUnwritable then 1 else 0) ∧
      finish.output = fates.flatMap (fun (_, fate) => fate.text) ∧
      (plan.level ≠ .debug → finish.diagnostics = noticeLines plan.level
        (fates.flatMap fun (line, fate) => fate.notices label plan.renderer line)) ∧
      finish.crash = none := by
  intro fates finish
  let outcomes := ByteStream.outcomesIn plan.input ⟨bytes, .finished⟩
  obtain ⟨sniffed, hinput, hsniffed⟩ := exists_singleInput plan.input label bytes
  let given : Input := ⟨label, .ok (outcomes.map .ofOutcome), sniffed⟩
  have hfinish : finish = renderItems plan given (outcomes.map .ofOutcome) := by
    simp only [finish, hinput, runPlan, hstats]
    rfl
  have hpass : Pass.Adds label plan.filters plan.renderer { sink := {}, notices := sniffed } outcomes
      (Pass.run label plan.filters plan.renderer { sink := {}, notices := sniffed }
        (outcomes.map .ofOutcome)) :=
    Pass.adds_run rfl rfl fun outcome houtcome record hrecord =>
      hanswers record (List.mem_filterMap.mpr ⟨outcome, houtcome, hrecord⟩)
  rw [hfinish, renderItems_of_adds rfl hpass]
  simp only [fates, ByteStream.fates, List.any_map, List.flatMap_map]
  refine ⟨rfl, rfl, fun hlevel => ?_, trivial⟩
  -- What is noted first and last matters too little to be shown.
  rw [noticeLines_append, noticeLines_append, noticeLines_eq_nil hsniffed hlevel,
    noticeLines_finished hlevel, List.append_nil, List.nil_append]

-- The bytes of a run's one source, which is standard input where no file is named, and the label
-- that the source goes by.
inductive Source (tree : FileTree) : Option String → ByteStream → String → List UInt8 → Prop
  | standard (bytes : List UInt8) : Source tree none ⟨bytes, .finished⟩ "stdin" bytes
  | file {text : String} {bytes : List UInt8} (standard : ByteStream)
      (h : tree.read (.ofText text) = .ok bytes) :
      Source tree (some text) standard (Path.ofText text).name bytes

theorem input_of_source {tree : FileTree} {options : Options} {standard : ByteStream}
    {label : String} {bytes : List UInt8} (hmerge : options.merge = [])
    (hsource : Source tree options.file standard label bytes) (plan : Plan) :
    input tree plan options standard = .ok (singleInput plan.input label ⟨bytes, .finished⟩) := by
  generalize hfile : options.file = file at hsource
  cases hsource with
  | standard bytes =>
    simp [input, hmerge, hfile, pure, Except.pure]
  | file standard h =>
    simp [input, hmerge, hfile, openFile, h, pure, Except.pure, bind, Except.bind]

theorem runOptions_of_prepared {surroundings : Surroundings} {options : Options}
    {standard : ByteStream} {loaded : Settings} {prepared : Plan} {given : Input}
    (hsettings : settings surroundings options = .ok loaded)
    (hplan : plan loaded options = .ok prepared)
    (hinput : input surroundings.tree prepared options standard = .ok given) :
    runOptions surroundings options standard = runPlan prepared given := by
  simp only [runOptions, hsettings, hplan, hinput, bind, Except.bind, pure, Except.pure]

-- A run over one source that ends, at the level WARNING. Its lines with content are handled one
-- after the other: a malformed one and one whose record cannot be written are reported, one that the
-- filters keep is printed, and only a record that cannot be written makes the run fail. Where the
-- source stands matters to its label only.
theorem run_source {surroundings : Surroundings} {options : Options} {loaded : Settings}
    {filters : List Filter} (hsettings : settings surroundings options = .ok loaded)
    (hlevel : loaded.logLevel = "WARNING")
    (husable : options.isUsable surroundings.tree = true) (hmerge : options.merge = [])
    (hstats : options.stats = none) (hfilters : Filter.ofTexts options.filters = .ok filters) :
    ∃ renderer format,
      Renderer.ofName? (formatName options.outputFormat loaded.outputFormat)
        (options.color.getD loaded.color) (options.pretty.getD loaded.pretty)
        (fieldNamesOr options.fields loaded.fields) = .ok renderer ∧
      InputFormat.ofName? (formatName options.inputFormat loaded.inputFormat) = .ok format ∧
      ∀ (file : Option String) (arguments : List String) (standard : ByteStream) (label : String)
        (bytes : List UInt8),
        Request.ofArguments? surroundings.tree arguments =
          some (.run { options with file := file }) →
        Source surroundings.tree file standard label bytes →
        (∀ record ∈ ByteStream.recordsIn format ⟨bytes, .finished⟩,
          ∃ answer, Filter.allHold filters record = .ok answer) →
        let fates := ByteStream.fates format filters renderer ⟨bytes, .finished⟩
        run surroundings arguments standard =
          { exitCode := if fates.any fun (_, fate) => fate.isUnwritable then 1 else 0
            output := fates.flatMap fun (_, fate) => fate.text
            diagnostics := fates.flatMap fun (line, fate) =>
              fate.complaint label renderer.format line
            crash := none } := by
  obtain ⟨renderer, format, hrenderer, hformat, hplan⟩ :=
    exists_plan hsettings husable hmerge hfilters
  refine ⟨renderer, format, hrenderer, hformat, ?_⟩
  intro file arguments standard label bytes hrequest hsource hanswers fates
  have hwarning : (Severity.ofName? loaded.logLevel).getD .warning = .warning := by
    rw [hlevel]
    decide +kernel
  let plan : Plan := ⟨format, renderer, filters, none, .warning⟩
  let given : Options := { options with file := file }
  have hgiven : Command.plan loaded given = .ok plan := by
    rw [hplan, hwarning, hstats]
    rfl
  have hmergeGiven : given.merge = [] := hmerge
  have hinput := input_of_source hmergeGiven hsource plan
  -- File or standard input: from here on only the bytes and the label count.
  have hrun : run surroundings arguments standard =
      runPlan plan (singleInput plan.input label ⟨bytes, .finished⟩) := by
    rw [run, hrequest]
    exact runOptions_of_prepared hsettings hgiven hinput
  obtain ⟨hcode, houtput, hdiagnostics, hcrash⟩ :=
    runPlan_single (show plan.stats = none from rfl) label hanswers
  rw [hrun]
  refine Finish.ext hcode houtput ?_ hcrash
  have hshown : plan.level ≠ .debug := nofun
  rw [hdiagnostics hshown, noticeLines_flatMap]
  exact congrArg fates.flatMap (funext fun (line, fate) =>
    noticeLines_fate label renderer line fate)

-- Records that are printed, one that the filters drop and one that cannot be written, among lines
-- that are blank, malformed, or without the field that is asked for.
def mixedLines : List UInt8 :=
  ["\x7b\"level\":\"info\",\"n\":1\x7d", " ", "\x7b\"level\":",
    "\x7b\"level\":\"debug\",\"n\":2\x7d", "\x7b\"n\":1e20\x7d",
    "\x7b\"level\":\"warn\",\"n\":1e20\x7d", "\x7b\"level\":\"warn\",\"n\":3\x7d"].flatMap
      fun line => Utf8.encode (line.toList ++ ['\n'])

def mixedSurroundings : Surroundings :=
  ⟨.ofList [("HOME", "/home")], ⟨[(["logs", "app"], mixedLines)], [], ["srv"]⟩⟩

def mixedOptions : Options :=
  { outputFormat := some "json", filters := ["level!=debug"] }

def mixedFinish (label : String) : Finish where
  exitCode := 1
  output := "\x7b\"level\":\"info\",\"n\":1\x7d\n\x7b\"level\":\"warn\",\"n\":3\x7d\n".toList
  diagnostics := "Error parsing ".toList ++ label.toList ++ ": line 3: invalid JSON\n".toList ++
    "Error formatting log: failed to write json record: Integer exceeds 64-bit range\n".toList

theorem run_source_mixedLines :
    run mixedSurroundings ["--format", "json", "--filter", "level!=debug"]
        ⟨mixedLines, .finished⟩ = mixedFinish "stdin" ∧
      run mixedSurroundings ["--format", "json", "--filter", "level!=debug", "--file", "/logs/app"]
        ⟨[], .finished⟩ = mixedFinish "app" := by
  have hfilters : Filter.ofTexts ["level!=debug"] =
      .ok [⟨"level", .notEqual, "debug", none⟩] := rfl
  have hloaded : (settings mixedSurroundings mixedOptions).toOption.map (fun loaded =>
      (loaded.logLevel, loaded.inputFormat.toText, loaded.pretty)) =
        some ("WARNING", "auto".toList, false) := by
    decide +kernel
  cases hsettings : settings mixedSurroundings mixedOptions with
  | error stop =>
    rw [hsettings] at hloaded
    cases hloaded
  | ok loaded =>
    rw [hsettings] at hloaded
    simp only [Except.toOption, Option.map_some, Option.some.injEq, Prod.mk.injEq] at hloaded
    obtain ⟨hlevel, hinput, hpretty⟩ := hloaded
    obtain ⟨renderer, format, hrenderer, hformat, hrun⟩ :=
      run_source hsettings hlevel (by decide +kernel) rfl rfl hfilters
    obtain rfl : renderer = .json false := by
      rw [hpretty] at hrenderer
      exact (Except.ok.inj hrenderer).symm
    obtain rfl : format = .auto := by
      have hauto : InputFormat.ofName? (String.ofList "auto".toList) = .ok .auto := rfl
      rw [← hinput] at hauto
      exact Except.ok.inj (hformat.symm.trans hauto)
    have hanswers : ∀ record ∈ ByteStream.recordsIn .auto ⟨mixedLines, .finished⟩,
        ∃ answer, Filter.allHold [⟨"level", .notEqual, "debug", none⟩] record = .ok answer :=
      exists_ok_of_all (by decide +kernel)
    have hfates : ByteStream.fates .auto [⟨"level", .notEqual, "debug", none⟩] (.json false)
        ⟨mixedLines, .finished⟩ =
        [(1, .written "\x7b\"level\":\"info\",\"n\":1\x7d\n".toList), (3, .malformed .invalidJson),
          (4, .passedOver), (5, .passedOver), (6, .unwritable .integerRange),
          (7, .written "\x7b\"level\":\"warn\",\"n\":3\x7d\n".toList)] := by
      decide +kernel
    have hread : mixedSurroundings.tree.read (.ofText "/logs/app") = .ok mixedLines := rfl
    constructor
    · rw [hrun none _ _ "stdin" mixedLines (by decide +kernel) (.standard _) hanswers, hfates]
      exact Finish.ext rfl (by decide +kernel) (by decide +kernel) rfl
    · rw [hrun (some "/logs/app") _ _ "app" mixedLines (by decide +kernel) (.file _ hread) hanswers,
        hfates]
      exact Finish.ext rfl (by decide +kernel) (by decide +kernel) rfl

end Command

end LogSieve
