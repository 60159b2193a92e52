import LogSieve.Proofs.Command.Plan
import LogSieve.Proofs.Settings.Steps
import LogSieve.Proofs.Text.Case

namespace LogSieve.Settings

open Yaml (Datum)

theorem keyed_of_readEntries {tree : FileTree} {path : Path} {required : Bool}
    {entries : List (Datum × Datum)} (h : readEntries tree path required = .ok entries) :
    Datum.Keyed entries ∧ ∀ key inner, (key, .mapping inner) ∈ entries → Datum.Keyed inner := by
  have hnil : Datum.Keyed [] ∧ ∀ key inner, (key, .mapping inner) ∈ ([] : List (Datum × Datum)) →
      Datum.Keyed inner := ⟨List.Pairwise.nil, by simp⟩
  unfold readEntries at h
  split at h
  · unfold entriesOf at h
    split at h
    · cases h
    · split at h
      · cases h
      · cases h
      · rename_i found htext
        cases h
        exact Datum.keyed_of_ofText htext
      · cases h
        exact hnil
  · cases h
  · cases h
  · split at h
    · cases h
    · cases h
      exact hnil

theorem configure_of_readEntries {tree : FileTree} {path : Path} {required : Bool}
    {entries : List (Datum × Datum)} (h : readEntries tree path required = .ok entries) :
    (configure entries {}).fault = (steps entries).findSome? Step.fault? ∧
      ((steps entries).findSome? Step.fault? = none →
        (configure entries {}).settings = configured (given? (steps entries))) := by
  obtain ⟨hkeyed, hinner⟩ := keyed_of_readEntries h
  rw [configure_eq]
  exact runAll_eq (fun _ => counts_of_mem_steps) (nodup_steps hkeyed hinner)

def treeWith (content : String) : FileTree where
  files := [(["work", "c.yaml"], Utf8.encode content.toList)]
  directories := []
  workplace := ["work"]

-- What switches something on: one of the words, in any case, with white space around it.
theorem isOn_iff (text : String) :
    isOn text = true ↔
      ∃ before word after, text.toList = before ++ word ++ after ∧
        (∀ c ∈ before, isBlank c = true) ∧ (∀ c ∈ after, isBlank c = true) ∧
          String.ofList (word.map Char.toLower) ∈ ["1", "true", "yes", "on"] := by
  have hplain : ∀ on ∈ ["1", "true", "yes", "on"], ∀ d ∈ on.toList,
      Case.IsPlain d ∧ isBlank d = false := by
    have hall : (["1", "true", "yes", "on"].all fun on => on.toList.all fun d =>
        decide (Case.IsPlain d ∧ isBlank d = false)) = true := by decide +kernel
    simpa only [List.all_eq_true, decide_eq_true_eq] using hall
  have hlower {word : List Char} {on : String} (hon : on ∈ ["1", "true", "yes", "on"]) :
      String.ofList (lower word) = on ↔ String.ofList (word.map Char.toLower) = on := by
    rw [← String.toList_inj, ← String.toList_inj, String.toList_ofList, String.toList_ofList]
    exact lower_eq_iff fun d hd => (hplain on hon d hd).1
  have hmem (word : List Char) : String.ofList (lower word) ∈ ["1", "true", "yes", "on"] ↔
      String.ofList (word.map Char.toLower) ∈ ["1", "true", "yes", "on"] :=
    ⟨fun h => (hlower h).mp rfl ▸ h, fun h => (hlower h).mpr rfl ▸ h⟩
  have hon : isOn text = true ↔
      String.ofList ((trim text.toList).map Char.toLower) ∈ ["1", "true", "yes", "on"] := by
    rw [isOn, List.contains_iff_mem, lowerString, trimString, String.toList_ofList]
    exact hmem _
  rw [hon]
  constructor
  · intro h
    obtain ⟨before, after, htext, hbefore, hafter⟩ := exists_trim text.toList
    exact ⟨before, _, after, htext.symm, hbefore, hafter, h⟩
  · rintro ⟨before, word, after, htext, hbefore, hafter, hword⟩
    have hstays : ∀ c ∈ word, isBlank c = false := by
      intro c hc
      have hblank := (hplain _ hword c.toLower (by simpa using ⟨c, hc, rfl⟩)).2
      by_contra h
      rw [toLower_of_isBlank (by simpa using h)] at hblank
      exact h hblank
    rw [htext, trim, stripBoth_surround word hbefore hafter, stripBoth_of_forall_not hstays]
    exact hword

def named (environment : Environment) (setting : Setting) : Option String :=
  (byVariable.find? fun entry => entry.2 = setting).bind fun entry => environment entry.1

theorem overrideAll_eq (environment : Environment) (settings : Settings) :
    overrideAll environment settings =
      { inputFormat := (named environment .inputFormat).elim settings.inputFormat
          (textInPlaceOf settings.inputFormat)
        outputFormat := (named environment .outputFormat).elim settings.outputFormat
          (textInPlaceOf settings.outputFormat)
        color := (named environment .color).elim settings.color isOn
        pretty := (named environment .pretty).elim settings.pretty isOn
        fields := settings.fields
        logLevel := (named environment .logLevel).elim settings.logLevel upperString
        source := settings.source } := by
  have hinput : named environment .inputFormat = environment "LOGPIPE_INPUT_FORMAT" := rfl
  have houtput : named environment .outputFormat = environment "LOGPIPE_OUTPUT_FORMAT" := rfl
  have hcolor : named environment .color = environment "LOGPIPE_COLOR" := rfl
  have hpretty : named environment .pretty = environment "LOGPIPE_PRETTY" := rfl
  have hlevel : named environment .logLevel = environment "LOGPIPE_LOG_LEVEL" := rfl
  rw [hinput, houtput, hcolor, hpretty, hlevel]
  simp only [overrideAll, byVariable, List.foldl_cons, List.foldl_nil]
  generalize environment "LOGPIPE_INPUT_FORMAT" = input
  generalize environment "LOGPIPE_OUTPUT_FORMAT" = output
  generalize environment "LOGPIPE_COLOR" = color
  generalize environment "LOGPIPE_PRETTY" = pretty
  generalize environment "LOGPIPE_LOG_LEVEL" = level
  cases input <;> cases output <;> cases color <;> cases pretty <;> cases level <;>
    simp only [override, withLevel, Option.elim]

theorem check_eq (settings : Settings) :
    settings.check =
      match checkInSet inputFormats (.text "input.format") settings.inputFormat with
      | .error fault => .error fault
      | .ok () =>
        match checkInSet outputFormats (.text "output.format") settings.outputFormat with
        | .error fault => .error fault
        | .ok () => checkInSet logLevels (.text "log_level") (.text settings.logLevel) := by
  unfold check
  cases checkInSet inputFormats (.text "input.format") settings.inputFormat with
  | error fault => rfl
  | ok =>
    cases checkInSet outputFormats (.text "output.format") settings.outputFormat <;> rfl

theorem checkInSet_of_mem {allowed : List String} {name : String} (h : name ∈ allowed)
    (place : Datum) : checkInSet allowed place (.text name) = .ok () := by
  simp [checkInSet, Datum.isSought, Datum.isHashable, checkAmong, h]

theorem invalid_of_checkInSet {allowed : List String} {place value : Datum} {found : Invalid}
    (h : checkInSet allowed place value = .error (.invalid found)) :
    found = ⟨place, value, .notAmong allowed⟩ := by
  have hinvalid (h : invalidAt place value (.notAmong allowed) = .invalid found) :
      found = ⟨place, value, .notAmong allowed⟩ := by
    unfold invalidAt at h
    split at h
    · exact (Fault.invalid.inj h).symm
    · cases h
  unfold checkInSet checkAmong at h
  split at h
  · split at h
    · split at h
      · cases h
      · exact hinvalid (Except.error.inj h)
    · exact hinvalid (Except.error.inj h)
  · cases h

def refusals (settings : Settings) : List Invalid :=
  [⟨.text "input.format", settings.inputFormat, .notAmong inputFormats⟩,
   ⟨.text "output.format", settings.outputFormat, .notAmong outputFormats⟩,
   ⟨.text "log_level", .text settings.logLevel, .notAmong logLevels⟩]

theorem mem_refusals_of_check {settings : Settings} {found : Invalid}
    (h : settings.check = .error (.invalid found)) : found ∈ refusals settings := by
  rw [check_eq] at h
  split at h
  · rename_i hinput
    rw [invalid_of_checkInSet (hinput.trans h)]
    simp [refusals]
  · split at h
    · rename_i houtput
      rw [invalid_of_checkInSet (houtput.trans h)]
      simp [refusals]
    · rw [invalid_of_checkInSet h]
      simp [refusals]

def merged (environment : Environment) (entries : List (Datum × Datum)) : Settings :=
  overrideAll environment (configured (given? (steps entries)))

-- A format of all layers: a variable makes its own of what it finds.
def formatOf (set : Option String) (given : Option Datum) (default : String) : Datum :=
  set.elim (given.getD (.text default)) (textInPlaceOf (given.getD (.text default)))

theorem inputFormat_merged (environment : Environment) (entries : List (Datum × Datum)) :
    (merged environment entries).inputFormat =
      formatOf (named environment .inputFormat) (given? (steps entries) .inputFormat) "auto" := by
  rw [merged, overrideAll_eq]
  rfl

theorem outputFormat_merged (environment : Environment) (entries : List (Datum × Datum)) :
    (merged environment entries).outputFormat =
      formatOf (named environment .outputFormat) (given? (steps entries) .outputFormat) "text" := by
  rw [merged, overrideAll_eq]
  rfl

theorem load_eq {environment : Environment} {tree : FileTree} {given : Option String} {path : Path}
    {required : Bool} {entries : List (Datum × Datum)}
    (hfile : file environment given = .ok (path, required))
    (hread : readEntries tree path required = .ok entries) :
    load ⟨environment, tree⟩ given =
      match (steps entries).findSome? Step.fault? with
      | some fault => .error fault
      | none =>
        (merged environment entries).check.map fun _ =>
          { merged environment entries with
            source := if entries.isEmpty then none else some path } := by
  obtain ⟨hfault, hsettings⟩ := configure_of_readEntries hread
  simp only [load, hfile, hread, hfault, bind, Except.bind]
  cases hfirst : (steps entries).findSome? Step.fault? with
  | some fault => rfl
  | none =>
    have hsource (source : Option Path) :
        overrideAll environment
            { configured (given? (steps entries)) with source := source } =
          { merged environment entries with source := source } := by
      simp only [merged, overrideAll_eq]
    simp only [hsettings hfirst, hsource]
    have hcheck (source : Option Path) :
        check { merged environment entries with source := source } =
          (merged environment entries).check := rfl
    rw [hcheck]
    cases (merged environment entries).check <;> rfl

theorem eq_merged_of_load {environment : Environment} {tree : FileTree} {given : Option String}
    {path : Path} {required : Bool} {entries : List (Datum × Datum)} {settings : Settings}
    (hfile : file environment given = .ok (path, required))
    (hread : readEntries tree path required = .ok entries)
    (hload : load ⟨environment, tree⟩ given = .ok settings) :
    (∀ step ∈ steps entries, step.fault? = none) ∧
      settings = { merged environment entries with
        source := if entries.isEmpty then none else some path } := by
  rw [load_eq hfile hread] at hload
  cases hfirst : (steps entries).findSome? Step.fault? with
  | some fault =>
    rw [hfirst] at hload
    cases hload
  | none =>
    rw [hfirst] at hload
    refine ⟨List.findSome?_eq_none_iff.mp hfirst, ?_⟩
    cases hcheck : (merged environment entries).check with
    | error fault =>
      rw [hcheck] at hload
      cases hload
    | ok =>
      rw [hcheck] at hload
      exact (Except.ok.inj hload).symm

end LogSieve.Settings
