import LogSieve.Command.Run

namespace LogSieve

open Yaml (Datum)

theorem exists_ok_of_all {α β ε : Type} {attempt : α → Except ε β} {items : List α}
    (h : (items.all fun item => (attempt item).toOption.isSome) = true) :
    ∀ item ∈ items, ∃ result, attempt item = .ok result := by
  intro item hitem
  have hitem := List.all_eq_true.mp h item hitem
  cases hresult : attempt item with
  | error fault => simp [hresult, Except.toOption] at hitem
  | ok result => exact ⟨result, rfl⟩

namespace Settings

theorem exists_text_of_checkInSet {allowed : List String} {place value : Datum}
    (h : checkInSet allowed place value = .ok ()) : ∃ name ∈ allowed, value = .text name := by
  cases value with
  | text name =>
    by_cases hname : allowed.contains name = true
    · exact ⟨name, by simpa using hname, rfl⟩
    · simp only [checkInSet, Datum.isSought, Datum.isHashable, checkAmong, hname, if_true] at h
      cases h
  | _ => cases h

theorem formats_of_check {settings : Settings} (h : settings.check = .ok ()) :
    (∃ name ∈ inputFormats, settings.inputFormat = .text name) ∧
      ∃ name ∈ outputFormats, settings.outputFormat = .text name := by
  unfold check at h
  cases hinput : checkInSet inputFormats (.text "input.format") settings.inputFormat with
  | error fault =>
    rw [hinput] at h
    cases h
  | ok =>
    rw [hinput] at h
    cases houtput : checkInSet outputFormats (.text "output.format") settings.outputFormat with
    | error fault =>
      rw [houtput] at h
      cases h
    | ok => exact ⟨exists_text_of_checkInSet hinput, exists_text_of_checkInSet houtput⟩

theorem check_of_load {surroundings : Surroundings} {given : Option String} {settings : Settings}
    (h : load surroundings given = .ok settings) : settings.check = .ok () := by
  simp only [load, bind, Except.bind] at h
  split at h
  · cases h
  · split at h
    · cases h
    · split at h
      · cases h
      · split at h
        · cases h
        · rename_i hcheck
          cases h
          exact hcheck

end Settings

namespace Command

theorem check_of_settings {surroundings : Surroundings} {options : Options} {loaded : Settings}
    (h : settings surroundings options = .ok loaded) : loaded.check = .ok () := by
  unfold settings at h
  split at h
  · rename_i hload
    cases h
    exact Settings.check_of_load hload
  · split at h <;> cases h

theorem formatName_mem {allowed : List String} {given : Option String} {name : String}
    (hgiven : Options.isAmong allowed given = true) (hname : name ∈ allowed) :
    formatName given (.text name) ∈ allowed := by
  cases given with
  | none => simpa [formatName, Datum.toText] using hname
  | some other =>
    by_cases hempty : other = ""
    · simpa [formatName, Option.filter, hempty, Datum.toText] using hname
    · simpa [formatName, Option.filter, hempty, Options.isAmong] using hgiven

theorem exists_renderer {name : String} (h : name ∈ Settings.outputFormats) (colored pretty : Bool)
    (fields : List String) :
    ∃ renderer, Renderer.ofName? name colored pretty fields = .ok renderer := by
  simp only [Settings.outputFormats, List.mem_cons, List.not_mem_nil, or_false] at h
  rcases h with rfl | rfl | rfl <;> exact ⟨_, rfl⟩

theorem exists_inputFormat {name : String} (h : name ∈ Settings.inputFormats) :
    ∃ format, InputFormat.ofName? name = .ok format :=
  exists_ok_of_all (by decide +kernel) name h

-- Without merging, the plan does not depend on the file that is read.
theorem exists_plan {surroundings : Surroundings} {options : Options} {loaded : Settings}
    {filters : List Filter} (hsettings : settings surroundings options = .ok loaded)
    (husable : options.isUsable surroundings.tree = true) (hmerge : options.merge = [])
    (hfilters : Filter.ofTexts options.filters = .ok filters) :
    ∃ renderer format,
      Renderer.ofName? (formatName options.outputFormat loaded.outputFormat)
        (options.color.getD loaded.color) (options.pretty.getD loaded.pretty)
        (fieldNamesOr options.fields loaded.fields) = .ok renderer ∧
      InputFormat.ofName? (formatName options.inputFormat loaded.inputFormat) = .ok format ∧
      ∀ file, plan loaded { options with file := file } = .ok
        { input := format, renderer := renderer, filters := filters
          stats := options.stats.filter (· ≠ "")
          level := (Severity.ofName? loaded.logLevel).getD .warning } := by
  obtain ⟨⟨input, hinput, hloadedInput⟩, ⟨output, houtput, hloadedOutput⟩⟩ :=
    Settings.formats_of_check (check_of_settings hsettings)
  simp only [Options.isUsable, Bool.and_eq_true] at husable
  obtain ⟨⟨hgivenOutput, hgivenInput⟩, -⟩ := husable
  obtain ⟨renderer, hrenderer⟩ := exists_renderer (formatName_mem hgivenOutput houtput)
    (options.color.getD loaded.color) (options.pretty.getD loaded.pretty)
    (fieldNamesOr options.fields loaded.fields)
  obtain ⟨format, hformat⟩ := exists_inputFormat (formatName_mem hgivenInput hinput)
  rw [← hloadedOutput] at hrenderer
  rw [← hloadedInput] at hformat
  refine ⟨renderer, format, hrenderer, hformat, fun file => ?_⟩
  simp only [plan, hmerge, filtersOf, hfilters, hrenderer, hformat]
  cases file <;> rfl

-- Standard input counts for nothing where it is not what is to be read.
theorem run_eq_of_not_readsStandard {surroundings : Surroundings} {arguments : List String}
    (h : (Request.ofArguments? surroundings.tree arguments).any Request.readsStandard = false)
    (standard other : ByteStream) :
    run surroundings arguments standard = run surroundings arguments other := by
  unfold run
  cases hrequest : Request.ofArguments? surroundings.tree arguments with
  | none => rfl
  | some request =>
    cases request with
    | version => rfl
    | help => rfl
    | run options =>
      have hinput (plan : Plan) : input surroundings.tree plan options standard =
          input surroundings.tree plan options other := by
        simp only [hrequest, Option.any_some, Request.readsStandard] at h
        unfold input
        cases hmerge : options.merge with
        | cons text rest => rfl
        | nil =>
          cases hfile : options.file with
          | some text => rfl
          | none => simp [hmerge, hfile] at h
      simp only [runOptions, hinput]

end Command

end LogSieve
