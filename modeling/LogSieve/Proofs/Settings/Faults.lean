import LogSieve.Proofs.Settings.Layers

namespace LogSieve.Settings

open Yaml (Datum)

theorem message_invalidAt (place value : Datum) (problem : Problem) :
    (invalidAt place value problem).message? = none ↔
      (place.isShowable && value.isShowable) = false := by
  unfold invalidAt
  cases place.isShowable && value.isShowable <;> simp [Fault.message?]

theorem message_invalid (place : String) (value : Datum) (problem : Problem) :
    (invalid place value problem).message? = none ↔ value.isShowable = false := by
  rw [invalid, message_invalidAt]
  rfl

def Setting.admits : Setting → Datum → Bool
  | .inputFormat, _ | .outputFormat, _ => true
  | .color, .truth _ | .pretty, .truth _ => true
  | .color, _ | .pretty, _ => false
  | .fields, .text _ => true
  | .fields, value => (itemTexts? value).isSome && value.isShowable
  | .logLevel, value => value.isShowable

theorem asTruth_spec (place : String) (value : Datum) :
    match asTruth place value with
    | .ok b => value = .truth b
    | .error fault =>
      (∀ b, value ≠ .truth b) ∧ (fault.message? = none ↔ value.isShowable = false) := by
  cases value with
  | truth b => rfl
  | _ => exact ⟨by simp, message_invalid _ _ _⟩

theorem asNames_spec (place : String) (value : Datum) :
    match asNames place value with
    | .ok _ => Setting.fields.admits value = true
    | .error fault =>
      Setting.fields.admits value = false ∧ (fault.message? = none ↔ value.isShowable = false) := by
  cases value with
  | text names => rfl
  | list items | pairs items =>
    unfold asNames
    cases hshowable : (Datum.isShowable _) <;>
      simp [itemTexts?, hshowable, Setting.admits, Fault.message?]
  | _ => exact ⟨rfl, message_invalid _ _ _⟩

theorem shown_spec (value : Datum) :
    match shown value with
    | .ok _ => value.isShowable = true
    | .error fault => value.isShowable = false ∧ fault.message? = none := by
  unfold shown
  cases hshowable : value.isShowable <;> simp [Fault.message?]

theorem assign_spec (place : String) (value : Datum) (setting : Setting) :
    match assign {} place value setting with
    | .ok _ => setting.admits value = true
    | .error fault =>
      setting.admits value = false ∧ (fault.message? = none ↔ value.isShowable = false) := by
  cases setting with
  | inputFormat | outputFormat => rfl
  | color | pretty =>
    have hspec := asTruth_spec place value
    cases htruth : asTruth place value with
    | ok b =>
      rw [htruth] at hspec
      obtain rfl : value = .truth b := hspec
      rfl
    | error fault =>
      rw [htruth] at hspec
      obtain ⟨hvalue, hmessage⟩ := hspec
      simp only [assign, htruth, bind, Except.bind]
      refine ⟨?_, hmessage⟩
      cases value with
      | truth b => exact absurd rfl (hvalue b)
      | _ => rfl
  | fields =>
    have hspec := asNames_spec place value
    cases hnames : asNames place value <;> rw [hnames] at hspec <;>
      simpa only [assign, hnames, bind, Except.bind, pure, Except.pure] using hspec
  | logLevel =>
    have hspec := shown_spec value
    cases hshown : shown value with
    | ok text =>
      rw [hshown] at hspec
      simp only [assign, hshown, bind, Except.bind, pure, Except.pure]
      exact hspec
    | error fault =>
      rw [hshown] at hspec
      simp only [assign, hshown, bind, Except.bind]
      exact ⟨hspec.1, iff_of_true hspec.2 hspec.1⟩

def fixedNames : List String :=
  ["__class__", "__weakref__", "__dict__"]

theorem otherKey_spec (place name : String) (value : Datum) :
    match otherKey place name value with
    | .ok () => name ∈ silentNames
    | .error fault =>
      name ∉ silentNames ∧
        (fault.message? = none ↔ name ∈ fixedNames ∨ value.isShowable = false) := by
  unfold otherKey
  by_cases hsilent : name ∈ silentNames
  · simp [hsilent]
  by_cases hclass : name = "__class__"
  · subst hclass
    simp [silentNames, fixedNames, Fault.message?]
  by_cases hweak : name = "__weakref__"
  · subst hweak
    simp [silentNames, fixedNames, Fault.message?]
  by_cases hdict : name = "__dict__"
  · subst hdict
    simp only [hsilent, List.contains_eq_mem, decide_false, Bool.false_eq_true, if_false, hclass,
      hweak, if_true]
    split
    all_goals
      rename_i hsplit
      split at hsplit <;> cases hsplit <;> simp [fixedNames, Fault.message?]
  · simp [hsilent, hclass, hweak, hdict, fixedNames, message_invalid]

-- No setting has the name of anything else that sections answer to.
theorem Setting.name_notMem (setting : Setting) :
    setting.name ∉ silentNames ∧ setting.name ∉ fixedNames := by
  cases setting <;> decide

theorem Setting.name_ne_format {setting : Setting} {value : Datum}
    (h : setting.admits value = false) : setting.name ≠ "format" := by
  cases setting with
  | inputFormat | outputFormat => cases h
  | _ => decide

theorem Setting.isShowable_of_admits {setting : Setting} {value : Datum}
    (h : setting.admits value = true) (hformat : setting.name ≠ "format") :
    value.isShowable = true := by
  cases setting with
  | inputFormat | outputFormat => exact absurd rfl hformat
  | color | pretty =>
    cases value with
    | truth b => rfl
    | _ => cases h
  | fields =>
    cases value with
    | text names => rfl
    | _ =>
      simp only [Setting.admits, Bool.and_eq_true] at h
      exact h.2
  | logLevel => exact h

-- A mapping in the place of all attributes of a section. What becomes of that is not followed.
def Step.Replaces (step : Step) : Prop :=
  step.part ≠ none ∧ step.key = .text "__dict__" ∧
    ((∃ entries, step.value = .mapping entries) ∨ step.value = .within true)

-- An assignment that is carried out: a setting admits the value, or nothing shows of it. What replaces
-- the attributes of a section is neither this nor fatal.
inductive Step.Fine : Step → Prop where
  | setting {step : Step} {setting : Setting} (hsetting : step.setting? = some setting)
      (hvalue : setting.admits step.value = true) : Fine step
  | silent {part : Section} {name : String} {value : Datum} (hname : name ∈ silentNames) :
      Fine ⟨some part, .text name, value⟩

-- An assignment that ends the run. A key of a section can be anything, and a value of any length; the
-- name of an attribute cannot, and neither can a number that is written out.
inductive Step.Fatal : Step → Prop where
  | place {key value : Datum} (hshown : (key.isShowable && value.isShowable) = false) :
      Fatal ⟨none, key, value⟩
  | key {part : Section} {key value : Datum} (hkey : ∀ name, key ≠ .text name) :
      Fatal ⟨some part, key, value⟩
  | fixed {part : Section} {name : String} {value : Datum} (hname : name ∈ fixedNames)
      (hfollowed : ¬Replaces ⟨some part, .text name, value⟩) : Fatal ⟨some part, .text name, value⟩
  | value {part : Section} {name : String} {value : Datum} (hformat : name ≠ "format")
      (hsilent : name ∉ silentNames) (hvalue : value.isShowable = false) :
      Fatal ⟨some part, .text name, value⟩

namespace Step

theorem fine_iff {step : Step} :
    step.Fine ↔ (∃ setting ∈ step.setting?, setting.admits step.value = true) ∨
      ∃ part name, step.part = some part ∧ step.key = .text name ∧ name ∈ silentNames := by
  constructor
  · rintro (⟨hsetting, hvalue⟩ | ⟨hname⟩)
    · exact .inl ⟨_, hsetting, hvalue⟩
    · exact .inr ⟨_, _, rfl, rfl, hname⟩
  · rintro (⟨setting, hsetting, hvalue⟩ | ⟨part, name, hpart, hkey, hname⟩)
    · exact .setting hsetting hvalue
    · obtain ⟨_, _, value⟩ := step
      cases hpart
      cases hkey
      exact .silent hname

theorem fatal_top_iff {key value : Datum} :
    Fatal ⟨none, key, value⟩ ↔ (key.isShowable && value.isShowable) = false :=
  ⟨fun | .place hshown => hshown, .place⟩

theorem fatal_section_iff {part : Section} {name : String} {value : Datum} :
    Fatal ⟨some part, .text name, value⟩ ↔
      name ∈ fixedNames ∧ ¬Replaces ⟨some part, .text name, value⟩ ∨
        name ≠ "format" ∧ name ∉ silentNames ∧ value.isShowable = false := by
  constructor
  · rintro (_ | ⟨hkey⟩ | ⟨hname, hfollowed⟩ | ⟨hformat, hsilent, hvalue⟩)
    · exact absurd rfl (hkey name)
    · exact .inl ⟨hname, hfollowed⟩
    · exact .inr ⟨hformat, hsilent, hvalue⟩
  · rintro (⟨hname, hfollowed⟩ | ⟨hformat, hsilent, hvalue⟩)
    · exact .fixed hname hfollowed
    · exact .value hformat hsilent hvalue

def Judged (step : Step) : Prop :=
  match step.fault? with
  | none => step.Fine
  | some fault => ¬step.Fine ∧ (¬step.Replaces → (fault.message? = none ↔ step.Fatal))

theorem judged_of_setting {step : Step} {setting : Setting} (place : String)
    (hsetting : step.setting? = some setting)
    (hrun : step.run {} = assign {} place step.value setting) (hnamed : ∀ part name,
      step.part = some part → step.key = .text name → name ∉ silentNames)
    (hfatal : setting.admits step.value = false → (step.Fatal ↔ step.value.isShowable = false)) :
    step.Judged := by
  have hspec := assign_spec place step.value setting
  unfold Judged fault?
  rw [hrun]
  cases hassigned : assign {} place step.value setting with
  | ok settings =>
    rw [hassigned] at hspec
    exact .setting hsetting hspec
  | error fault =>
    rw [hassigned] at hspec
    obtain ⟨hrefused, hmessage⟩ := hspec
    refine ⟨fun hfine => ?_, fun _ => hmessage.trans (hfatal hrefused).symm⟩
    obtain ⟨other, hother, hvalue⟩ | ⟨part, name, hpart, hkey, hname⟩ := fine_iff.mp hfine
    · cases hsetting.symm.trans hother
      simp [hrefused] at hvalue
    · exact hnamed part name hpart hkey hname

theorem judged_of_top (key value : Datum) : Judged ⟨none, key, value⟩ := by
  by_cases hkey : key = .text "log_level"
  · subst hkey
    exact judged_of_setting "log_level" rfl rfl (by simp) fun _ => fatal_top_iff
  · have hsetting : setting? ⟨none, key, value⟩ = none := by
      unfold setting?
      split <;> simp_all
    simp only [Judged, fault?, run_of_top hkey, fatal_top_iff, message_invalidAt]
    simp [fine_iff, hsetting]

theorem judged_of_name (part : Section) (name : String) {value : Datum} (hvalue : value ≠ .null) :
    Judged ⟨some part, .text name, value⟩ := by
  have hentry := assignEntry_text hvalue part name {}
  cases hsetting : part.setting? name with
  | some setting =>
    rw [hsetting] at hentry
    obtain rfl := (Section.of_setting? hsetting).2
    refine judged_of_setting _ hsetting hentry ?_ fun hrefused => ?_
    · rintro _ _ ⟨⟩ ⟨⟩
      exact setting.name_notMem.1
    · simp [fatal_section_iff, setting.name_notMem, Setting.name_ne_format hrefused]
  | none =>
    rw [hsetting] at hentry
    have hspec := otherKey_spec (part.name ++ "." ++ name) name value
    have hother : setting? ⟨some part, .text name, value⟩ = none := hsetting
    simp only [Judged, fault?, run, hentry]
    cases hkey : otherKey (part.name ++ "." ++ name) name value with
    | ok =>
      rw [hkey] at hspec
      exact .silent hspec
    | error fault =>
      rw [hkey] at hspec
      obtain ⟨hsilent, hmessage⟩ := hspec
      have hformat : name ≠ "format" := by
        rintro rfl
        cases part <;> cases hsetting
      simp only [Except.map, fine_iff, hother, fatal_section_iff, hmessage]
      simp +contextual [hsilent, hformat]

theorem judged_of_other {key value : Datum} (hcounts : counts key value = true)
    (hkey : ∀ name, key ≠ .text name) (part : Section) : Judged ⟨some part, key, value⟩ := by
  obtain ⟨fault, hmessage, hentry⟩ := assignEntry_other hcounts hkey part
  simp only [Judged, fault?, run, hentry]
  refine ⟨fun hfine => ?_, fun _ => iff_of_true hmessage (.key hkey)⟩
  obtain ⟨setting, hsetting, -⟩ | ⟨-, name, -, hname, -⟩ := fine_iff.mp hfine
  · exact hkey _ (key_of_setting? hsetting).1
  · exact hkey name hname

theorem judged {step : Step} (hcounts : counts step.key step.value = true) : step.Judged := by
  obtain ⟨part, key, value⟩ := step
  cases part with
  | none => exact judged_of_top key value
  | some part =>
    by_cases hkey : ∃ name, key = .text name
    · obtain ⟨name, rfl⟩ := hkey
      exact judged_of_name part name (counts_text.mp hcounts)
    · exact judged_of_other hcounts (fun name h => hkey ⟨name, h⟩) part

theorem Fatal.not_fine {step : Step} (h : step.Fatal) : ¬step.Fine := by
  intro hfine
  obtain ⟨setting, hsetting, hvalue⟩ | ⟨part, name, hpart, hkey, hname⟩ := fine_iff.mp hfine
  · obtain ⟨hkey, -, hlevel⟩ := key_of_setting? hsetting
    cases h with
    | place hshown =>
      obtain rfl := hlevel rfl
      cases hkey
      cases hshown.symm.trans hvalue
    | key hother => exact hother _ hkey
    | fixed hfixed =>
      cases hkey
      exact setting.name_notMem.2 hfixed
    | value hformat hsilent hshown =>
      cases hkey
      cases hshown.symm.trans (Setting.isShowable_of_admits hvalue hformat)
  · cases h with
    | place => cases hpart
    | key hother => exact hother _ hkey
    | fixed hfixed =>
      cases hkey
      exact (by decide : ∀ name ∈ fixedNames, name ∉ silentNames) _ hfixed hname
    | value hformat hsilent =>
      cases hkey
      exact hsilent hname

theorem fault?_eq_none_iff {step : Step} (hcounts : counts step.key step.value = true) :
    step.fault? = none ↔ step.Fine := by
  have hspec := judged hcounts
  unfold Judged at hspec
  cases hfault : step.fault? with
  | none =>
    rw [hfault] at hspec
    exact iff_of_true rfl hspec
  | some fault =>
    rw [hfault] at hspec
    exact iff_of_false nofun hspec.1

theorem fault?_fatal_iff {step : Step} (hcounts : counts step.key step.value = true)
    (hfollowed : ¬step.Replaces) :
    (∃ fault, step.fault? = some fault ∧ fault.message? = none) ↔ step.Fatal := by
  have hspec := judged hcounts
  unfold Judged at hspec
  cases hfault : step.fault? with
  | none =>
    rw [hfault] at hspec
    exact iff_of_false (by simp) fun hfatal => hfatal.not_fine hspec
  | some fault =>
    rw [hfault] at hspec
    simpa using hspec.2 hfollowed

end Step

theorem fault_configure_eq_none_iff {tree : FileTree} {path : Path} {required : Bool}
    {entries : List (Datum × Datum)} (hread : readEntries tree path required = .ok entries) :
    (configure entries {}).fault = none ↔ ∀ step ∈ steps entries, step.Fine := by
  rw [(configure_of_readEntries hread).1, List.findSome?_eq_none_iff]
  exact forall₂_congr fun step hstep => Step.fault?_eq_none_iff (counts_of_mem_steps hstep)

theorem exists_fatal_iff {steps : List Step}
    (hcounts : ∀ step ∈ steps, counts step.key step.value = true)
    (hfollowed : ∀ step ∈ steps, ¬step.Replaces) :
    (∃ fault, steps.findSome? Step.fault? = some fault ∧ fault.message? = none) ↔
      ∃ before step after, steps = before ++ step :: after ∧ (∀ other ∈ before, other.Fine) ∧
        step.Fatal := by
  have hfine (step : Step) (hmem : step ∈ steps) :=
    Step.fault?_eq_none_iff (hcounts step hmem)
  have hfatal (step : Step) (hmem : step ∈ steps) :=
    Step.fault?_fatal_iff (hcounts step hmem) (hfollowed step hmem)
  constructor
  · rintro ⟨fault, hfirst, hmessage⟩
    obtain ⟨before, step, after, rfl, hstep, hbefore⟩ := List.findSome?_eq_some_iff.mp hfirst
    exact ⟨before, step, after, rfl,
      fun other hother => (hfine other (by simp [hother])).mp (hbefore other hother),
      (hfatal step (by simp)).mp ⟨fault, hstep, hmessage⟩⟩
  · rintro ⟨before, step, after, rfl, hbefore, hstep⟩
    obtain ⟨fault, hfault, hmessage⟩ := (hfatal step (by simp)).mpr hstep
    exact ⟨fault, List.findSome?_eq_some_iff.mpr ⟨before, step, after, rfl, hfault,
      fun other hother => (hfine other (by simp [hother])).mpr (hbefore other hother)⟩, hmessage⟩

def CanBeChecked (value : Datum) : Prop :=
  value.isSought = true ∧ value.isShowable = true

theorem canBeChecked_text (text : String) : CanBeChecked (.text text) :=
  ⟨rfl, rfl⟩

theorem checkInSet_spec (allowed : List String) (place : String) (value : Datum) :
    match checkInSet allowed (.text place) value with
    | .ok () => ∃ name ∈ allowed, value = .text name
    | .error fault => (∀ name ∈ allowed, value ≠ .text name) ∧
        (fault.message? ≠ none ↔ CanBeChecked value) := by
  cases hcheck : checkInSet allowed (.text place) value with
  | ok => exact exists_text_of_checkInSet hcheck
  | error fault =>
    constructor
    · rintro name hname rfl
      rw [checkInSet_of_mem hname] at hcheck
      cases hcheck
    · have hmessage : fault.message? = none ↔ ¬CanBeChecked value := by
        unfold checkInSet checkAmong at hcheck
        split at hcheck
        · rename_i hsought
          rw [CanBeChecked, hsought]
          split at hcheck
          · split at hcheck
            · cases hcheck
            · cases hcheck
              simp [message_invalidAt, Datum.isShowable]
          · cases hcheck
            simp [message_invalidAt, Datum.isShowable]
        · rename_i hsought
          cases hcheck
          simp [CanBeChecked, hsought, Fault.message?]
      rw [ne_eq, hmessage, not_not]

def Reported {α : Type} (result : Except Fault α) : Prop :=
  ∀ fault, result = .error fault → fault.message? ≠ none

@[simp] theorem reported_ok {α : Type} (a : α) : Reported (.ok a) :=
  nofun

@[simp] theorem reported_error {α : Type} (fault : Fault) :
    Reported (.error fault : Except Fault α) ↔ fault.message? ≠ none := by
  simp [Reported]

theorem reported_map {α β : Type} (result : Except Fault α) (f : α → β) :
    Reported (result.map f) ↔ Reported result := by
  cases result <;> simp [Except.map]

-- The output format is checked behind an input format that passes.
theorem reported_check_iff (settings : Settings) :
    Reported settings.check ↔ CanBeChecked settings.inputFormat ∧
      ((∃ name ∈ inputFormats, settings.inputFormat = .text name) →
        CanBeChecked settings.outputFormat) := by
  have hinput := checkInSet_spec inputFormats "input.format" settings.inputFormat
  have houtput := checkInSet_spec outputFormats "output.format" settings.outputFormat
  have hlevel := checkInSet_spec logLevels "log_level" (.text settings.logLevel)
  rw [check_eq]
  cases hfirst : checkInSet inputFormats (.text "input.format") settings.inputFormat with
  | error fault =>
    rw [hfirst] at hinput
    simp only [reported_error, hinput.2, iff_self_and]
    rintro - ⟨name, hname, htext⟩
    exact absurd htext (hinput.1 name hname)
  | ok =>
    rw [hfirst] at hinput
    obtain ⟨name, hname, htext⟩ := hinput
    have hchecked : CanBeChecked settings.inputFormat := htext ▸ canBeChecked_text name
    simp only [hchecked, true_and, show ∃ name ∈ inputFormats, settings.inputFormat = .text name from
      ⟨name, hname, htext⟩, true_imp_iff]
    cases hsecond : checkInSet outputFormats (.text "output.format") settings.outputFormat with
    | error fault =>
      rw [hsecond] at houtput
      simp only [reported_error, houtput.2]
    | ok =>
      rw [hsecond] at houtput
      obtain ⟨other, -, hother⟩ := houtput
      refine iff_of_true ?_ (hother ▸ canBeChecked_text other)
      -- A level is text, so its check can always be reported.
      cases hthird : checkInSet logLevels (.text "log_level") (.text settings.logLevel) with
      | error fault =>
        rw [hthird] at hlevel
        exact (reported_error fault).mpr (hlevel.2.mpr (canBeChecked_text _))
      | ok => exact reported_ok _

theorem canBeChecked_textInPlaceOf (current : Datum) (text : String) :
    CanBeChecked (textInPlaceOf current text) := by
  unfold textInPlaceOf
  split <;> exact ⟨rfl, rfl⟩

-- A format that a configuration gives, where no variable takes its place.
def FormatFits (environment : Environment) (entries : List (Datum × Datum)) (setting : Setting) :
    Prop :=
  named environment setting = none → ∀ value ∈ given? (steps entries) setting, CanBeChecked value

theorem formatFits_iff (environment : Environment) (entries : List (Datum × Datum))
    (setting : Setting) (default : String) :
    FormatFits environment entries setting ↔ CanBeChecked
      (formatOf (named environment setting) (given? (steps entries) setting) default) := by
  unfold FormatFits formatOf
  cases named environment setting with
  | some text => simp [canBeChecked_textInPlaceOf]
  | none => cases given? (steps entries) setting <;> simp [canBeChecked_text]

end LogSieve.Settings
