import LogSieve.Proofs.Yaml.Datum
import LogSieve.Settings.Load
import Mathlib.Data.List.Nodup

namespace LogSieve.Settings

open Yaml (Datum)

structure Step where
  part : Option Section
  key : Datum
  value : Datum
deriving DecidableEq

def Section.ofKey? : Datum → Option Section
  | .text "input" => some .input
  | .text "output" => some .output
  | _ => none

@[simp] theorem Section.ofKey?_eq_some_iff {key : Datum} {part : Section} :
    ofKey? key = some part ↔ key = .text part.name := by
  constructor
  · intro h
    unfold ofKey? at h
    split at h <;> cases h <;> rfl
  · rintro rfl
    cases part <;> rfl

theorem Section.name_injective : Function.Injective name := by
  intro part other h
  cases part <;> cases other <;> first | rfl | exact absurd h (by decide)

-- A null assigns nothing. It counts where its place cannot be written out.
def counts (key value : Datum) : Bool :=
  !key.isShowable || value ≠ .null

def sectionSteps (part : Section) (entries : List (Datum × Datum)) : List Step :=
  (entries.filter fun entry => counts entry.1 entry.2).map fun entry => ⟨some part, entry.1, entry.2⟩

def entrySteps (key value : Datum) : List Step :=
  match Section.ofKey? key, value with
  | _, .null => []
  | some part, .mapping entries => sectionSteps part entries
  | _, value => [⟨none, key, value⟩]

def steps (entries : List (Datum × Datum)) : List Step :=
  entries.flatMap fun entry => entrySteps entry.1 entry.2

namespace Step

def setting? (step : Step) : Option Setting :=
  match step.part, step.key with
  | some part, .text name => part.setting? name
  | none, .text "log_level" => some .logLevel
  | _, _ => none

def run (step : Step) (settings : Settings) : Except Fault Settings :=
  match step.part, step.key with
  | some part, key => assignEntry part settings key step.value
  | none, .text "log_level" => settings.assign "log_level" step.value .logLevel
  | none, key => .error (invalidAt key step.value .unknownKey)

theorem run_of_top {key : Datum} (hkey : key ≠ .text "log_level") (value : Datum)
    (settings : Settings) :
    run ⟨none, key, value⟩ settings = .error (invalidAt key value .unknownKey) := by
  unfold run
  split <;> simp_all

end Step

def runAll : List Step → Settings → Change
  | [], settings => ⟨settings, none⟩
  | step :: rest, settings =>
    match step.run settings with
    | .ok settings => runAll rest settings
    | .error fault => ⟨settings, some fault⟩

theorem runAll_append (before after : List Step) (settings : Settings) :
    runAll (before ++ after) settings =
      match (runAll before settings).fault with
      | some _ => runAll before settings
      | none => runAll after (runAll before settings).settings := by
  induction before generalizing settings with
  | nil => rfl
  | cons step before ih =>
    simp only [List.cons_append, runAll]
    cases step.run settings with
    | ok settings => exact ih settings
    | error fault => rfl

theorem assignSection_eq (part : Section) (entries : List (Datum × Datum)) (settings : Settings) :
    assignSection part entries settings = runAll (sectionSteps part entries) settings := by
  induction entries generalizing settings with
  | nil => rfl
  | cons entry rest ih =>
    obtain ⟨key, value⟩ := entry
    cases hcounts : counts key value with
    | false =>
      have hnull : sectionSteps part ((key, value) :: rest) = sectionSteps part rest := by
        simp [sectionSteps, hcounts]
      simp only [counts, Bool.or_eq_false_iff, Bool.not_eq_false', decide_eq_false_iff_not,
        not_not] at hcounts
      obtain ⟨hkey, rfl⟩ := hcounts
      have hentry : assignEntry part settings key .null = .ok settings := by
        rw [assignEntry, hkey]
        rfl
      rw [hnull, ← ih, assignSection, hentry]
    | true =>
      have hgiven : sectionSteps part ((key, value) :: rest) =
          ⟨some part, key, value⟩ :: sectionSteps part rest := by
        simp [sectionSteps, hcounts]
      rw [hgiven]
      simp only [assignSection, runAll, Step.run]
      cases assignEntry part settings key value with
      | ok settings => exact ih settings
      | error fault => rfl

theorem assignSection_append (part : Section) (before after : List (Datum × Datum))
    (settings : Settings) :
    assignSection part (before ++ after) settings =
      match (assignSection part before settings).fault with
      | some _ => assignSection part before settings
      | none => assignSection part after (assignSection part before settings).settings := by
  have hsteps : sectionSteps part (before ++ after) =
      sectionSteps part before ++ sectionSteps part after := by
    rw [sectionSteps, List.filter_append, List.map_append]
    rfl
  simp only [assignSection_eq, hsteps, runAll_append]

theorem entrySteps_null (key : Datum) : entrySteps key .null = [] := by
  unfold entrySteps
  split <;> simp_all

theorem entrySteps_section (part : Section) (entries : List (Datum × Datum)) :
    entrySteps (.text part.name) (.mapping entries) = sectionSteps part entries := by
  cases part <;> rfl

theorem entrySteps_other {key value : Datum} (hvalue : value ≠ .null)
    (h : ∀ (part : Section) entries, key = .text part.name → value ≠ .mapping entries) :
    entrySteps key value = [⟨none, key, value⟩] := by
  unfold entrySteps
  split
  · exact absurd rfl hvalue
  · rename_i part entries hkey
    exact absurd rfl (h part entries (Section.ofKey?_eq_some_iff.mp hkey))
  · rfl

theorem mem_steps_of_inner {entries inner : List (Datum × Datum)} {part : Section}
    {key value : Datum} (houter : (.text part.name, .mapping inner) ∈ entries)
    (hinner : (key, value) ∈ inner) (hvalue : value ≠ .null) :
    ⟨some part, key, value⟩ ∈ steps entries := by
  refine List.mem_flatMap.mpr ⟨_, houter, ?_⟩
  rw [entrySteps_section]
  exact List.mem_map.mpr ⟨(key, value), List.mem_filter.mpr ⟨hinner, by simp [counts, hvalue]⟩, rfl⟩

theorem mem_steps_of_outer {entries : List (Datum × Datum)} {key value : Datum}
    (h : (key, value) ∈ entries) (hvalue : value ≠ .null)
    (hother : ∀ (part : Section) inner, key = .text part.name → value ≠ .mapping inner) :
    ⟨none, key, value⟩ ∈ steps entries := by
  refine List.mem_flatMap.mpr ⟨_, h, ?_⟩
  rw [entrySteps_other hvalue hother]
  exact List.mem_singleton_self _

theorem of_mem_steps {entries : List (Datum × Datum)} {step : Step} (h : step ∈ steps entries) :
    step.part = none ∧ (step.key, step.value) ∈ entries ∨
      ∃ (part : Section) (inner : List (Datum × Datum)), step.part = some part ∧
        (.text part.name, .mapping inner) ∈ entries ∧ (step.key, step.value) ∈ inner := by
  obtain ⟨⟨key, value⟩, hentry, hstep⟩ := List.mem_flatMap.mp h
  dsimp only [entrySteps] at hstep
  split at hstep
  · cases hstep
  · rename_i part inner hpart
    rw [Section.ofKey?_eq_some_iff.mp hpart] at hentry
    simp only [sectionSteps, List.mem_map, List.mem_filter] at hstep
    obtain ⟨entry, ⟨hmem, -⟩, rfl⟩ := hstep
    exact .inr ⟨part, inner, rfl, hentry, hmem⟩
  · rw [List.mem_singleton.mp hstep]
    exact .inl ⟨rfl, hentry⟩

theorem configureEntry_eq (settings : Settings) (key value : Datum) :
    configureEntry settings key value = runAll (entrySteps key value) settings := by
  unfold configureEntry
  split
  · rw [entrySteps_null]
    rfl
  · exact assignSection_eq .input _ settings
  · exact assignSection_eq .output _ settings
  · rename_i hvalue
    have hother (part : Section) : Datum.text "log_level" ≠ .text part.name := by
      cases part <;> decide
    rw [entrySteps_other hvalue fun part _ hkey => absurd hkey (hother part)]
    simp only [runAll, Step.run, assign]
    cases shown value <;> rfl
  · rename_i hlevel hvalue hinput houtput
    rw [entrySteps_other hvalue]
    · simp only [runAll, Step.run_of_top hlevel]
    · rintro (_ | _) entries rfl hmapping
      · exact hinput entries rfl hmapping
      · exact houtput entries rfl hmapping

theorem configure_eq (entries : List (Datum × Datum)) (settings : Settings) :
    configure entries settings = runAll (steps entries) settings := by
  induction entries generalizing settings with
  | nil => rfl
  | cons entry rest ih =>
    obtain ⟨key, value⟩ := entry
    have hsteps : steps ((key, value) :: rest) = entrySteps key value ++ steps rest := rfl
    rw [hsteps, runAll_append, ← configureEntry_eq]
    cases hfault : (configureEntry settings key value).fault with
    | some fault => simp only [configure, hfault]
    | none => simp only [configure, hfault, ih]

def truthOf : Datum → Bool
  | .truth b => b
  | _ => false

def namesOf : Datum → List String
  | .text names => fieldNames names
  | value => (itemTexts? value).getD []

def textOf (value : Datum) : String :=
  String.ofList value.toText

def configured (given : Setting → Option Datum) : Settings where
  inputFormat := (given .inputFormat).getD (.text "auto")
  outputFormat := (given .outputFormat).getD (.text "text")
  color := (given .color).elim false truthOf
  pretty := (given .pretty).elim false truthOf
  fields := (given .fields).elim [] namesOf
  logLevel := (given .logLevel).elim "WARNING" fun value => upperString (textOf value)

-- One more value among those that are given.
def Step.give (step : Step) (given : Setting → Option Datum) : Setting → Option Datum :=
  match step.setting? with
  | some setting => Function.update given setting (some step.value)
  | none => given

def Step.fault? (step : Step) : Option Fault :=
  match step.run {} with
  | .ok _ => none
  | .error fault => some fault

theorem namesOf_of_asNames {place : String} {value : Datum} {names : List String}
    (h : asNames place value = .ok names) : namesOf value = names := by
  unfold asNames at h
  split at h
  · exact Except.ok.inj h
  · rename_i hvalue
    split at h
    · rename_i hitems
      split at h
      · cases h
        unfold namesOf
        split
        · exact absurd rfl (hvalue _)
        · rw [hitems]
          rfl
      · cases h
    · cases h

theorem textOf_of_shown {value : Datum} {text : String} (h : shown value = .ok text) :
    textOf value = text := by
  unfold shown at h
  split at h
  · exact Except.ok.inj h
  · cases h

theorem assign_configured {given : Setting → Option Datum} {setting : Setting}
    (hnew : given setting = none) (place : String) (value : Datum) :
    assign (configured given) place value setting =
      (assign {} place value setting).map fun _ =>
        configured (Function.update given setting (some value)) := by
  cases setting with
  | inputFormat =>
    simp [assign, configured, hnew, inPlaceOf, Except.map]
  | outputFormat =>
    simp [assign, configured, hnew, inPlaceOf, Except.map]
  | color =>
    cases value <;> simp [assign, configured, asTruth, truthOf, Except.map]
  | pretty =>
    cases value <;> simp [assign, configured, asTruth, truthOf, Except.map]
  | fields =>
    cases hnames : asNames place value with
    | error fault => simp [assign, hnames, bind, Except.bind, Except.map]
    | ok names =>
      have hgiven := namesOf_of_asNames hnames
      simp [assign, hnames, configured, hgiven, bind, Except.bind, pure, Except.pure, Except.map]
  | logLevel =>
    cases hshown : shown value with
    | error fault => simp [assign, hshown, bind, Except.bind, Except.map]
    | ok text =>
      have hgiven := textOf_of_shown hshown
      simp [assign, hshown, configured, hgiven, withLevel, bind, Except.bind, pure, Except.pure,
        Except.map]

theorem counts_text {name : String} {value : Datum} :
    counts (.text name) value = true ↔ value ≠ .null := by
  simp [counts, Datum.isShowable]

theorem assignEntry_text {value : Datum} (hvalue : value ≠ .null) (part : Section) (name : String)
    (settings : Settings) :
    assignEntry part settings (.text name) value =
      match part.setting? name with
      | some setting => settings.assign (part.name ++ "." ++ name) value setting
      | none => (otherKey (part.name ++ "." ++ name) name value).map fun _ => settings := by
  have hkey : (Datum.text name).isShowable = true := rfl
  unfold assignEntry
  rw [hkey, Bool.not_true, if_neg Bool.false_ne_true]
  cases value with
  | null => exact absurd rfl hvalue
  | _ => rfl

theorem assignEntry_other {key value : Datum} (hcounts : counts key value = true)
    (hkey : ∀ name, key ≠ .text name) (part : Section) :
    ∃ fault : Fault, fault.message? = none ∧
      ∀ settings, assignEntry part settings key value = .error fault := by
  unfold assignEntry
  cases hshowable : key.isShowable with
  | false => exact ⟨_, rfl, fun _ => rfl⟩
  | true =>
    refine ⟨.wrongType, rfl, fun settings => ?_⟩
    rw [Bool.not_true, if_neg Bool.false_ne_true]
    split
    · simp [counts, hshowable] at hcounts
    · exact absurd rfl (hkey _)
    · rfl

namespace Step

theorem run_configured_of_setting {step : Step} {setting : Setting}
    (hsetting : step.setting? = some setting) (place : String)
    (hrun : ∀ settings, step.run settings = settings.assign place step.value setting)
    {given : Setting → Option Datum} (hnew : given setting = none) :
    step.run (configured given) =
      match step.fault? with
      | some fault => .error fault
      | none => .ok (configured (step.give given)) := by
  rw [hrun, assign_configured hnew, fault?, hrun, give, hsetting]
  cases assign {} place step.value setting <;> rfl

theorem run_configured {step : Step} (hcounts : counts step.key step.value = true)
    {given : Setting → Option Datum} (hnew : ∀ setting ∈ step.setting?, given setting = none) :
    step.run (configured given) =
      match step.fault? with
      | some fault => .error fault
      | none => .ok (configured (step.give given)) := by
  obtain ⟨part, key, value⟩ := step
  -- Only the level stands at the top; all other settings stand in sections.
  cases part with
  | none =>
    by_cases hkey : key = .text "log_level"
    · subst hkey
      exact run_configured_of_setting rfl "log_level" (fun _ => rfl) (hnew .logLevel rfl)
    · simp only [fault?, run_of_top hkey]
  | some part =>
    by_cases hkey : ∃ name, key = .text name
    · obtain ⟨name, rfl⟩ := hkey
      have hvalue : value ≠ .null := counts_text.mp hcounts
      cases hsetting : part.setting? name with
      | some setting =>
        have hassigned : setting? ⟨some part, .text name, value⟩ = some setting := hsetting
        refine run_configured_of_setting hassigned (part.name ++ "." ++ name) (fun settings => ?_)
          (hnew setting hassigned)
        simp only [run, assignEntry_text hvalue, hsetting]
      | none =>
        simp only [fault?, run, assignEntry_text hvalue, hsetting, give, setting?]
        cases otherKey _ name value <;> rfl
    · have hkey (name : String) : key ≠ .text name := fun h => hkey ⟨name, h⟩
      obtain ⟨fault, -, hentry⟩ := assignEntry_other hcounts hkey part
      simp only [fault?, run, hentry]

end Step

def given? (steps : List Step) (setting : Setting) : Option Datum :=
  (steps.find? fun step => step.setting? = some setting).map Step.value

theorem exists_step_of_given? {steps : List Step} {setting : Setting} {value : Datum}
    (h : given? steps setting = some value) :
    ∃ step ∈ steps, step.setting? = some setting ∧ step.value = value := by
  obtain ⟨step, hfind, rfl⟩ := Option.map_eq_some_iff.mp h
  exact ⟨step, List.mem_of_find?_eq_some hfind, by simpa using List.find?_some hfind, rfl⟩

theorem given?_concat {before : List Step} {step : Step}
    (hnew : ∀ setting ∈ step.setting?, given? before setting = none) :
    given? (before ++ [step]) = step.give (given? before) := by
  funext setting
  have hconcat : given? (before ++ [step]) setting =
      (given? before setting).or (given? [step] setting) := by
    simp [given?, List.find?_append, Option.map_or]
  rw [hconcat, Step.give]
  cases hstep : step.setting? with
  | none => simp [given?, hstep]
  | some other =>
    by_cases hother : other = setting
    · subst hother
      rw [hnew other hstep]
      simp [given?, hstep]
    · simp [given?, hstep, hother, Function.update_of_ne (Ne.symm hother)]

-- The first assignment that is refused stops the others. If there is none, each is carried out.
theorem runAll_eq {steps : List Step}
    (hcounts : ∀ step ∈ steps, counts step.key step.value = true)
    (honce : (steps.filterMap Step.setting?).Nodup) :
    (runAll steps {}).fault = steps.findSome? Step.fault? ∧
      (steps.findSome? Step.fault? = none →
        (runAll steps {}).settings = configured (given? steps)) := by
  induction steps using List.reverseRecOn with
  | nil => exact ⟨rfl, fun _ => rfl⟩
  | append_singleton before step ih =>
    simp only [List.forall_mem_append, List.forall_mem_singleton] at hcounts
    simp only [List.filterMap_append, List.nodup_append] at honce
    obtain ⟨hfault, hsettings⟩ := ih hcounts.1 honce.1
    rw [runAll_append, List.findSome?_append, hfault]
    cases hfirst : before.findSome? Step.fault? with
    | some fault => simp [hfault, hfirst]
    | none =>
      have hnew : ∀ setting ∈ step.setting?, given? before setting = none := by
        intro setting hsetting
        simp only [given?, Option.map_eq_none_iff, List.find?_eq_none, decide_eq_true_eq]
        intro other hother hsame
        exact honce.2.2 setting (List.mem_filterMap.mpr ⟨other, hother, hsame⟩) setting
          (List.mem_filterMap.mpr ⟨step, List.mem_singleton_self step, hsetting⟩) rfl
      rw [hsettings hfirst]
      simp only [runAll, Step.run_configured hcounts.2 hnew, given?_concat hnew]
      cases hstep : step.fault? <;> simp [hstep]

def Setting.home : Setting → String
  | .inputFormat => "input"
  | .outputFormat | .color | .pretty | .fields => "output"
  | .logLevel => "log_level"

def Setting.name : Setting → String
  | .inputFormat | .outputFormat => "format"
  | .color => "color"
  | .pretty => "pretty"
  | .fields => "fields"
  | .logLevel => "log_level"

theorem Section.of_setting? {part : Section} {name : String} {setting : Setting}
    (h : part.setting? name = some setting) : part.name = setting.home ∧ name = setting.name := by
  unfold Section.setting? at h
  split at h <;> cases h <;> exact ⟨rfl, rfl⟩

theorem counts_of_mem_entrySteps {key value : Datum} {step : Step}
    (h : step ∈ entrySteps key value) : counts step.key step.value = true := by
  unfold entrySteps at h
  split at h
  · cases h
  · simp only [sectionSteps, List.mem_map, List.mem_filter] at h
    obtain ⟨entry, ⟨-, hcounts⟩, rfl⟩ := h
    exact hcounts
  · rename_i hvalue _
    rw [List.mem_singleton.mp h]
    simpa [counts] using .inr hvalue

theorem counts_of_mem_steps {entries : List (Datum × Datum)} {step : Step}
    (h : step ∈ steps entries) : counts step.key step.value = true := by
  obtain ⟨entry, -, hstep⟩ := List.mem_flatMap.mp h
  exact counts_of_mem_entrySteps hstep

theorem Step.key_of_setting? {step : Step} {setting : Setting}
    (h : step.setting? = some setting) :
    step.key = .text setting.name ∧ (∀ part ∈ step.part, part.name = setting.home) ∧
      (step.part = none → setting = .logLevel) := by
  obtain ⟨part, key, value⟩ := step
  unfold setting? at h
  split at h
  · rename_i part name hpart hkey
    obtain ⟨hhome, hname⟩ := Section.of_setting? h
    cases hpart
    cases hkey
    exact ⟨congrArg Datum.text hname, by rintro _ ⟨⟩; exact hhome, by rintro ⟨⟩⟩
  · rename_i hpart hkey
    cases hpart
    cases hkey
    cases h
    exact ⟨rfl, by rintro _ ⟨⟩, fun _ => rfl⟩
  · cases h

theorem key_of_mem_entrySteps {key value : Datum} {step : Step} {setting : Setting}
    (h : step ∈ entrySteps key value) (hsetting : step.setting? = some setting) :
    key = .text setting.home := by
  obtain ⟨hkey, hpart, hlevel⟩ := Step.key_of_setting? hsetting
  unfold entrySteps at h
  split at h
  · cases h
  · rename_i part entries hsection
    simp only [sectionSteps, List.mem_map] at h
    obtain ⟨entry, -, rfl⟩ := h
    rw [Section.ofKey?_eq_some_iff.mp hsection, hpart part rfl]
  · rw [List.mem_singleton.mp h] at hkey hlevel
    obtain rfl := hlevel rfl
    exact hkey

theorem not_keyed_of_eq {s t : Datum} {name : String} (hs : s = .text name) (ht : t = .text name) :
    s.sameKey t ≠ false := by
  subst hs ht
  simp [Datum.sameKey]

theorem nodup_sectionSteps (part : Section) {entries : List (Datum × Datum)}
    (h : Datum.Keyed entries) : ((sectionSteps part entries).filterMap Step.setting?).Nodup := by
  rw [List.Nodup, List.pairwise_filterMap, sectionSteps, List.pairwise_map]
  refine ((List.pairwise_map.mp h).filter _).imp fun {a b} hkeys setting ha other hb hsame => ?_
  subst hsame
  exact not_keyed_of_eq (Step.key_of_setting? ha).1 (Step.key_of_setting? hb).1 hkeys

-- No mapping has a key twice, so neither has a configuration a setting.
theorem nodup_steps {entries : List (Datum × Datum)} (h : Datum.Keyed entries)
    (hinner : ∀ key inner, (key, .mapping inner) ∈ entries → Datum.Keyed inner) :
    ((steps entries).filterMap Step.setting?).Nodup := by
  rw [steps, List.filterMap_flatMap, List.nodup_flatMap]
  constructor
  · rintro ⟨key, value⟩ hentry
    dsimp only [entrySteps]
    split
    · exact List.nodup_nil
    · exact nodup_sectionSteps _ (hinner _ _ hentry)
    · rw [List.filterMap_cons, List.filterMap_nil]
      split <;> simp
  · refine (List.pairwise_map.mp h).imp fun {a b} hkeys => ?_
    intro setting ha hb
    obtain ⟨first, hfirst, hset⟩ := List.mem_filterMap.mp ha
    obtain ⟨second, hsecond, hset'⟩ := List.mem_filterMap.mp hb
    exact not_keyed_of_eq (key_of_mem_entrySteps hfirst hset) (key_of_mem_entrySteps hsecond hset')
      hkeys

end LogSieve.Settings
