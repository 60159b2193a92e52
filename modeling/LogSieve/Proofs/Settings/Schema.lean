import LogSieve.Proofs.Settings.Faults

namespace LogSieve.Settings

open Yaml (Datum)

-- The types of the other settings leave nothing to check.
structure WellFormed (settings : Settings) : Prop where
  inputFormat : ∃ name ∈ inputFormats, settings.inputFormat = .text name
  outputFormat : ∃ name ∈ outputFormats, settings.outputFormat = .text name
  logLevel : settings.logLevel ∈ logLevels

theorem wellFormed_of_check {settings : Settings} (h : settings.check = .ok ()) :
    WellFormed settings := by
  obtain ⟨hinput, houtput⟩ := formats_of_check h
  refine ⟨hinput, houtput, ?_⟩
  obtain ⟨input, hmem, hname⟩ := hinput
  obtain ⟨output, hmem', hname'⟩ := houtput
  rw [check_eq, hname, hname', checkInSet_of_mem hmem, checkInSet_of_mem hmem'] at h
  obtain ⟨level, hlevel, htext⟩ := exists_text_of_checkInSet h
  cases htext
  exact hlevel

def Section.settingNames : Section → List String
  | .input => ["format"]
  | .output => ["format", "color", "pretty", "fields"]

theorem Section.setting?_isSome_iff (part : Section) (name : String) :
    (part.setting? name).isSome = true ↔ name ∈ part.settingNames := by
  unfold setting?
  cases part <;> split <;> simp_all [settingNames]

-- A configuration gives values to settings and to nothing else.
def WithinSchema (entries : List (Datum × Datum)) : Prop :=
  ∀ key value, (key, value) ∈ entries → value ≠ .null →
    key = .text "log_level" ∨
      ∃ (part : Section) (inner : List (Datum × Datum)),
        key = .text part.name ∧ value = .mapping inner ∧
          ∀ key value, (key, value) ∈ inner → value ≠ .null →
            ∃ name ∈ part.settingNames, key = .text name

-- A section is given a value under a name that it answers to beside its settings: a value that shows
-- nowhere, or a mapping in the place of all its attributes.
def GivesSilently (entries : List (Datum × Datum)) : Prop :=
  ∃ (part : Section) (inner : List (Datum × Datum)) (name : String) (value : Datum),
    (.text part.name, .mapping inner) ∈ entries ∧ (.text name, value) ∈ inner ∧ value ≠ .null ∧
      (name ∈ silentNames ∨ Step.Replaces ⟨some part, .text name, value⟩)

theorem GivesSilently.not_withinSchema {entries : List (Datum × Datum)} (h : GivesSilently entries) :
    ¬WithinSchema entries := by
  intro hwithin
  obtain ⟨part, inner, name, value, houter, hinner, hvalue, hgiven⟩ := h
  have hname : name ∈ silentNames ∨ name = "__dict__" := by
    rcases hgiven with hsilent | ⟨-, hkey, -⟩
    · exact .inl hsilent
    · exact .inr (Datum.text.inj hkey)
  rcases hwithin _ _ houter nofun with hlevel | ⟨other, found, hpart, hfound, hnames⟩
  · exact absurd (Datum.text.inj hlevel) (by cases part <;> decide)
  · obtain rfl := Section.name_injective (Datum.text.inj hpart)
    cases hfound
    obtain ⟨setting, hsetting, hkey⟩ := hnames _ _ hinner hvalue
    cases hkey
    have hother : ∀ name ∈ silentNames, name ∉ part.settingNames := by cases part <;> decide
    rcases hname with hsilent | rfl
    · exact hother name hsilent hsetting
    · exact absurd hsetting (by cases part <;> decide)

theorem Step.Fine.key {part : Section} {key value : Datum} (h : Fine ⟨some part, key, value⟩) :
    ∃ name, key = .text name ∧ (name ∈ part.settingNames ∨ name ∈ silentNames) := by
  obtain ⟨setting, hsetting, -⟩ | ⟨_, name, -, hkey, hname⟩ := fine_iff.mp h
  · obtain rfl : key = .text setting.name := (key_of_setting? hsetting).1
    refine ⟨setting.name, rfl, .inl ((part.setting?_isSome_iff _).mp ?_)⟩
    exact Option.isSome_of_mem hsetting
  · exact ⟨name, hkey, .inr hname⟩

theorem withinSchema_iff {entries : List (Datum × Datum)}
    (hfine : ∀ step ∈ steps entries, step.Fine) :
    WithinSchema entries ↔ ¬GivesSilently entries := by
  constructor
  · exact fun hwithin hsilent => hsilent.not_withinSchema hwithin
  · intro hsilent key value hentry hvalue
    by_cases hsection : ∃ (part : Section) (inner : List (Datum × Datum)),
        key = .text part.name ∧ value = .mapping inner
    · obtain ⟨part, inner, rfl, rfl⟩ := hsection
      refine .inr ⟨part, inner, rfl, rfl, fun key value hinner hvalue => ?_⟩
      obtain ⟨name, rfl, hname | hname⟩ := (hfine _ (mem_steps_of_inner hentry hinner hvalue)).key
      · exact ⟨name, hname, rfl⟩
      · exact absurd ⟨part, inner, name, value, hentry, hinner, hvalue, .inl hname⟩ hsilent
    · have hstep := mem_steps_of_outer hentry hvalue fun part inner hkey hmapping =>
        hsection ⟨part, inner, hkey, hmapping⟩
      obtain ⟨setting, hsetting, -⟩ | ⟨_, _, hpart, -⟩ := Step.fine_iff.mp (hfine _ hstep)
      · obtain ⟨hkey, -, hlevel⟩ := Step.key_of_setting? hsetting
        obtain rfl := hlevel rfl
        exact .inl hkey
      · cases hpart

theorem invalidAt_ne_unfollowed (place value : Datum) (problem : Problem) :
    invalidAt place value problem ≠ .unfollowed := by
  unfold invalidAt
  split <;> nofun

theorem assign_ne_unfollowed (place : String) (value : Datum) (setting : Setting) :
    assign {} place value setting ≠ .error .unfollowed := by
  have hinvalid (problem : Problem) : invalid place value problem ≠ .unfollowed :=
    invalidAt_ne_unfollowed _ _ _
  intro h
  cases setting with
  | inputFormat | outputFormat => cases h
  | color | pretty =>
    cases value with
    | truth b => cases h
    | _ => exact hinvalid _ (Except.error.inj h)
  | fields =>
    cases hnames : asNames place value with
    | ok names => simp [assign, hnames, bind, Except.bind, pure, Except.pure] at h
    | error fault =>
      obtain rfl : fault = .unfollowed := by simpa [assign, hnames, bind, Except.bind] using h
      unfold asNames at hnames
      split at hnames
      · cases hnames
      · split at hnames
        · split at hnames <;> cases hnames
        · exact hinvalid _ (Except.error.inj hnames)
  | logLevel =>
    simp only [assign, shown, bind, Except.bind] at h
    split at h
    · rename_i hshown
      split at hshown
      · cases hshown
      · cases hshown
        cases h
    · cases h

theorem otherKey_unfollowed {place name : String} {value : Datum}
    (h : otherKey place name value = .error .unfollowed) :
    name = "__dict__" ∧ ((∃ entries, value = .mapping entries) ∨ value = .within true) := by
  unfold otherKey at h
  split_ifs at h with hsilent hclass hweak hname
  · cases h
  · cases h
  · refine ⟨hname, ?_⟩
    split at h
    · exact .inl ⟨_, rfl⟩
    · exact .inr rfl
    · cases h
  · exact absurd (Except.error.inj h) (invalidAt_ne_unfollowed _ _ _)

theorem Step.replaces_of_fault? {step : Step} (h : step.fault? = some .unfollowed) :
    step.Replaces := by
  have hrun : step.run {} = .error .unfollowed := by
    unfold fault? at h
    split at h
    · cases h
    · rename_i hrun
      rw [hrun, Option.some.inj h]
  obtain ⟨part, key, value⟩ := step
  cases part with
  | none =>
    by_cases hkey : key = .text "log_level"
    · subst hkey
      exact absurd hrun (assign_ne_unfollowed "log_level" value .logLevel)
    · rw [run_of_top hkey] at hrun
      exact absurd (Except.error.inj hrun) (invalidAt_ne_unfollowed _ _ _)
  | some part =>
    change assignEntry part {} key value = _ at hrun
    unfold assignEntry at hrun
    split at hrun
    · cases hrun
    · split at hrun
      · cases hrun
      · rename_i name _ _
        split at hrun
        · exact absurd hrun (assign_ne_unfollowed _ _ _)
        · cases hkey : otherKey (part.name ++ "." ++ name) name value with
          | ok => simp [hkey, Except.map] at hrun
          | error fault =>
            obtain rfl : fault = .unfollowed := by simpa [hkey, Except.map] using hrun
            obtain ⟨rfl, hmapping⟩ := otherKey_unfollowed hkey
            exact ⟨nofun, rfl, hmapping⟩
      · cases hrun

theorem check_ne_unfollowed (settings : Settings) : settings.check ≠ .error .unfollowed := by
  have hinSet (allowed : List String) (place value : Datum) :
      checkInSet allowed place value ≠ .error .unfollowed := by
    intro h
    unfold checkInSet checkAmong at h
    split_ifs at h
    · split at h
      · split_ifs at h
        exact invalidAt_ne_unfollowed _ _ _ (Except.error.inj h)
      · exact invalidAt_ne_unfollowed _ _ _ (Except.error.inj h)
    · cases h
  intro h
  rw [check_eq] at h
  split at h
  · rename_i hfirst
    exact hinSet _ _ _ (hfirst.trans h)
  · split at h
    · rename_i hsecond
      exact hinSet _ _ _ (hsecond.trans h)
    · exact hinSet _ _ _ h

theorem exists_replaces_of_load {environment : Environment} {tree : FileTree} {given : Option String}
    {path : Path} {required : Bool} {entries : List (Datum × Datum)}
    (hfile : file environment given = .ok (path, required))
    (hread : readEntries tree path required = .ok entries)
    (hload : load ⟨environment, tree⟩ given = .error .unfollowed) :
    ∃ step ∈ steps entries, step.Replaces := by
  rw [load_eq hfile hread] at hload
  cases hfirst : (steps entries).findSome? Step.fault? with
  | some fault =>
    obtain ⟨step, hstep, hfault⟩ := List.exists_of_findSome?_eq_some hfirst
    rw [hfirst] at hload
    obtain rfl : fault = .unfollowed := Except.error.inj hload
    exact ⟨step, hstep, Step.replaces_of_fault? hfault⟩
  | none =>
    rw [hfirst] at hload
    cases hcheck : (merged environment entries).check with
    | ok => simp [hcheck, Except.map] at hload
    | error fault =>
      obtain rfl : fault = .unfollowed := by simpa [hcheck, Except.map] using hload
      exact absurd hcheck (check_ne_unfollowed _)

theorem admits_of_given? {entries : List (Datum × Datum)} (hfine : ∀ step ∈ steps entries, step.Fine)
    {setting : Setting} {value : Datum} (h : given? (steps entries) setting = some value) :
    setting.admits value = true := by
  obtain ⟨step, hstep, hsetting, rfl⟩ := exists_step_of_given? h
  obtain ⟨other, hother, hvalue⟩ | ⟨_, name, -, hkey, hname⟩ := Step.fine_iff.mp (hfine step hstep)
  · cases hsetting.symm.trans hother
    exact hvalue
  · cases (Step.key_of_setting? hsetting).1.symm.trans hkey
    exact absurd hname setting.name_notMem.1

theorem givesSilently_of_replaces {entries : List (Datum × Datum)} {step : Step}
    (hstep : step ∈ steps entries) (h : step.Replaces) : GivesSilently entries := by
  obtain ⟨hpart, hkey, hmapping⟩ := h
  obtain ⟨hnone, -⟩ | ⟨part, inner, hsome, houter, hinner⟩ := of_mem_steps hstep
  · exact absurd hnone hpart
  · rw [hkey] at hinner
    refine ⟨part, inner, "__dict__", step.value, houter, hinner, ?_, .inr ⟨nofun, rfl, hmapping⟩⟩
    rintro hnull
    simp [hnull] at hmapping

-- A configuration with which settings are loaded says something outside the schema exactly if it names
-- what sections answer to beside their settings. Unless that replaces the attributes of a section, the
-- settings can be used, and every value that is given for one of them is of its kind. A configuration
-- is followed to its end unless it does replace them, and then it is outside the schema.
theorem load_withinSchema_iff {environment : Environment} {tree : FileTree} {given : Option String}
    {path : Path} {required : Bool} {entries : List (Datum × Datum)}
    (hfile : file environment given = .ok (path, required))
    (hread : readEntries tree path required = .ok entries) :
    (∀ settings, load ⟨environment, tree⟩ given = .ok settings →
      (WithinSchema entries ↔ ¬GivesSilently entries) ∧
        ((∀ step ∈ steps entries, ¬step.Replaces) →
          WellFormed settings ∧
            ∀ setting value, given? (steps entries) setting = some value →
              setting.admits value = true)) ∧
      (load ⟨environment, tree⟩ given = .error .unfollowed →
        (∃ step ∈ steps entries, step.Replaces) ∧ ¬WithinSchema entries) := by
  constructor
  · intro settings hload
    have hfine (step : Step) (hstep : step ∈ steps entries) : step.Fine :=
      (Step.fault?_eq_none_iff (counts_of_mem_steps hstep)).mp
        ((eq_merged_of_load hfile hread hload).1 step hstep)
    exact ⟨withinSchema_iff hfine, fun _ =>
      ⟨wellFormed_of_check (check_of_load hload), fun _ _ => admits_of_given? hfine⟩⟩
  · intro hload
    obtain ⟨step, hstep, hreplaces⟩ := exists_replaces_of_load hfile hread hload
    exact ⟨⟨step, hstep, hreplaces⟩, (givesSilently_of_replaces hstep hreplaces).not_withinSchema⟩

-- One configuration keeps to the schema, and one replaces the attributes of a section.
theorem load_withinSchema_ofOutput :
    let tree := treeWith "output: \x7bcolor: yes, fields: null\x7d\n"
    let replacing := treeWith "output: \x7b__dict__: \x7bcolor: maybe\x7d\x7d\n"
    ∃ entries others settings,
      readEntries tree (.ofText "c.yaml") true = .ok entries ∧
      readEntries replacing (.ofText "c.yaml") true = .ok others ∧
      load ⟨fun _ => none, tree⟩ (some "c.yaml") = .ok settings ∧
      load ⟨fun _ => none, replacing⟩ (some "c.yaml") = .error .unfollowed ∧
      WithinSchema entries ∧ WellFormed settings ∧ ¬WithinSchema others := by
  intro tree replacing
  have hread : readEntries tree (.ofText "c.yaml") true =
      .ok [(.text "output", .mapping [(.text "color", .truth true), (.text "fields", .null)])] := by
    decide +kernel
  have hotherRead : readEntries replacing (.ofText "c.yaml") true =
      .ok [(.text "output", .mapping [(.text "__dict__",
        .mapping [(.text "color", .text "maybe")])])] := by
    decide +kernel
  have hload : load ⟨fun _ => none, tree⟩ (some "c.yaml") =
      .ok { color := true, source := some (.ofText "c.yaml") } := by
    decide +kernel
  have hotherLoad : load ⟨fun _ => none, replacing⟩ (some "c.yaml") = .error .unfollowed := by
    decide +kernel
  have hsteps : steps [(.text "output",
      .mapping [(.text "color", .truth true), (.text "fields", .null)])] =
        [⟨some .output, .text "color", .truth true⟩] := by
    decide +kernel
  obtain ⟨hwithin, hkinds⟩ := (load_withinSchema_iff (by decide +kernel) hread).1 _ hload
  obtain ⟨-, hother⟩ := (load_withinSchema_iff (by decide +kernel) hotherRead).2 hotherLoad
  refine ⟨_, _, _, hread, hotherRead, hload, hotherLoad, hwithin.mpr ?_, (hkinds ?_).1, hother⟩
  · rintro ⟨part, inner, name, value, houter, hinner, hvalue, hname⟩
    simp only [List.mem_singleton, Prod.mk.injEq] at houter
    cases houter.2
    simp only [List.mem_cons, Prod.mk.injEq, List.not_mem_nil, or_false] at hinner
    obtain ⟨hkey, rfl⟩ | ⟨hkey, rfl⟩ := hinner
    · cases hkey
      rcases hname with hsilent | ⟨-, hkey, -⟩
      · exact absurd hsilent (by decide)
      · exact absurd (Datum.text.inj hkey) (by decide)
    · exact hvalue rfl
  · simp [hsteps, Step.Replaces]

-- The text that describes a section passes for a setting of it.
theorem not_withinSchema_ofDoc :
    ∃ entries settings,
      readEntries (treeWith "output: \x7b__doc__: x\x7d\n") (.ofText "c.yaml") true = .ok entries ∧
      load ⟨fun _ => none, treeWith "output: \x7b__doc__: x\x7d\n"⟩ (some "c.yaml") = .ok settings ∧
      ¬WithinSchema entries := by
  refine ⟨[(.text "output", .mapping [(.text "__doc__", .text "x")])],
    { source := some (.ofText "c.yaml") }, by decide +kernel, by decide +kernel, fun hwithin => ?_⟩
  rcases hwithin _ _ (List.mem_singleton_self _) nofun with hlevel | ⟨part, inner, -, hfound, hnames⟩
  · exact absurd (Datum.text.inj hlevel) (by decide)
  · cases hfound
    obtain ⟨name, hname, hkey⟩ := hnames _ _ (List.mem_singleton_self _) nofun
    cases hkey
    cases part <;> exact absurd hname (by decide)

end LogSieve.Settings
