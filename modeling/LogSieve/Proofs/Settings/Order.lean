import LogSieve.Proofs.Settings.Layers
import Mathlib.Data.List.Pairwise

namespace LogSieve.Settings

open Yaml (Datum)

def valueOf? (entries : List (Datum × Datum)) (key : String) : Option Datum :=
  (entries.lookup (.text key)).filter (· ≠ .null)

def fileValue? (entries : List (Datum × Datum)) (setting : Setting) : Option Datum :=
  if setting = .logLevel then valueOf? entries "log_level"
  else
    match entries.lookup (.text setting.home) with
    | some (.mapping inner) => valueOf? inner setting.name
    | _ => none

theorem lookup_eq_some_iff {entries : List (Datum × Datum)} (h : Datum.Keyed entries) (key : String)
    (value : Datum) : entries.lookup (.text key) = some value ↔ (.text key, value) ∈ entries := by
  induction entries with
  | nil => simp
  | cons entry rest ih =>
    obtain ⟨other, found⟩ := entry
    obtain ⟨hnew, hrest⟩ := List.pairwise_cons.mp h
    by_cases hkey : .text key = other
    · subst hkey
      have hgone : (.text key, value) ∉ rest := fun hmem =>
        not_keyed_of_eq rfl rfl (hnew _ (List.mem_map_of_mem hmem))
      simp [hgone, eq_comm]
    · have hother : (Datum.text key == other) = false := by simpa using hkey
      rw [List.lookup_cons, hother]
      simpa [hkey] using ih hrest

theorem valueOf?_eq_some_iff {entries : List (Datum × Datum)} (h : Datum.Keyed entries)
    (key : String) (value : Datum) :
    valueOf? entries key = some value ↔ (.text key, value) ∈ entries ∧ value ≠ .null := by
  rw [valueOf?, Option.filter_eq_some_iff, lookup_eq_some_iff h]
  simp

theorem Setting.exists_section {setting : Setting} (h : setting ≠ .logLevel) :
    ∃ part : Section, part.name = setting.home ∧ part.setting? setting.name = some setting := by
  cases setting with
  | inputFormat => exact ⟨.input, rfl, rfl⟩
  | outputFormat | color | pretty | fields => exact ⟨.output, rfl, rfl⟩
  | logLevel => exact absurd rfl h

def StandsIn (entries : List (Datum × Datum)) (setting : Setting) (value : Datum) : Prop :=
  value ≠ .null ∧
    if setting = .logLevel then (.text "log_level", value) ∈ entries
    else ∃ inner, (.text setting.home, .mapping inner) ∈ entries ∧ (.text setting.name, value) ∈ inner

theorem exists_step_iff {entries : List (Datum × Datum)} {setting : Setting} {value : Datum} :
    (∃ step ∈ steps entries, step.setting? = some setting ∧ step.value = value) ↔
      StandsIn entries setting value := by
  unfold StandsIn
  constructor
  · rintro ⟨step, hstep, hsetting, rfl⟩
    obtain ⟨hkey, hhome, hlevel⟩ := Step.key_of_setting? hsetting
    have hvalue : step.value ≠ .null := counts_text.mp (hkey ▸ counts_of_mem_steps hstep)
    refine ⟨hvalue, ?_⟩
    rcases of_mem_steps hstep with ⟨hpart, hentry⟩ | ⟨part, inner, hpart, houter, hinner⟩
    · obtain rfl := hlevel hpart
      rw [if_pos rfl]
      exact hkey ▸ hentry
    · have hname := hhome part hpart
      -- No section holds the level.
      have hother : setting ≠ .logLevel := by
        rintro rfl
        exact absurd hname (by cases part <;> decide)
      rw [if_neg hother]
      exact ⟨inner, hname ▸ houter, hkey ▸ hinner⟩
  · rintro ⟨hvalue, hstands⟩
    by_cases hlevel : setting = .logLevel
    · rw [if_pos hlevel] at hstands
      subst hlevel
      refine ⟨⟨none, .text "log_level", value⟩, mem_steps_of_outer hstands hvalue ?_, rfl, rfl⟩
      intro part _ hpart
      exact absurd (Datum.text.inj hpart) (by cases part <;> decide)
    · rw [if_neg hlevel] at hstands
      obtain ⟨inner, houter, hinner⟩ := hstands
      obtain ⟨part, hname, hsetting⟩ := Setting.exists_section hlevel
      exact ⟨_, mem_steps_of_inner (hname ▸ houter) hinner hvalue, hsetting, rfl⟩

theorem fileValue?_eq_some_iff {entries : List (Datum × Datum)} (h : Datum.Keyed entries)
    (hinner : ∀ key inner, (key, .mapping inner) ∈ entries → Datum.Keyed inner) (setting : Setting)
    (value : Datum) : fileValue? entries setting = some value ↔ StandsIn entries setting value := by
  unfold fileValue? StandsIn
  by_cases hlevel : setting = .logLevel
  · rw [if_pos hlevel, if_pos hlevel, valueOf?_eq_some_iff h, and_comm]
  · rw [if_neg hlevel, if_neg hlevel]
    constructor
    · intro hfound
      split at hfound
      · rename_i inner hlookup
        have houter := (lookup_eq_some_iff h _ _).mp hlookup
        obtain ⟨hmem, hvalue⟩ := (valueOf?_eq_some_iff (hinner _ _ houter) _ _).mp hfound
        exact ⟨hvalue, inner, houter, hmem⟩
      · cases hfound
    · rintro ⟨hvalue, inner, houter, hmem⟩
      rw [(lookup_eq_some_iff h _ _).mpr houter]
      exact (valueOf?_eq_some_iff (hinner _ _ houter) _ _).mpr ⟨hmem, hvalue⟩

theorem given?_eq_some_iff {steps : List Step} (honce : (steps.filterMap Step.setting?).Nodup)
    {setting : Setting} {value : Datum} :
    given? steps setting = some value ↔
      ∃ step ∈ steps, step.setting? = some setting ∧ step.value = value := by
  refine ⟨exists_step_of_given?, ?_⟩
  · rintro ⟨step, hstep, hsetting, rfl⟩
    have hsymm : Std.Symm fun a b : Step =>
        ∀ first, a.setting? = some first → ∀ second, b.setting? = some second → first ≠ second :=
      ⟨fun _ _ hab first hfirst second hsecond => (hab second hsecond first hfirst).symm⟩
    have hdistinct := (List.pairwise_filterMap.mp honce).forall
    cases hfind : steps.find? fun step => step.setting? = some setting with
    | none => exact absurd hsetting (by simpa using List.find?_eq_none.mp hfind step hstep)
    | some other =>
      have hother : other.setting? = some setting := by simpa using List.find?_some hfind
      have hsame : other = step := by
        by_contra hne
        exact hdistinct (List.mem_of_find?_eq_some hfind) hstep hne setting hother setting hsetting
          rfl
      rw [given?, hfind, hsame, Option.map_some]

theorem given?_steps {entries : List (Datum × Datum)} (h : Datum.Keyed entries)
    (hinner : ∀ key inner, (key, .mapping inner) ∈ entries → Datum.Keyed inner) :
    given? (steps entries) = fileValue? entries := by
  funext setting
  ext value
  rw [given?_eq_some_iff (nodup_steps h hinner), exists_step_iff, fileValue?_eq_some_iff h hinner]

-- Configurations that differ in the order of keys, at the top or in sections.
inductive Reordered : List (Datum × Datum) → List (Datum × Datum) → Prop where
  | top {entries others : List (Datum × Datum)} (h : entries.Perm others) :
      Reordered entries others
  | inside {before after inner other : List (Datum × Datum)} (part : Section)
      (h : inner.Perm other) :
      Reordered (before ++ (.text part.name, .mapping inner) :: after)
        (before ++ (.text part.name, .mapping other) :: after)
  | trans {entries others more : List (Datum × Datum)} (h : Reordered entries others)
      (hmore : Reordered others more) : Reordered entries more

theorem Reordered.length_eq {entries others : List (Datum × Datum)} (h : Reordered entries others) :
    entries.length = others.length := by
  induction h with
  | top h => exact h.length_eq
  | inside part h => simp
  | trans _ _ ih ihmore => exact ih.trans ihmore

theorem Reordered.perm_steps {entries others : List (Datum × Datum)} (h : Reordered entries others) :
    (steps entries).Perm (steps others) := by
  induction h with
  | top h => exact h.flatMap_right _
  | inside part h =>
    simp only [steps, List.flatMap_append, List.flatMap_cons, entrySteps_section]
    exact (((h.filter _).map _).append_right _).append_left _
  | trans _ _ ih ihmore => exact ih.trans ihmore

theorem given?_perm {steps others : List Step} (h : steps.Perm others)
    (honce : (steps.filterMap Step.setting?).Nodup) : given? steps = given? others := by
  funext setting
  ext value
  have hothers := (h.filterMap _).nodup_iff.mp honce
  simp only [given?_eq_some_iff honce, given?_eq_some_iff hothers, h.mem_iff]

-- The order of keys shows nowhere in settings that were loaded.
theorem load_reordered {environment : Environment} {tree otherTree : FileTree}
    {given : Option String} {path : Path} {required : Bool} {entries others : List (Datum × Datum)}
    {settings : Settings} (hfile : file environment given = .ok (path, required))
    (hread : readEntries tree path required = .ok entries)
    (hload : load ⟨environment, tree⟩ given = .ok settings)
    (hother : readEntries otherTree path required = .ok others)
    (hreordered : Reordered entries others) :
    load ⟨environment, otherTree⟩ given = .ok settings := by
  obtain ⟨hkeyed, hinner⟩ := keyed_of_readEntries hread
  have hperm := hreordered.perm_steps
  have hgiven := given?_perm hperm (nodup_steps hkeyed hinner)
  have hempty : entries.isEmpty = others.isEmpty := by
    rw [Bool.eq_iff_iff, List.isEmpty_iff_length_eq_zero, List.isEmpty_iff_length_eq_zero,
      hreordered.length_eq]
  obtain ⟨hsteps, rfl⟩ := eq_merged_of_load hfile hread hload
  have hfirst : (steps others).findSome? Step.fault? = none :=
    List.findSome?_eq_none_iff.mpr fun step hstep => hsteps step (hperm.mem_iff.mpr hstep)
  have hmerged : merged environment others = merged environment entries := by
    rw [merged, merged, hgiven]
  have hchecked := check_of_load hload
  have hcheck : (merged environment entries).check = .ok () := hchecked
  rw [load_eq hfile hother, hfirst, hmerged, hcheck, hempty]
  rfl

end LogSieve.Settings
