import LogSieve.Proofs.Settings.Steps
import LogSieve.Proofs.Text.Blank

namespace LogSieve

structure IsFieldName (name : String) : Prop where
  ne_empty : name ≠ ""
  noComma : ',' ∉ name.toList
  trimmed : trimString name = name

def IsSpacing (text : String) : Prop :=
  ∀ c ∈ text.toList, isBlank c = true

-- Texts and the names that they enumerate: spacing none, a name between spacing that one, and two
-- texts with a comma between them the names of the first and then those of the second.
inductive Enumerates : String → List String → Prop
  | spacing {text : String} (htext : IsSpacing text) : Enumerates text []
  | name {before name after : String} (hbefore : IsSpacing before) (hname : IsFieldName name)
      (hafter : IsSpacing after) : Enumerates (before ++ name ++ after) [name]
  | comma {text more : String} {names others : List String} (htext : Enumerates text names)
      (hmore : Enumerates more others) : Enumerates (text ++ "," ++ more) (names ++ others)

def StandIn : List String → String → Prop
  | [], _ => True
  | name :: rest, text => ∃ before behind, text = before ++ name ++ behind ∧ StandIn rest behind

theorem fieldNames_append_comma (text more : String) :
    fieldNames (text ++ "," ++ more) = fieldNames text ++ fieldNames more := by
  have hsplit : (text ++ "," ++ more).toList.splitOn ',' =
      text.toList.splitOn ',' ++ more.toList.splitOn ',' := by
    rw [String.toList_append, String.toList_append, List.append_assoc]
    exact List.splitOn_append_cons_self text.toList more.toList
  simp only [fieldNames, splitAtEach_eq_splitOn, hsplit, List.map_append, List.filter_append]

theorem trimString_eq_empty_iff {text : String} : trimString text = "" ↔ IsSpacing text := by
  rw [trimString, String.ofList_eq_empty_iff, trim, stripBoth_eq_nil_iff]
  rfl

theorem trimString_surround {before after : String} (text : String) (hbefore : IsSpacing before)
    (hafter : IsSpacing after) : trimString (before ++ text ++ after) = trimString text := by
  rw [trimString, String.toList_append, String.toList_append, trim,
    stripBoth_surround text.toList hbefore hafter]
  rfl

theorem exists_trimString (text : String) :
    ∃ before after, before ++ trimString text ++ after = text ∧ IsSpacing before ∧
      IsSpacing after := by
  obtain ⟨before, after, htext, hbefore, hafter⟩ := exists_trim text.toList
  refine ⟨String.ofList before, String.ofList after, ?_, by simpa [IsSpacing] using hbefore,
    by simpa [IsSpacing] using hafter⟩
  rw [trimString, ← String.ofList_append, ← String.ofList_append, htext, String.ofList_toList]

theorem fieldNames_of_not_mem {text : String} (h : ',' ∉ text.toList) :
    fieldNames text = if trimString text = "" then [] else [trimString text] := by
  rw [fieldNames, splitAtEach_eq_splitOn, List.splitOn_eq_singleton h]
  by_cases htrim : trim text.toList = []
  · simp [trimString, htrim]
  · simp [trimString, htrim]

theorem IsSpacing.comma_not_mem {text : String} (h : IsSpacing text) : ',' ∉ text.toList :=
  not_mem_of_forall (by decide) h

theorem fieldNames_of_enumerates {text : String} {names : List String}
    (h : Enumerates text names) : fieldNames text = names := by
  induction h with
  | spacing htext =>
    rw [fieldNames_of_not_mem htext.comma_not_mem, if_pos (trimString_eq_empty_iff.mpr htext)]
  | name hbefore hname hafter =>
    rename_i before name after
    have hcomma : ',' ∉ (before ++ name ++ after).toList := by
      simp only [String.toList_append, List.mem_append, not_or]
      exact ⟨⟨hbefore.comma_not_mem, hname.noComma⟩, hafter.comma_not_mem⟩
    rw [fieldNames_of_not_mem hcomma, trimString_surround name hbefore hafter, hname.trimmed,
      if_neg hname.ne_empty]
  | comma _ _ htext hmore => rw [fieldNames_append_comma, htext, hmore]

theorem enumerates_of_not_mem {text : String} (h : ',' ∉ text.toList) :
    Enumerates text (fieldNames text) := by
  rw [fieldNames_of_not_mem h]
  by_cases hempty : trimString text = ""
  · rw [if_pos hempty]
    exact .spacing (trimString_eq_empty_iff.mp hempty)
  · rw [if_neg hempty]
    obtain ⟨before, after, htext, hbefore, hafter⟩ := exists_trimString text
    have hname : IsFieldName (trimString text) := by
      refine ⟨hempty, fun hmem => h ?_, ?_⟩
      · rw [← htext, String.toList_append, String.toList_append]
        exact List.mem_append_left _ (List.mem_append_right _ hmem)
      · rw [trimString, trimString, String.toList_ofList, trim_trim]
    have hwhole := Enumerates.name hbefore hname hafter
    rwa [htext] at hwhole

theorem exists_append_comma {text : String} (h : ',' ∈ text.toList) :
    ∃ front back, text = front ++ "," ++ back ∧ front.length < text.length ∧
      back.length < text.length := by
  obtain ⟨front, back, hchars⟩ := List.append_of_mem h
  have htext : text = String.ofList front ++ "," ++ String.ofList back := by
    rw [← String.ofList_toList (s := text), hchars, List.append_cons, String.ofList_append,
      String.ofList_append]
  have hlength : text.length = front.length + 1 + back.length := by
    simp only [htext, String.length_append, String.length_ofList]
    rfl
  refine ⟨String.ofList front, String.ofList back, htext, ?_, ?_⟩
  · rw [String.length_ofList]
    omega
  · rw [String.length_ofList]
    omega

-- By induction on the length of a text, which a comma cuts into two that are shorter.
theorem enumerates_fieldNames (text : String) : Enumerates text (fieldNames text) := by
  induction hlength : text.length using Nat.strong_induction_on generalizing text with
  | h length ih =>
    subst hlength
    by_cases hcomma : ',' ∈ text.toList
    · obtain ⟨front, back, htext, hfront, hback⟩ := exists_append_comma hcomma
      have hnames : fieldNames text = fieldNames front ++ fieldNames back := by
        rw [htext, fieldNames_append_comma]
      have hwhole := (ih _ hfront front rfl).comma (ih _ hback back rfl)
      rwa [← htext, ← hnames] at hwhole
    · exact enumerates_of_not_mem hcomma

theorem fieldNames_eq_iff {text : String} {names : List String} :
    fieldNames text = names ↔ Enumerates text names := by
  constructor
  · rintro rfl
    exact enumerates_fieldNames text
  · exact fieldNames_of_enumerates

theorem Enumerates.isFieldName {text : String} {names : List String} (h : Enumerates text names) :
    ∀ name ∈ names, IsFieldName name := by
  induction h with
  | spacing => simp
  | name _ hname _ => simpa using hname
  | comma _ _ htext hmore => exact List.forall_mem_append.mpr ⟨htext, hmore⟩

theorem StandIn.prepend {names : List String} {text : String} (h : StandIn names text)
    (front : String) : StandIn names (front ++ text) := by
  cases names with
  | nil => trivial
  | cons name rest =>
    obtain ⟨before, behind, rfl, hrest⟩ := h
    exact ⟨front ++ before, behind, by simp only [String.append_assoc], hrest⟩

theorem StandIn.append {names others : List String} {text more : String} (h : StandIn names text)
    (hmore : StandIn others more) : StandIn (names ++ others) (text ++ more) := by
  induction names generalizing text with
  | nil => exact hmore.prepend text
  | cons name rest ih =>
    obtain ⟨before, behind, rfl, hrest⟩ := h
    exact ⟨before, behind ++ more, by simp only [String.append_assoc], ih hrest⟩

theorem Enumerates.standIn {text : String} {names : List String} (h : Enumerates text names) :
    StandIn names text := by
  induction h with
  | spacing => trivial
  | name => exact ⟨_, _, rfl, trivial⟩
  | comma _ _ htext hmore =>
    rw [String.append_assoc]
    exact htext.append (hmore.prepend ",")

theorem enumerates_intercalate {names : List String} (h : ∀ name ∈ names, IsFieldName name) :
    Enumerates (",".intercalate names) names := by
  have hempty : IsSpacing "" := by simp [IsSpacing]
  induction names with
  | nil => exact .spacing hempty
  | cons name rest ih =>
    obtain ⟨hname, hrest⟩ := List.forall_mem_cons.mp h
    have hfirst := Enumerates.name hempty hname hempty
    rw [String.empty_append, String.append_empty] at hfirst
    cases rest with
    | nil => rwa [String.intercalate_singleton]
    | cons next rest =>
      rw [String.intercalate_cons_cons]
      exact hfirst.comma (ih hrest)

namespace Settings

open Yaml (Datum)

theorem fields_of_assign {settings changed : Settings} {place : String} {value : Datum}
    {setting : Setting} (h : assign settings place value setting = .ok changed)
    (hsetting : setting ≠ .fields) : changed.fields = settings.fields := by
  cases setting with
  | fields => exact absurd rfl hsetting
  | inputFormat | outputFormat | color | pretty | logLevel =>
    obtain ⟨found, -, hchanged⟩ := exists_of_bind h
    cases hchanged
    rfl

-- Only what stands under its own key changes the list.
theorem fields_of_assignEntry {part : Section} {settings changed : Settings} {key value : Datum}
    (h : assignEntry part settings key value = .ok changed) (hkey : key ≠ .text "fields") :
    changed.fields = settings.fields := by
  unfold assignEntry at h
  split at h
  · cases h
  · split at h
    · cases h
      rfl
    · rename_i name _
      split at h
      · rename_i setting hsetting
        apply fields_of_assign h
        rintro rfl
        obtain ⟨-, rfl⟩ := Section.of_setting? hsetting
        exact hkey rfl
      · obtain ⟨_, -, rfl⟩ := exists_of_map h
        rfl
    · cases h

theorem fields_assignSection {part : Section} {entries : List (Datum × Datum)}
    (h : ∀ entry ∈ entries, entry.1 ≠ .text "fields") (settings : Settings) :
    (assignSection part entries settings).settings.fields = settings.fields := by
  induction entries generalizing settings with
  | nil => rfl
  | cons entry rest ih =>
    obtain ⟨hkey, hrest⟩ := List.forall_mem_cons.mp h
    obtain ⟨key, value⟩ := entry
    rw [assignSection]
    cases hentry : assignEntry part settings key value with
    | error fault => rfl
    | ok changed => exact (ih hrest changed).trans (fields_of_assignEntry hentry hkey)

theorem assignEntry_fields (settings : Settings) (text : String) :
    assignEntry .output settings (.text "fields") (.text text) =
      .ok { settings with fields := fieldNames text } := rfl

theorem fields_assignSection_text {before after : List (Datum × Datum)} {settings : Settings}
    (hbefore : (assignSection .output before settings).fault = none)
    (hafter : ∀ entry ∈ after, entry.1 ≠ .text "fields") (text : String) :
    (assignSection .output (before ++ (.text "fields", .text text) :: after)
      settings).settings.fields = fieldNames text := by
  rw [assignSection_append, hbefore]
  simp only [assignSection, assignEntry_fields]
  rw [fields_assignSection hafter]

-- A text gives the same names on a command line and in a configuration. There they are stored as
-- soon as their entry is reached; nothing else changes then, and they stay whatever becomes of the
-- entries behind. They are the one list that the text enumerates: proper names, which stand in the
-- text in their order. Joined with commas they give themselves again, and two texts with a comma
-- between them give the names of the first and then those of the second.
theorem fieldNames_normalForm (text : String) :
    (∀ others, fieldNamesOr (some text) others = fieldNames text) ∧
      (∀ settings : Settings, assignSection .output [(.text "fields", .text text)] settings =
        { settings := { settings with fields := fieldNames text } }) ∧
      (∀ (settings : Settings) (before after : List (Datum × Datum)),
        (assignSection .output before settings).fault = none →
        (∀ entry ∈ after, entry.1 ≠ .text "fields") →
          (assignSection .output (before ++ (.text "fields", .text text) :: after)
            settings).settings.fields = fieldNames text) ∧
      (∀ names, fieldNames text = names ↔ Enumerates text names) ∧
      (∀ name ∈ fieldNames text, IsFieldName name) ∧
      StandIn (fieldNames text) text ∧
      fieldNames (",".intercalate (fieldNames text)) = fieldNames text ∧
      ∀ more, fieldNames (text ++ "," ++ more) = fieldNames text ++ fieldNames more := by
  have hnames := enumerates_fieldNames text
  have hjoined := enumerates_intercalate hnames.isFieldName
  exact ⟨fun _ => rfl, fun _ => rfl,
    fun settings before after hbefore hafter => fields_assignSection_text hbefore hafter text,
    fun _ => fieldNames_eq_iff, hnames.isFieldName, hnames.standIn,
    fieldNames_of_enumerates hjoined, fieldNames_append_comma text⟩

-- Empty items, white space of several kinds, and a name with a space in it. The entry behind the
-- list is refused.
theorem fieldNames_normalForm_looseText :
    let text := " level,, \tmsg\u00a0,a b , "
    let entries : List (Datum × Datum) :=
      [(.text "color", .truth true), (.text "fields", .text text), (.text "field", .text "x")]
    (assignSection .output [(.text "color", .truth true)] {}).fault = none ∧
      (∀ entry ∈ [((.text "field", .text "x") : Datum × Datum)], entry.1 ≠ .text "fields") ∧
      (assignSection .output entries {}).settings.fields = ["level", "msg", "a b"] ∧
      (assignSection .output entries {}).fault.isSome = true ∧
      Enumerates text ["level", "msg", "a b"] ∧
      fieldNames "level,msg,a b" = ["level", "msg", "a b"] ∧
      fieldNames (text ++ "," ++ "time") = ["level", "msg", "a b", "time"] := by
  intro text entries
  have hnames : fieldNames text = ["level", "msg", "a b"] := by decide +kernel
  have hbefore : (assignSection .output [(.text "color", .truth true)] {}).fault = none := rfl
  have hafter :
      ∀ entry ∈ [((.text "field", .text "x") : Datum × Datum)], entry.1 ≠ .text "fields" := by
    simp
  obtain ⟨-, -, hstored, henumerates, -, -, hjoined, happend⟩ := fieldNames_normalForm text
  rw [hnames] at hstored hjoined
  refine ⟨hbefore, hafter, hstored {} _ _ hbefore hafter, rfl, (henumerates _).mp hnames, hjoined,
    ?_⟩
  rw [happend, hnames]
  decide +kernel

end Settings

end LogSieve
