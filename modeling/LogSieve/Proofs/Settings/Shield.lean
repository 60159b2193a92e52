import LogSieve.Proofs.Settings.Faults

namespace LogSieve.Settings

open Yaml (Datum)

-- Configurations that make the same assignments, but for those of one setting.
def AlikeBut (setting : Setting) (entries others : List (Datum × Datum)) : Prop :=
  (steps entries).filter (fun step => step.setting? ≠ some setting) =
    (steps others).filter fun step => step.setting? ≠ some setting

-- Settings are compared without the path that they come from.
def unplaced (settings : Settings) : Settings :=
  { settings with source := none }

-- What is seen of a fault: its kind, and its words if it is reported.
def seen (fault : Fault) : Nat × Option String :=
  (fault.ctorIdx, fault.message?)

def SameResult (one other : Except Fault Settings) : Prop :=
  (one.map unplaced).mapError seen = (other.map unplaced).mapError seen

instance (one other : Except Fault Settings) : Decidable (SameResult one other) :=
  inferInstanceAs (Decidable (_ = _))

def Setting.IsFormat (setting : Setting) : Prop :=
  setting = .inputFormat ∨ setting = .outputFormat

def GivesTruth (entries : List (Datum × Datum)) (setting : Setting) : Prop :=
  ∃ b, given? (steps entries) setting = some (.truth b)

theorem AlikeBut.given?_eq {setting other : Setting} {entries others : List (Datum × Datum)}
    (h : AlikeBut setting entries others) (hother : other ≠ setting) :
    given? (steps entries) other = given? (steps others) other := by
  have hfilter (all : List Step) :
      all.find? (fun step => step.setting? = some other) =
        (all.filter fun step => step.setting? ≠ some setting).find? fun step =>
          step.setting? = some other := by
    rw [List.find?_filter]
    congr 1
    funext step
    by_cases hstep : step.setting? = some other <;> simp [hstep, hother]
  rw [given?, given?, hfilter, hfilter (steps others)]
  exact congrArg _ (congrArg _ h)

theorem named_of_mem {environment : Environment} {name text : String} {setting : Setting}
    (hvariable : (name, setting) ∈ byVariable) (htext : environment name = some text) :
    named environment setting = some text := by
  simp only [byVariable, List.mem_cons, Prod.mk.injEq, List.not_mem_nil, or_false] at hvariable
  rcases hvariable with ⟨rfl, rfl⟩ | ⟨rfl, rfl⟩ | ⟨rfl, rfl⟩ | ⟨rfl, rfl⟩ | ⟨rfl, rfl⟩ <;> exact htext

theorem textInPlaceOf_of_truth {given : Option Datum} (h : ∃ b, given = some (.truth b))
    (default : Datum) (text : String) :
    textInPlaceOf (given.getD default) text = .truth (isOn text) := by
  obtain ⟨b, rfl⟩ := h
  rfl

theorem textInPlaceOf_of_not_truth {given : Option Datum} (h : ¬∃ b, given = some (.truth b))
    (default text : String) : textInPlaceOf (given.getD (.text default)) text = .text text := by
  unfold textInPlaceOf
  split
  · rename_i b hb
    cases given with
    | none => cases hb
    | some value => exact absurd ⟨b, congrArg some hb⟩ h
  · rfl

theorem textInPlaceOf_congr {given other : Option Datum}
    (h : (∃ b, given = some (.truth b)) ↔ ∃ b, other = some (.truth b)) (default text : String) :
    textInPlaceOf (given.getD (.text default)) text =
      textInPlaceOf (other.getD (.text default)) text := by
  by_cases htruth : ∃ b, given = some (.truth b)
  · rw [textInPlaceOf_of_truth htruth, textInPlaceOf_of_truth (h.mp htruth)]
  · rw [textInPlaceOf_of_not_truth htruth, textInPlaceOf_of_not_truth (htruth ∘ h.mpr)]

theorem merged_eq {environment : Environment} {entries others : List (Datum × Datum)}
    {setting : Setting} {text : String} (htext : named environment setting = some text)
    (halike : AlikeBut setting entries others)
    (htruth : setting.IsFormat → (GivesTruth entries setting ↔ GivesTruth others setting)) :
    merged environment entries = merged environment others := by
  have hsame (other : Setting) (hother : other ≠ setting) := halike.given?_eq hother
  simp only [merged, overrideAll_eq, configured]
  cases setting with
  | inputFormat =>
    simp only [htext, Option.elim, textInPlaceOf_congr (htruth (.inl rfl))]
    simp [hsame]
  | outputFormat =>
    simp only [htext, Option.elim, textInPlaceOf_congr (htruth (.inr rfl))]
    simp [hsame]
  | color => simp [htext, hsame]
  | pretty => simp [htext, hsame]
  | fields => simp [named, byVariable] at htext
  | logLevel => simp [htext, hsame]

def valueShown : Datum → String
  | .null => ""
  | value => " (got: " ++ String.ofList value.display ++ ")"

theorem message_of_named {name : String} (hname : name ≠ "") (value : Datum) (problem : Problem) :
    (Invalid.mk (.text name) value problem).message =
      "Validation error" ++ (" at '" ++ name ++ "'") ++ ": " ++ problem.message ++
        valueShown value := by
  have hplace : isNamed (.text name) = true := by simp [isNamed, hname]
  unfold Invalid.message
  rw [hplace, if_pos rfl, Datum.toText, String.ofList_toList]
  cases value <;> dsimp only [valueShown]

theorem message_ne_of_place {name other : String} (hname : name ≠ "") (hother : other ≠ "")
    (h : name.toList.head? ≠ other.toList.head?) (value otherValue : Datum)
    (problem otherProblem : Problem) :
    (Invalid.mk (.text name) value problem).message ≠
      (Invalid.mk (.text other) otherValue otherProblem).message := by
  intro hsame
  rw [message_of_named hname, message_of_named hother] at hsame
  have hlists := congrArg String.toList hsame
  simp only [String.toList_append, List.append_assoc, List.append_cancel_left_eq] at hlists
  have hheads := congrArg List.head? hlists
  simp only [List.head?_append] at hheads
  cases hfirst : name.toList.head? with
  | none => exact hname (by simpa using hfirst)
  | some c =>
    cases hsecond : other.toList.head? with
    | none => exact hother (by simpa using hsecond)
    | some d => simp_all

theorem message_ne_of_truth {name : String} (hname : name ≠ "") (b : Bool) (text : String)
    (problem : Problem) :
    (Invalid.mk (.text name) (.truth b) problem).message ≠
      (Invalid.mk (.text name) (.text text) problem).message := by
  intro hsame
  rw [message_of_named hname, message_of_named hname] at hsame
  have hlists := congrArg String.toList hsame
  simp only [valueShown, String.toList_append, String.toList_ofList, List.append_assoc,
    List.append_cancel_left_eq] at hlists
  have hheads := congrArg List.head? hlists
  have htruth : (Datum.truth b).display = if b then "True".toList else "False".toList := rfl
  have htext : (Datum.text text).display = Quoted.text text.toList := rfl
  rw [htruth, htext, Quoted.text] at hheads
  have hquote : Quoted.quoteFor text.toList = '"' ∨ Quoted.quoteFor text.toList = '\'' := by
    unfold Quoted.quoteFor
    split <;> simp
  rcases hquote with hquote | hquote <;> rw [hquote] at hheads <;> cases b <;> simp at hheads

def passed (settings : Settings) : Except Fault Settings :=
  settings.check.map fun _ => settings

theorem sameResult_load_iff {environment : Environment} {tree otherTree : FileTree}
    {given otherGiven : Option String} {path otherPath : Path} {required otherRequired : Bool}
    {entries others : List (Datum × Datum)}
    (hfile : file environment given = .ok (path, required))
    (hread : readEntries tree path required = .ok entries)
    (hotherFile : file environment otherGiven = .ok (otherPath, otherRequired))
    (hotherRead : readEntries otherTree otherPath otherRequired = .ok others)
    (haccepted : (configure entries {}).fault = none)
    (hotherAccepted : (configure others {}).fault = none) :
    SameResult (load ⟨environment, tree⟩ given) (load ⟨environment, otherTree⟩ otherGiven) ↔
      SameResult (passed (merged environment entries)) (passed (merged environment others)) := by
  have hload {tree : FileTree} {given : Option String} {path : Path} {required : Bool}
      {entries : List (Datum × Datum)} (hfile : file environment given = .ok (path, required))
      (hread : readEntries tree path required = .ok entries)
      (haccepted : (configure entries {}).fault = none) :
      (load ⟨environment, tree⟩ given).map unplaced =
        (passed (merged environment entries)).map unplaced := by
    rw [load_eq hfile hread, ← (configure_of_readEntries hread).1, haccepted, passed]
    cases (merged environment entries).check <;> rfl
  rw [SameResult, hload hfile hread haccepted, hload hotherFile hotherRead hotherAccepted, SameResult]

theorem not_sameResult {settings other : Settings} {found : Invalid}
    (h : settings.check = .error (.invalid found))
    (hwords : ∀ refused ∈ refusals other, found.message ≠ refused.message) :
    ¬SameResult (passed settings) (passed other) := by
  intro hsame
  rw [SameResult, passed, passed, h] at hsame
  cases hother : other.check with
  | ok =>
    rw [hother] at hsame
    cases hsame
  | error fault =>
    rw [hother] at hsame
    have hseen : seen (.invalid found) = seen fault := Except.error.inj hsame
    cases fault with
    | invalid refused =>
      have hmessage := Option.some.inj (congrArg Prod.snd hseen)
      exact hwords refused (mem_refusals_of_check hother) hmessage
    | _ => cases congrArg Prod.fst hseen

theorem not_sameResult_of_input {settings other : Settings} {b : Bool} {text : String}
    (htruth : settings.inputFormat = .truth b) (htext : other.inputFormat = .text text) :
    ¬SameResult (passed settings) (passed other) := by
  have hcheck : settings.check =
      .error (.invalid ⟨.text "input.format", .truth b, .notAmong inputFormats⟩) := by
    rw [check_eq, htruth]
    rfl
  refine not_sameResult hcheck ?_
  simp only [refusals, htext, List.forall_mem_cons]
  exact ⟨message_ne_of_truth (by decide) _ _ _, message_ne_of_place (by decide) (by decide) (by decide) _ _ _ _,
    message_ne_of_place (by decide) (by decide) (by decide) _ _ _ _, by simp⟩

theorem not_sameResult_of_output {settings other : Settings} {name : String}
    (hname : name ∈ inputFormats) (hinput : settings.inputFormat = .text name) {b : Bool}
    {text : String} (htruth : settings.outputFormat = .truth b)
    (htext : other.outputFormat = .text text) : ¬SameResult (passed settings) (passed other) := by
  have hcheck : settings.check =
      .error (.invalid ⟨.text "output.format", .truth b, .notAmong outputFormats⟩) := by
    rw [check_eq, hinput, checkInSet_of_mem hname, htruth]
    rfl
  refine not_sameResult hcheck ?_
  simp only [refusals, htext, List.forall_mem_cons]
  exact ⟨message_ne_of_place (by decide) (by decide) (by decide) _ _ _ _, message_ne_of_truth (by decide) _ _ _,
    message_ne_of_place (by decide) (by decide) (by decide) _ _ _ _, by simp⟩

theorem inputFormat_merged_eq {environment : Environment} {entries others : List (Datum × Datum)}
    (h : AlikeBut .outputFormat entries others) :
    (merged environment entries).inputFormat = (merged environment others).inputFormat := by
  rw [inputFormat_merged, inputFormat_merged, h.given?_eq (by decide)]

-- An input format that is refused is so whatever the other settings are.
theorem sameResult_of_input_refused {settings other : Settings}
    (hsame : settings.inputFormat = other.inputFormat)
    (hrefused : ∀ name ∈ inputFormats, settings.inputFormat ≠ .text name) :
    SameResult (passed settings) (passed other) := by
  rw [SameResult, passed, passed, check_eq, check_eq, ← hsame]
  cases hcheck : checkInSet inputFormats (.text "input.format") settings.inputFormat with
  | error fault => rfl
  | ok =>
    obtain ⟨name, hname, htext⟩ := exists_text_of_checkInSet hcheck
    exact absurd htext (hrefused name hname)

-- A format in the place of which only one of two configurations has a truth value is what they end
-- differently for, unless the input format was refused before.
theorem not_sameResult_of_truth {environment : Environment} {entries others : List (Datum × Datum)}
    {setting : Setting} {text : String} (htext : named environment setting = some text)
    (hformat : setting.IsFormat) (hinput : setting = .outputFormat →
      ∃ name ∈ inputFormats, (merged environment entries).inputFormat = .text name)
    (htruth : GivesTruth entries setting) (hother : ¬GivesTruth others setting) :
    ¬SameResult (passed (merged environment entries)) (passed (merged environment others)) := by
  rcases hformat with rfl | rfl
  · have hone : (merged environment entries).inputFormat = .truth (isOn text) := by
      rw [inputFormat_merged, htext]
      exact textInPlaceOf_of_truth htruth _ _
    have htwo : (merged environment others).inputFormat = .text text := by
      rw [inputFormat_merged, htext]
      exact textInPlaceOf_of_not_truth hother _ _
    exact not_sameResult_of_input hone htwo
  · obtain ⟨name, hname, hinput⟩ := hinput rfl
    have hone : (merged environment entries).outputFormat = .truth (isOn text) := by
      rw [outputFormat_merged, htext]
      exact textInPlaceOf_of_truth htruth _ _
    have htwo : (merged environment others).outputFormat = .text text := by
      rw [outputFormat_merged, htext]
      exact textInPlaceOf_of_not_truth hother _ _
    exact not_sameResult_of_output hname hinput hone htwo

private def jsonWanted : Environment :=
  Environment.ofList [("LOGPIPE_OUTPUT_FORMAT", "json")]

end LogSieve.Settings
