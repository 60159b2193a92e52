import LogSieve.Proofs.Settings.Order

namespace LogSieve

open Yaml (Datum)

namespace Command

open Settings (Setting named fileValue? textOf truthOf namesOf formatOf textInPlaceOf Reordered)

structure Used where
  outputFormat : String
  inputFormat : String
  fields : List String
  color : Bool
  pretty : Bool
  logLevel : String
deriving DecidableEq

def used (settings : Settings) (options : Options) : Used where
  outputFormat := formatName options.outputFormat settings.outputFormat
  inputFormat := formatName options.inputFormat settings.inputFormat
  fields := fieldNamesOr options.fields settings.fields
  color := options.color.getD settings.color
  pretty := options.pretty.getD settings.pretty
  logLevel := settings.logLevel

def Used.settings (used : Used) : Settings where
  inputFormat := .text used.inputFormat
  outputFormat := .text used.outputFormat
  color := used.color
  pretty := used.pretty
  fields := used.fields
  logLevel := used.logLevel

def withoutSettings (options : Options) : Options :=
  { options with outputFormat := none, inputFormat := none, fields := none, color := none, pretty := none }

theorem plan_eq (settings : Settings) (options : Options) :
    plan settings options = plan (used settings options).settings (withoutSettings options) := by
  simp only [plan, withoutSettings, Used.settings, used, formatName, fieldNamesOr, Datum.toText,
    Option.filter_none, Option.getD_none, String.ofList_toList]

def firstOf {α : Type} (layers : List (Option α)) (default : α) : α :=
  (layers.findSome? id).getD default

@[simp] theorem firstOf_nil {α : Type} (default : α) : firstOf [] default = default :=
  rfl

@[simp] theorem firstOf_cons {α : Type} (layer : Option α) (rest : List (Option α)) (default : α) :
    firstOf (layer :: rest) default = layer.getD (firstOf rest default) := by
  cases layer <;> rfl

def layered (options : Options) (environment : Environment) (given : Setting → Option Datum) :
    Used where
  outputFormat := firstOf
    [options.outputFormat, named environment .outputFormat, (given .outputFormat).map textOf] "text"
  inputFormat := firstOf
    [options.inputFormat, named environment .inputFormat, (given .inputFormat).map textOf] "auto"
  fields := firstOf [options.fields.map fieldNames, (given .fields).map namesOf] []
  color := firstOf
    [options.color, (named environment .color).map isOn, (given .color).map truthOf] false
  pretty := firstOf
    [options.pretty, (named environment .pretty).map isOn, (given .pretty).map truthOf] false
  logLevel := firstOf
    [(named environment .logLevel).map upperString,
     (given .logLevel).map fun value => upperString (textOf value)] "WARNING"

-- A format that passes is the variable's text, or the value of the file, or the default.
theorem eq_firstOf_of_format {set : Option String} {given : Option Datum} {default name : String}
    (h : formatOf set given default = .text name) :
    name = firstOf [set, given.map textOf] default := by
  unfold formatOf at h
  cases set with
  | some text =>
    simp only [Option.elim, textInPlaceOf] at h
    split at h
    · cases h
    · cases h
      rfl
  | none =>
    cases given with
    | none =>
      cases h
      rfl
    | some value =>
      obtain rfl : value = .text name := h
      exact (String.ofList_toList).symm

theorem formatName_text {allowed : List String} {given : Option String}
    (hgiven : Options.isAmong allowed given = true) (hallowed : "" ∉ allowed) (name : String) :
    formatName given (.text name) = given.getD name := by
  cases given with
  | none => exact String.ofList_toList
  | some other =>
    have hother : other ∈ allowed := by simpa [Options.isAmong] using hgiven
    have hnonempty : other ≠ "" := fun h => hallowed (h ▸ hother)
    simp [formatName, Option.filter, hnonempty]

theorem used_merged {environment : Environment} {options : Options} {entries : List (Datum × Datum)}
    {tree : FileTree} (husable : options.isUsable tree = true) (source : Option Path)
    (hcheck : (Settings.merged environment entries).check = .ok ()) :
    used { Settings.merged environment entries with source := source } options =
      layered options environment (Settings.given? (Settings.steps entries)) := by
  obtain ⟨⟨input, -, hinput⟩, ⟨output, -, houtput⟩⟩ := Settings.formats_of_check hcheck
  simp only [Options.isUsable, Bool.and_eq_true] at husable
  obtain ⟨⟨hgivenOutput, hgivenInput⟩, -⟩ := husable
  have hinputName := eq_firstOf_of_format ((Settings.inputFormat_merged _ _).symm.trans hinput)
  have houtputName := eq_firstOf_of_format ((Settings.outputFormat_merged _ _).symm.trans houtput)
  simp only [used, hinput, houtput, formatName_text hgivenOutput (by decide),
    formatName_text hgivenInput (by decide), hinputName, houtputName]
  have hfields (given : Option Datum) : fieldNamesOr options.fields (given.elim [] namesOf) =
      firstOf [options.fields.map fieldNames, given.map namesOf] [] := by
    cases options.fields <;> cases given <;> rfl
  have helim {α β : Type} (layer : Option α) (default : β) (f : α → β) :
      layer.elim default f = (layer.map f).getD default := by
    cases layer <;> rfl
  simp only [Settings.merged, Settings.overrideAll_eq, Settings.configured, hfields]
  simp only [layered, firstOf_cons, firstOf_nil, helim]

theorem settings_eq_ok_iff {surroundings : Surroundings} {options : Options} {loaded : Settings} :
    settings surroundings options = .ok loaded ↔
      Settings.load surroundings (options.config.map fun text => (Path.ofText text).toText) =
        .ok loaded := by
  unfold settings
  cases Settings.load surroundings (options.config.map fun text => (Path.ofText text).toText) with
  | ok found => simp
  | error fault =>
    dsimp only
    split <;> simp

private def layeredEnvironment : Environment :=
  Environment.ofList
    [("LOGPIPE_OUTPUT_FORMAT", "json"), ("LOGPIPE_COLOR", "off"), ("LOGPIPE_PRETTY", " Yes "),
     ("LOGPIPE_LOG_LEVEL", "debug")]

private def layeredFile : String :=
  "output: \x7bformat: logfmt, fields: 'a, b', pretty: no\x7d\nlog_level: error\n"

private def layeredFileReordered : String :=
  "log_level: error\noutput: \x7bfields: 'a, b', format: logfmt, pretty: no\x7d\n"

private def layeredOptions : Options :=
  { color := some true, config := some "c.yaml" }

end Command

end LogSieve
