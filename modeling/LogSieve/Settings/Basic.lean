import LogSieve.Environment.Basic
import LogSieve.Settings.Fault
import LogSieve.Settings.FieldNames

namespace LogSieve

open Yaml (Datum)

-- A format is kept as it was written until all settings are checked together.
structure Settings where
  inputFormat : Datum := .text "auto"
  outputFormat : Datum := .text "text"
  color : Bool := false
  pretty : Bool := false
  fields : List String := []
  logLevel : String := "WARNING"
  source : Option Path := none
deriving DecidableEq, Inhabited

namespace Settings

inductive Setting where
  | inputFormat
  | outputFormat
  | color
  | pretty
  | fields
  | logLevel
deriving DecidableEq

inductive Section where
  | input
  | output
deriving DecidableEq

def Section.name : Section → String
  | .input => "input"
  | .output => "output"

def Section.setting? : Section → String → Option Setting
  | .input, "format" => some .inputFormat
  | .output, "format" => some .outputFormat
  | .output, "color" => some .color
  | .output, "pretty" => some .pretty
  | .output, "fields" => some .fields
  | _, _ => none

def invalidAt (place value : Datum) (problem : Problem) : Fault :=
  if place.isShowable && value.isShowable then .invalid ⟨place, value, problem⟩
  else .scalar .unshowable

def invalid (place : String) (value : Datum) (problem : Problem) : Fault :=
  invalidAt (.text place) value problem

def shown (value : Datum) : Except Fault String :=
  if value.isShowable then .ok (String.ofList value.toText) else .error (.scalar .unshowable)

def itemTexts? : Datum → Option (List String)
  | .list items => some (items.map fun item => String.ofList item.toText)
  | .pairs items => some (items.map fun item => String.ofList (Datum.displayPairs [item]))
  | _ => none

def asTruth (place : String) : Datum → Except Fault Bool
  | .truth b => .ok b
  | value => .error (invalid place value .notBoolean)

def asNames (place : String) (value : Datum) : Except Fault (List String) :=
  match value with
  | .text names => .ok (fieldNames names)
  | value =>
    match itemTexts? value with
    | some names => if value.isShowable then .ok names else .error (.scalar .unshowable)
    | none => .error (invalid place value .notList)

-- What a value becomes in the place of another: a truth value or a list is replaced by its kind.
def inPlaceOf (current : Datum) (place : String) (value : Datum) : Except Fault Datum :=
  match current with
  | .truth _ => (asTruth place value).map .truth
  | .list _ | .pairs _ => (asNames place value).map fun names => .list (names.map .text)
  | _ => .ok value

def withLevel (settings : Settings) (text : String) : Settings :=
  { settings with logLevel := upperString text }

def assign (settings : Settings) (place : String) (value : Datum) :
    Setting → Except Fault Settings
  | .inputFormat => do
    return { settings with inputFormat := ← inPlaceOf settings.inputFormat place value }
  | .outputFormat => do
    return { settings with outputFormat := ← inPlaceOf settings.outputFormat place value }
  | .color => do return { settings with color := ← asTruth place value }
  | .pretty => do return { settings with pretty := ← asTruth place value }
  | .fields => do return { settings with fields := ← asNames place value }
  | .logLevel => do return settings.withLevel (← shown value)

-- Names that sections answer to beside their settings. A value given for one shows nowhere.
def silentNames : List String :=
  ["__annotations__", "__dataclass_fields__", "__dataclass_params__", "__delattr__", "__dir__",
   "__doc__", "__eq__", "__format__", "__ge__", "__getattribute__", "__getstate__", "__gt__",
   "__hash__", "__init__", "__init_subclass__", "__le__", "__lt__", "__match_args__",
   "__module__", "__ne__", "__new__", "__reduce__", "__reduce_ex__", "__repr__", "__setattr__",
   "__sizeof__", "__str__", "__subclasshook__"]

def otherKey (place name : String) (value : Datum) : Except Fault Unit :=
  if silentNames.contains name then .ok ()
  else if name = "__class__" then .error .wrongType
  else if name = "__weakref__" then .error .fixedAttribute
  else if name = "__dict__" then
    match value with
    -- A mapping is taken for all attributes at once.
    | .mapping _ | .within true => .error .unfollowed
    | _ => .error .wrongType
  else .error (invalid place value .unknownKey)

-- One entry of a section. A null changes nothing, but even its place is written out first.
def assignEntry (part : Section) (settings : Settings) (key value : Datum) :
    Except Fault Settings :=
  if !key.isShowable then .error (.scalar .unshowable)
  else
    match value, key with
    | .null, _ => .ok settings
    | value, .text name =>
      let place := part.name ++ "." ++ name
      match part.setting? name with
      | some setting => settings.assign place value setting
      | none => (otherKey place name value).map fun _ => settings
    | _, _ => .error .wrongType

structure Change where
  settings : Settings
  fault : Option Fault := none

def assignSection (part : Section) : List (Datum × Datum) → Settings → Change
  | [], settings => ⟨settings, none⟩
  | (key, value) :: rest, settings =>
    match assignEntry part settings key value with
    | .ok settings => assignSection part rest settings
    | .error fault => ⟨settings, some fault⟩

def configureEntry (settings : Settings) (key value : Datum) : Change :=
  match key, value with
  | _, .null => ⟨settings, none⟩
  | .text "input", .mapping entries => assignSection .input entries settings
  | .text "output", .mapping entries => assignSection .output entries settings
  | .text "log_level", value =>
    match shown value with
    | .ok text => ⟨settings.withLevel text, none⟩
    | .error fault => ⟨settings, some fault⟩
  | key, value => ⟨settings, some (invalidAt key value .unknownKey)⟩

def configure : List (Datum × Datum) → Settings → Change
  | [], settings => ⟨settings, none⟩
  | (key, value) :: rest, settings =>
    let change := configureEntry settings key value
    match change.fault with
    | some _ => change
    | none => configure rest change.settings

-- A text in the place of a format. A truth value stays one.
def textInPlaceOf (current : Datum) (text : String) : Datum :=
  match current with
  | .truth _ => .truth (isOn text)
  | _ => .text text

def override (settings : Settings) (text : String) : Setting → Settings
  | .inputFormat =>
    { settings with inputFormat := textInPlaceOf settings.inputFormat text }
  | .outputFormat =>
    { settings with outputFormat := textInPlaceOf settings.outputFormat text }
  | .color => { settings with color := isOn text }
  | .pretty => { settings with pretty := isOn text }
  | .fields => settings
  | .logLevel => settings.withLevel text

def byVariable : List (String × Setting) :=
  [("LOGPIPE_INPUT_FORMAT", .inputFormat), ("LOGPIPE_OUTPUT_FORMAT", .outputFormat),
   ("LOGPIPE_COLOR", .color), ("LOGPIPE_PRETTY", .pretty), ("LOGPIPE_LOG_LEVEL", .logLevel)]

def overrideAll (environment : Environment) (settings : Settings) : Settings :=
  byVariable.foldl (fun settings (name, setting) =>
    match environment name with
    | some text => settings.override text setting
    | none => settings) settings

def checkAmong (allowed : List String) (place : Datum) (value : Datum) : Except Fault Unit :=
  match value with
  | .text name =>
    if allowed.contains name then .ok () else .error (invalidAt place value (.notAmong allowed))
  | value => .error (invalidAt place value (.notAmong allowed))

-- Whether a value is one of a set of names. Most collections cannot even be looked for in a set.
def checkInSet (allowed : List String) (place : Datum) (value : Datum) : Except Fault Unit :=
  if value.isSought then checkAmong allowed place value else .error .wrongType

def inputFormats : List String := ["auto", "json", "logfmt"]

def outputFormats : List String := ["json", "logfmt", "text"]

def logLevels : List String := ["CRITICAL", "DEBUG", "ERROR", "INFO", "WARNING"]

def check (settings : Settings) : Except Fault Unit := do
  checkInSet inputFormats (.text "input.format") settings.inputFormat
  checkInSet outputFormats (.text "output.format") settings.outputFormat
  checkInSet logLevels (.text "log_level") (.text settings.logLevel)

end Settings

end LogSieve
