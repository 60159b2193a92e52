import LogSieve.Files.Tree
import LogSieve.Yaml.Document

namespace LogSieve.Settings

open Yaml (Datum BadScalar)

inductive Problem where
  | unknownKey
  | notBoolean
  | notList
  | notAmong (allowed : List String)
deriving DecidableEq

structure Invalid where
  place : Datum
  value : Datum
  problem : Problem
deriving DecidableEq

def Problem.message : Problem → String
  | .unknownKey => "Unknown configuration key"
  | .notBoolean => "Expected a boolean"
  | .notList => "Expected a list"
  | .notAmong allowed =>
    let quoted := (allowed.mergeSort (· ≤ ·)).map fun name =>
      String.ofList (Quoted.text name.toList)
    "Value must be one of: " ++ String.intercalate ", " quoted

-- A place that is nothing, zero or empty is not worth naming.
def isNamed : Datum → Bool
  | .null => false
  | .truth b => b
  | .integer i => i != 0
  | .real x => !x.equal (.ofNat 0)
  | .text s => s != ""
  | .octets bytes => !bytes.isEmpty
  | _ => true

def Invalid.message (invalid : Invalid) : String :=
  let place := if isNamed invalid.place then
      " at '" ++ String.ofList invalid.place.toText ++ "'" else ""
  let got := match invalid.value with
    | .null => ""
    | value => " (got: " ++ String.ofList value.display ++ ")"
  "Validation error" ++ place ++ ": " ++ invalid.problem.message ++ got

-- Why there are no settings. The first four are reported to the user; the others end a run at once.
-- But `unfollowed` is no fault: a mapping took the place of all attributes of a section, and the
-- settings that come of it are not followed here.
inductive Fault where
  | notFound (path : Path)
  | malformed (path : Path)
  | unreadable (path : Path) (fault : FileFault)
  | invalid (invalid : Invalid)
  | notText
  | scalar (bad : BadScalar)
  | wrongType
  | fixedAttribute
  | unfollowed
  | noHome
  | system (fault : FileFault)
deriving DecidableEq

def Fault.message? : Fault → Option String
  | .notFound path => some ("Configuration file not found: " ++ path.toText)
  | .malformed path => some ("Invalid YAML in " ++ path.toText)
  | .unreadable path fault => some ("Cannot read " ++ path.toText ++ ": " ++ fault.message path)
  | .invalid found => some found.message
  | _ => none

end LogSieve.Settings
