import LogSieve.Log.Dialect
import LogSieve.Log.KeyValue
import LogSieve.Json.Reader

namespace LogSieve

inductive LineFault where
  | invalidJson
  | notAnObject (kind : Kind)
  | keyValue (fault : KeyValue.Fault)
  | unreadable (detail : String)
deriving DecidableEq

def LineFault.message : LineFault → String
  | .invalidJson => "invalid JSON"
  | .notAnObject kind => "expected a JSON object, got " ++ kind.name
  | .keyValue fault => fault.message
  | .unreadable detail => "read error: " ++ detail

structure Outcome where
  line : Int
  result : Except LineFault Record
deriving Inhabited

namespace Outcome

def record? (outcome : Outcome) : Option Record :=
  outcome.result.toOption

def isValid (outcome : Outcome) : Bool :=
  outcome.record?.isSome

def fault? (outcome : Outcome) : Option LineFault :=
  match outcome.result with
  | .error fault => some fault
  | .ok _ => none

def faultMessage (line : Int) (fault : LineFault) : String :=
  "line " ++ toString line ++ ": " ++ fault.message

end Outcome

namespace Dialect

def recordOfJson : Json → Except LineFault Record
  | .object members => .ok (Record.ofList (Value.ofMembers members))
  | other => .error (.notAnObject (Value.ofJson other).kind)

def readLine (dialect : Dialect) (line : List Char) : Except LineFault Record :=
  match dialect with
  | .jsonLines =>
    match Json.read? line with
    | none => .error .invalidJson
    | some document => recordOfJson document
  | .keyValue =>
    match KeyValue.read line with
    | .error fault => .error (.keyValue fault)
    | .ok record => .ok record

end Dialect

end LogSieve
