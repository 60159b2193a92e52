import LogSieve.Text.Blank
import LogSieve.Text.Case
import LogSieve.Text.Quoted

namespace LogSieve

inductive Dialect where
  | jsonLines
  | keyValue
deriving DecidableEq

def Dialect.name : Dialect → String
  | .jsonLines => "jsonl"
  | .keyValue => "keyvalue"

inductive InputFormat where
  | auto
  | fixed (dialect : Dialect)
deriving DecidableEq

inductive InputFormatError where
  | unknown (name : String)
  | undecided
deriving DecidableEq

def InputFormatError.message : InputFormatError → String
  | .unknown name =>
    String.ofList (Quoted.text name.toList) ++ " is not a valid LogFormat"
  | .undecided => "No parser for format: auto"

namespace InputFormat

def name : InputFormat → String
  | .auto => "auto"
  | .fixed dialect => dialect.name

def ofName? (text : String) : Except InputFormatError InputFormat :=
  let name := lowerString (trimString text)
  if name = "auto" then .ok .auto
  else if name = "json" ∨ name = "jsonl" then .ok (.fixed .jsonLines)
  else if name = "logfmt" ∨ name = "keyvalue" then .ok (.fixed .keyValue)
  else .error (.unknown name)

def dialect? : InputFormat → Except InputFormatError Dialect
  | .auto => .error .undecided
  | .fixed dialect => .ok dialect

end InputFormat

end LogSieve
