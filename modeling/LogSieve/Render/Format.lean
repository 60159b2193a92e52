import LogSieve.Json.Writer

namespace LogSieve

inductive OutputFormat where
  | json
  | text
  | logfmt
deriving DecidableEq

namespace OutputFormat

def name : OutputFormat → String
  | .json => "json"
  | .text => "text"
  | .logfmt => "logfmt"

structure Unknown where
  name : String
deriving DecidableEq

def Unknown.message (unknown : Unknown) : String :=
  "Unsupported output format: " ++ unknown.name

def ofName? (name : String) : Except Unknown OutputFormat :=
  match [json, text, logfmt].find? (·.name == name) with
  | some format => .ok format
  | none => .error ⟨name⟩

end OutputFormat

inductive RenderCause where
  | unwritable (fault : Json.WriteFault)
  | sink (detail : String)
deriving DecidableEq

structure RenderFault where
  format : OutputFormat
  cause : RenderCause
deriving DecidableEq

def RenderFault.message (fault : RenderFault) : String :=
  let detail := match fault.cause with
    | .unwritable cause => cause.message
    | .sink detail => detail
  "failed to write " ++ fault.format.name ++ " record: " ++ detail

end LogSieve
