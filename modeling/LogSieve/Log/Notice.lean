import LogSieve.Log.Outcome
import LogSieve.Render.Format

namespace LogSieve

inductive Severity where
  | debug
  | info
  | warning
  | error
  | critical
deriving DecidableEq

namespace Severity

def all : List Severity := [.debug, .info, .warning, .error, .critical]

def name : Severity → String
  | .debug => "DEBUG"
  | .info => "INFO"
  | .warning => "WARNING"
  | .error => "ERROR"
  | .critical => "CRITICAL"

def rank : Severity → Nat
  | .debug => 0
  | .info => 1
  | .warning => 2
  | .error => 3
  | .critical => 4

def ofName? (name : String) : Option Severity :=
  all.find? (·.name == name)

end Severity

inductive Notice where
  | sniffed (dialect : Dialect) (lines : Nat)
  | malformed (label : String) (line : Int) (fault : LineFault)
  | unrendered (fault : RenderFault)
  | loaded (count : Nat) (label : String)
  | finished (matched rendered failures : Nat)
deriving DecidableEq

namespace Notice

def severity : Notice → Severity
  | .malformed .. => .warning
  | .unrendered .. => .error
  | _ => .debug

def message : Notice → String
  | .sniffed dialect lines =>
    "Sniffed format " ++ dialect.name ++ " after " ++ toString lines ++ " line(s)"
  | .malformed label line fault =>
    "Error parsing " ++ label ++ ": " ++ Outcome.faultMessage line fault
  | .unrendered fault => "Error formatting log: " ++ fault.message
  | .loaded count label => "Loaded " ++ toString count ++ " record(s) from " ++ label
  | .finished matched rendered failures =>
    "Matched " ++ toString matched ++ " record(s), rendered " ++ toString rendered ++ ", " ++
      toString failures ++ " failure(s)"

end Notice

end LogSieve
