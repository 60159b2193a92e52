import LogSieve.Settings.Basic

namespace LogSieve

open Yaml (Datum)

structure Surroundings where
  environment : Environment
  tree : FileTree

namespace Settings

def defaultFile : String := "~/.logpipe/config.yaml"

def fileVariable : String := "LOGPIPE_CONFIG"

-- The configuration file, and whether it must exist. An empty name is none.
def file (environment : Environment) (given : Option String) : Except Fault (Path × Bool) :=
  let expanded (text : String) : Except Fault Path :=
    (Path.expand? environment text).elim (.error .noHome) .ok
  match given.filter (· ≠ "") with
  | some text => (expanded text).map (·, true)
  | none =>
    let text := ((environment fileVariable).filter (· ≠ "")).getD defaultFile
    (expanded text).map (·, false)

def unifyBreaks : List Char → List Char
  | '\r' :: '\n' :: rest => '\n' :: unifyBreaks rest
  | '\r' :: rest => '\n' :: unifyBreaks rest
  | c :: rest => c :: unifyBreaks rest
  | [] => []

def entriesOf (path : Path) (content : List UInt8) : Except Fault (List (Datum × Datum)) :=
  match Utf8.decode? content with
  | none => .error .notText
  | some text =>
    match Datum.ofText (unifyBreaks text) with
    | .error .malformed => .error (.malformed path)
    | .error (.scalar bad) => .error (.scalar bad)
    | .ok (.mapping entries) => .ok entries
    | .ok _ => .ok []

def readEntries (tree : FileTree) (path : Path) (required : Bool) :
    Except Fault (List (Datum × Datum)) :=
  match tree.read path with
  | .ok content => entriesOf path content
  | .error .isDirectory => .error (.unreadable path .isDirectory)
  | .error .nameTooLong => .error (.system .nameTooLong)
  | .error _ => if required then .error (.notFound path) else .ok []

def load (surroundings : Surroundings) (given : Option String) : Except Fault Settings := do
  let (path, required) ← file surroundings.environment given
  let entries ← readEntries surroundings.tree path required
  let change := configure entries {}
  if let some fault := change.fault then throw fault
  let source := if entries.isEmpty then none else some path
  let settings := overrideAll surroundings.environment { change.settings with source := source }
  settings.check
  return settings

end Settings

end LogSieve
