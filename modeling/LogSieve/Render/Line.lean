import LogSieve.Render.Format
import LogSieve.Render.Paint
import LogSieve.Text.Case
import LogSieve.Time.Timestamp

namespace LogSieve

inductive Renderer where
  | json (pretty : Bool)
  | text (colored : Bool) (fields : List String)
  | logfmt

namespace Renderer

def format : Renderer → OutputFormat
  | .json _ => .json
  | .text .. => .text
  | .logfmt => .logfmt

def ofName? (name : String) (colored pretty : Bool) (fields : List String) :
    Except OutputFormat.Unknown Renderer :=
  (OutputFormat.ofName? name).map fun
    | .json => .json pretty
    | .text => .text colored fields
    | .logfmt => .logfmt

-- How wide the column of times is, and how much of a text that is no time is shown.
def timeWidth : Nat := 15

def paintIf (colored : Bool) (paint : Paint) (text : List Char) : List Char :=
  if colored then paint.apply text else text

def timeColumn (colored : Bool) (text : List Char) : List Char :=
  if text = [] then paintIf colored .other (List.replicate timeWidth ' ')
  else match Timestamp.ofText? text with
    | some t => DateTime.clockText t.clock
    | none => text.take timeWidth

def levelPaint (level : List Char) : Paint × Option String :=
  let name := String.ofList (lower level)
  if ["error", "err", "fatal", "crit"].contains name then (.error, some "ERROR")
  else if ["warn", "warning"].contains name then (.warning, some "WARN ")
  else if ["info", "information"].contains name then (.info, some "INFO ")
  else (.other, none)

def levelColumn (colored : Bool) (level : List Char) : List Char :=
  let shown := upper level
  if colored then
    let (paint, name) := levelPaint level
    paint.apply ('[' :: ((name.map String.toList).getD shown ++ [']']))
  else '[' :: (shown ++ List.replicate (5 - shown.length) ' ' ++ [']'])

def joinWith (separator : List Char) : List (List Char) → List Char
  | [] => []
  | [part] => part
  | part :: rest => part ++ separator ++ joinWith separator rest

def pairs (quote : List Char → List Char) (record : Record) :
    List String → Except Json.WriteFault (List (List Char))
  | [] => .ok []
  | name :: rest =>
    match record.get? name with
    | none => pairs quote record rest
    | some value => do
      let text ← value.canonical
      return (name.toList ++ '=' :: quote text.toList) :: (← pairs quote record rest)

-- The names that lines for people show behind the message: those asked for, else all that have no
-- place of their own.
def extraNames (record : Record) (fields : List String) : List String :=
  if fields = [] then record.names.filter fun name => !Record.wellKnownNames.contains name
  else fields.filter record.contains

def extras (colored : Bool) (fields : List String) (record : Record) :
    Except Json.WriteFault (List Char) := do
  let names := extraNames record fields
  let shown ← pairs id record names
  return if names = [] then [] else ' ' :: paintIf colored .extras (joinWith [' '] shown)

def textLine (colored : Bool) (fields : List String) (record : Record) :
    Except Json.WriteFault (List Char) := do
  let time ← record.textOf Record.timestampNames
  let level ← record.textOf Record.levelNames
  let message ← record.textOf Record.messageNames
  let extras ← extras colored fields record
  return timeColumn colored time.toList ++ ' ' :: levelColumn colored level.toList ++
    ' ' :: message.toList ++ extras ++ ['\n']

def quoteValue (value : List Char) : List Char :=
  if value.any fun c => c == ' ' || c == '\t' || c == '"' then
    '"' :: (value.flatMap (fun c => if c = '"' then ['\\', '"'] else [c]) ++ ['"'])
  else value

def logfmtLine (record : Record) : Except Json.WriteFault (List Char) :=
  (pairs quoteValue record record.names).map fun parts => joinWith [' '] parts ++ ['\n']

def render (renderer : Renderer) (record : Record) : Except Json.WriteFault (List Char) :=
  match renderer with
  | .json pretty => (record.toJson.write pretty).map (· ++ ['\n'])
  | .text colored fields => textLine colored fields record
  | .logfmt => logfmtLine record

end Renderer

end LogSieve
