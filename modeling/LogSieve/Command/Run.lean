import LogSieve.Command.Options
import LogSieve.Log.Session
import LogSieve.Run.Frequency
import LogSieve.Run.Merge
import LogSieve.Run.Single
import LogSieve.Settings.Load

namespace LogSieve

inductive Crash where
  | settings (fault : Settings.Fault)
  | filter (fault : FilterFault)
  | unwritable (fault : Json.WriteFault)
  | input (fault : OpenFault)

@[ext]
structure Finish where
  exitCode : Nat
  output : List Char := []
  diagnostics : List Char := []
  crash : Option Crash := none

namespace Command

def usageCode : Nat := 2

def versionText : String := "logpipe 0.1.0\n"

def helpText : String :=
  "Usage: logpipe [OPTIONS]\n\n" ++
  "  Filter, merge and re-render structured logs.\n\n" ++
  "Options:\n" ++
  "  --version                      Show the version and exit.\n" ++
  "  --format [json|logfmt|text]    Output format (default: text)\n" ++
  "  --input [auto|json|logfmt]     Input format (default: auto)\n" ++
  "  --file FILE                    Path to log file (default: stdin)\n" ++
  "  --merge FILE                   File to merge by timestamp (repeatable)\n" ++
  "  --filter TEXT                  Filter expression (repeatable)\n" ++
  "  --fields TEXT                  Comma-separated fields to display\n" ++
  "  --color / --no-color           Color output\n" ++
  "  --pretty / --no-pretty         Indented JSON output\n" ++
  "  --stats TEXT                   Count the values of a field instead\n" ++
  "  --config FILE                  Path to config file\n" ++
  "  -h, --help                     Show this message and exit.\n"

def noticeLines (least : Severity) (notices : List Notice) : List Char :=
  (notices.filter fun notice => least.rank ≤ notice.severity.rank).flatMap fun notice =>
    notice.message.toList ++ ['\n']

structure Plan where
  input : InputFormat
  renderer : Renderer
  filters : List Filter
  stats : Option String
  level : Severity

-- What ends a run before its output: a message to the user, or a fault that nobody reports.
inductive Stop where
  | failure (message : String)
  | crash (cause : Crash)

def Stop.finish (diagnostics : List Char) : Stop → Finish
  | .failure message =>
    { exitCode := 1, diagnostics := diagnostics ++ "✗ ".toList ++ message.toList ++ ['\n'] }
  | .crash cause => { exitCode := 1, diagnostics := diagnostics, crash := some cause }

def settings (surroundings : Surroundings) (options : Options) : Except Stop Settings :=
  match Settings.load surroundings (options.config.map fun text => (Path.ofText text).toText) with
  | .ok settings => .ok settings
  | .error fault =>
    match fault.message? with
    | some message => .error (.failure ("Configuration error: " ++ message))
    | none => .error (.crash (.settings fault))

def formatName (given : Option String) (configured : Yaml.Datum) : String :=
  (given.filter (· ≠ "")).getD (String.ofList configured.toText)

def filtersOf (expressions : List String) : Except Stop (List Filter) :=
  match Filter.ofTexts expressions with
  | .ok filters => .ok filters
  | .error (.pattern expression .malformed) =>
    .error (.failure ("Invalid filter: " ++
      (FilterFault.pattern expression .malformed).message))
  | .error (.noOperator expression) =>
    .error (.failure ("Invalid filter: " ++ (FilterFault.noOperator expression).message))
  | .error fault => .error (.crash (.filter fault))

def plan (settings : Settings) (options : Options) : Except Stop Plan := do
  if options.file.isSome && !options.merge.isEmpty then
    throw (.failure "--file and --merge are mutually exclusive")
  let filters ← filtersOf options.filters
  let renderer ← (Renderer.ofName? (formatName options.outputFormat settings.outputFormat)
    (options.color.getD settings.color) (options.pretty.getD settings.pretty)
    (fieldNamesOr options.fields settings.fields)).mapError fun e => .failure e.message
  let input ← (InputFormat.ofName? (formatName options.inputFormat settings.inputFormat)).mapError
    fun e => .failure e.message
  return {
    input := input
    renderer := renderer
    filters := filters
    stats := options.stats.filter (· ≠ "")
    level := (Severity.ofName? settings.logLevel).getD .warning }

def openFile (tree : FileTree) (words : String) (path : Path) : Except Stop ByteStream :=
  match tree.read path with
  | .ok content => .ok ⟨content, .finished⟩
  | .error fault => .error (.failure (words ++ ": " ++ fault.message path))

def openAll (tree : FileTree) : List String → Except Stop (List (String × ByteStream))
  | [] => .ok []
  | text :: rest => do
    let path := Path.ofText text
    let stream ← openFile tree ("Error opening " ++ path.toText) path
    return (path.name, stream) :: (← openAll tree rest)

def sourceFailure (fault : SourceFault) : Stop :=
  .failure ("Error detecting input format: " ++ fault.text)

-- What a run reads: its items, the label of its input, and the notices so far. A run that stops here
-- has notices too.
structure Input where
  label : String
  items : Except Stop (List Item)
  notices : List Notice := []

def mergedInput (sources : List (String × ByteStream)) : Input :=
  let result := Merge.run sources
  let items := match result.entries with
    | .ok entries => .ok (entries.map fun entry => .record entry.record)
    | .error (.source fault) => .error (sourceFailure fault)
    | .error (.unwritable fault) => .error (.crash (.unwritable fault))
  { label := "", items := items, notices := result.notices }

def singleInput (format : InputFormat) (label : String) (stream : ByteStream) : Input :=
  match (Session.parse { format := format } (.bytes stream)).1 with
  | .ok (outcomes, notices) =>
    { label := label, items := .ok (outcomes.map Item.ofOutcome), notices := notices }
  | .error (.source fault) => { label := label, items := .error (sourceFailure fault) }
  | .error fault => { label := label, items := .error (.crash (.input fault)) }

def input (tree : FileTree) (plan : Plan) (options : Options) (standard : ByteStream) :
    Except Stop Input := do
  if !options.merge.isEmpty then
    return mergedInput (← openAll tree options.merge)
  match options.file with
  | some text =>
    let path := Path.ofText text
    return singleInput plan.input path.name (← openFile tree "Error opening file" path)
  | none => return singleInput plan.input "stdin" standard

def renderItems (plan : Plan) (input : Input) (items : List Item) : Finish :=
  let pass := Pass.run input.label plan.filters plan.renderer
    { sink := {}, notices := input.notices } items
  match pass.fault with
  | some fault =>
    { exitCode := 1
      output := pass.sink.text
      diagnostics := noticeLines plan.level pass.notices
      crash := some (.unwritable fault) }
  | none =>
    let report := pass.report
    let closing := Notice.finished report.matched report.rendered report.failures
    { exitCode := if report.failed then 1 else 0
      output := pass.sink.text
      diagnostics := noticeLines plan.level (pass.notices ++ [closing]) }

def countItems (plan : Plan) (field : String) (input : Input) (items : List Item) : Finish :=
  let table := Frequency.run input.label plan.filters field items
  let diagnostics := noticeLines plan.level (input.notices ++ table.notices)
  match table.fault with
  | some fault =>
    { exitCode := 1, diagnostics := diagnostics, crash := some (.unwritable fault) }
  | none => { exitCode := 0, output := table.text, diagnostics := diagnostics }

def runPlan (plan : Plan) (input : Input) : Finish :=
  match input.items with
  | .error stop => stop.finish (noticeLines plan.level input.notices)
  | .ok items =>
    match plan.stats with
    | some field => countItems plan field input items
    | none => renderItems plan input items

def runOptions (surroundings : Surroundings) (options : Options) (standard : ByteStream) :
    Finish :=
  let prepared : Except Stop (Plan × Input) := do
    let plan ← plan (← settings surroundings options) options
    return (plan, ← input surroundings.tree plan options standard)
  match prepared with
  | .error stop => stop.finish []
  | .ok (plan, input) => runPlan plan input

def run (surroundings : Surroundings) (arguments : List String) (standard : ByteStream) :
    Finish :=
  match Request.ofArguments? surroundings.tree arguments with
  | none => { exitCode := usageCode }
  | some .version => { exitCode := 0, output := versionText.toList }
  | some .help => { exitCode := 0, output := helpText.toList }
  | some (.run options) => runOptions surroundings options standard

end Command

end LogSieve
