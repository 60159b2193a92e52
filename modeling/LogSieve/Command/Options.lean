import LogSieve.Files.Tree

namespace LogSieve

inductive Given where
  | outputFormat (name : String)
  | inputFormat (name : String)
  | file (path : String)
  | merge (path : String)
  | filter (expression : String)
  | fields (names : String)
  | color (on : Bool)
  | pretty (on : Bool)
  | stats (field : String)
  | config (path : String)
  | version
  | help
deriving DecidableEq

namespace Given

def valued : List (String × (String → Given)) :=
  [("--format", outputFormat), ("--input", inputFormat), ("--file", file), ("--merge", merge),
   ("--filter", filter), ("--fields", fields), ("--stats", stats), ("--config", config)]

def bare : List (String × Given) :=
  [("--color", color true), ("--no-color", color false), ("--pretty", pretty true),
   ("--no-pretty", pretty false), ("--version", version), ("--help", help)]

def splitEquals : List Char → List Char × Option (List Char)
  | [] => ([], none)
  | c :: rest =>
    if c = '=' then ([], some rest)
    else
      let (name, value) := splitEquals rest
      (c :: name, value)

def isShort (letters : List Char) : Bool :=
  letters.all (· == 'h')

-- The options of some arguments in order, and the arguments that are none; nothing where an option
-- is unknown, or lacks a value, or has one that it does not take.
def read? : List String → Option (List Given × List String)
  | [] => some ([], [])
  | argument :: rest =>
    let chars := argument.toList
    if argument = "--" then some ([], rest)
    else if chars.head? != some '-' || chars.length < 2 then
      (read? rest).map fun (found, others) => (found, argument :: others)
    else
      let (name, value) := splitEquals chars
      match valued.lookup (String.ofList name), value, rest with
      | some given, some value, rest =>
        (read? rest).map fun (found, others) => (given (String.ofList value) :: found, others)
      | some given, none, value :: rest =>
        (read? rest).map fun (found, others) => (given value :: found, others)
      | some _, none, [] => none
      | none, _, rest =>
        match bare.lookup argument with
        | some given => (read? rest).map fun (found, others) => (given :: found, others)
        | none =>
          if chars.take 2 != ['-', '-'] && isShort chars.tail then
            (read? rest).map fun (found, others) => (help :: found, others)
          else none

end Given

structure Options where
  outputFormat : Option String := none
  inputFormat : Option String := none
  file : Option String := none
  merge : List String := []
  filters : List String := []
  fields : Option String := none
  color : Option Bool := none
  pretty : Option Bool := none
  stats : Option String := none
  config : Option String := none
deriving DecidableEq

namespace Options

def add (options : Options) : Given → Options
  | .outputFormat name => { options with outputFormat := some name }
  | .inputFormat name => { options with inputFormat := some name }
  | .file path => { options with file := some path }
  | .merge path => { options with merge := options.merge ++ [path] }
  | .filter expression => { options with filters := options.filters ++ [expression] }
  | .fields names => { options with fields := some names }
  | .color on => { options with color := some on }
  | .pretty on => { options with pretty := some on }
  | .stats field => { options with stats := some field }
  | .config path => { options with config := some path }
  | .version => options
  | .help => options

def ofGiven (given : List Given) : Options :=
  given.foldl add {}

def isAmong (names : List String) (value : Option String) : Bool :=
  value.all names.contains

def namesDirectory (tree : FileTree) (text : String) : Bool :=
  text != "" &&
    match tree.find (.ofText text) with
    | .ok .directory => true
    | _ => false

def isUsable (tree : FileTree) (options : Options) : Bool :=
  isAmong ["json", "logfmt", "text"] options.outputFormat &&
    isAmong ["auto", "json", "logfmt"] options.inputFormat &&
    (options.file.toList ++ options.merge ++ options.config.toList).all
      fun path => !namesDirectory tree path

end Options

inductive Request where
  | version
  | help
  | run (options : Options)
deriving DecidableEq

-- The request of some arguments; none where they are misused. Whoever asks for version or help gets
-- it as soon as all options are known.
def Request.ofArguments? (tree : FileTree) (arguments : List String) : Option Request := do
  let (given, others) ← Given.read? arguments
  match given.find? fun option => option == .version || option == .help with
  | some .version => return .version
  | some _ => return .help
  | none =>
    let options := Options.ofGiven given
    if others.isEmpty && options.isUsable tree then return .run options else none

-- A configuration file is no input.
def Request.readsStandard : Request → Bool
  | .run options => options.file.isNone && options.merge.isEmpty
  | _ => false

end LogSieve
