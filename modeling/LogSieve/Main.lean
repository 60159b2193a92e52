import LogSieve.Command.Run

namespace LogSieve.Program

def variableNames (texts : List String) : List String :=
  ["HOME", Settings.fileVariable] ++ Settings.byVariable.map Prod.fst ++
    texts.flatMap fun text => (Piece.ofText text.toList).filterMap fun
      | .reference name _ => some (String.ofList name)
      | .literal _ => none

def readVariables (names : List String) : IO (List (String × String)) :=
  names.filterMapM fun name => do
    return (← IO.getEnv name).map (name, ·)

def fileTexts (arguments : List String) : List String :=
  match Given.read? arguments with
  | none => []
  | some (given, _) =>
    let options := Options.ofGiven given
    options.file.toList ++ options.merge ++ options.config.toList

def absoluteParts (workplace : List String) (path : Path) : List String :=
  let start := if path.root = .relative then workplace else []
  path.parts.foldl (fun parts part => if part = ".." then parts.dropLast else parts ++ [part]) start

def addPath (tree : FileTree) (path : Path) : IO FileTree := do
  let parts := absoluteParts tree.workplace path
  let place := (← IO.currentDir) / path.toText
  if ← place.isDir then
    return { tree with directories := parts :: tree.directories }
  if ← place.pathExists then
    let content ← IO.FS.readBinFile place
    return { tree with files := (parts, content.toList) :: tree.files }
  -- What stands above a missing file may still be there.
  let above : Path := { path with parts := path.parts.dropLast }
  if ← ((← IO.currentDir) / above.toText).isDir then
    return { tree with directories := absoluteParts tree.workplace above :: tree.directories }
  return tree

-- A run looks at files through a tree, which therefore holds all that the arguments may ask for.
def surroundings (arguments : List String) : IO Surroundings := do
  let texts := fileTexts arguments
  let named ← IO.getEnv Settings.fileVariable
  let held ← readVariables (variableNames (texts ++ named.toList))
  let environment := Environment.ofList held
  let workplace := (Path.ofText (← IO.currentDir).toString).parts
  let configured := (named.toList ++ [Settings.defaultFile] ++ texts).filterMap fun text =>
    Path.expand? environment text
  let paths := texts.map Path.ofText ++ configured
  let tree ← paths.foldlM addPath { files := [], directories := [], workplace := workplace }
  return { environment := environment, tree := tree }

partial def readAll (input : IO.FS.Stream) (content : ByteArray) : IO ByteArray := do
  let chunk ← input.read 65536
  if chunk.isEmpty then return content
  readAll input (content ++ chunk)

def crashText : String := "The run ended early."

end LogSieve.Program

open LogSieve in
def main (arguments : List String) : IO UInt32 := do
  let surroundings ← Program.surroundings arguments
  let request := Request.ofArguments? surroundings.tree arguments
  let standard ←
    if request.any Request.readsStandard then Program.readAll (← IO.getStdin) .empty
    else pure .empty
  let finish := Command.run surroundings arguments ⟨standard.toList, .finished⟩
  (← IO.getStdout).putStr (String.ofList finish.output)
  let errors ← IO.getStderr
  errors.putStr (String.ofList finish.diagnostics)
  if finish.crash.isSome then errors.putStrLn Program.crashText
  return finish.exitCode.toUInt32
