import LogSieve.Files.Path
import LogSieve.Text.Quoted
import LogSieve.Text.Utf8

namespace LogSieve

inductive FileFault where
  | missing
  | notDirectory
  | isDirectory
  | nameTooLong
deriving DecidableEq

namespace FileFault

def number : FileFault → Nat
  | .missing => 2
  | .notDirectory => 20
  | .isDirectory => 21
  | .nameTooLong => 36

def words : FileFault → String
  | .missing => "No such file or directory"
  | .notDirectory => "Not a directory"
  | .isDirectory => "Is a directory"
  | .nameTooLong => "File name too long"

def message (fault : FileFault) (path : Path) : String :=
  "[Errno " ++ toString fault.number ++ "] " ++ fault.words ++ ": " ++
    String.ofList (Quoted.text path.toText.toList)

end FileFault

inductive FileEntry where
  | file (content : List UInt8)
  | directory

-- Files and directories by the parts of their absolute paths, and the directory that relative
-- paths start from. What stands in front of an entry is a directory too.
structure FileTree where
  files : List (List String × List UInt8)
  directories : List (List String)
  workplace : List String

namespace FileTree

def longestName : Nat := 255

def isDirectory (tree : FileTree) (parts : List String) : Bool :=
  (tree.workplace :: tree.directories).any parts.isPrefixOf ||
    tree.files.any fun (file, _) => parts.isPrefixOf file && parts != file

def entry? (tree : FileTree) (parts : List String) : Option FileEntry :=
  if tree.isDirectory parts then some .directory
  else (tree.files.lookup parts).map .file

def walk (tree : FileTree) (here : List String) : List String → Except FileFault FileEntry
  | [] => (tree.entry? here).elim (.error .missing) .ok
  | part :: rest =>
    if !tree.isDirectory here then .error .notDirectory
    else if part = ".." then tree.walk here.dropLast rest
    else if longestName < (Utf8.encode part.toList).length then .error .nameTooLong
    else if (tree.entry? (here ++ [part])).isNone then .error .missing
    else tree.walk (here ++ [part]) rest

def find (tree : FileTree) (path : Path) : Except FileFault FileEntry :=
  tree.walk (if path.root = .relative then tree.workplace else []) path.parts

def read (tree : FileTree) (path : Path) : Except FileFault (List UInt8) :=
  match tree.find path with
  | .ok (.file content) => .ok content
  | .ok .directory => .error .isDirectory
  | .error fault => .error fault

end FileTree

end LogSieve
