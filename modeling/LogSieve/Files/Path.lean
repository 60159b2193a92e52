import LogSieve.Environment.Reference
import LogSieve.Text.Split

namespace LogSieve

-- Two slashes in front are kept apart from one; more are one.
inductive PathRoot where
  | relative
  | single
  | double
deriving DecidableEq

structure Path where
  root : PathRoot
  parts : List String
deriving DecidableEq

namespace Path

def rootOf : List Char → PathRoot
  | '/' :: '/' :: '/' :: _ => .single
  | '/' :: '/' :: _ => .double
  | '/' :: _ => .single
  | _ => .relative

def partsOf (text : List Char) : List String :=
  ((splitAtEach '/' text).map String.ofList).filter fun part => part != "" && part != "."

def ofText (text : String) : Path :=
  ⟨rootOf text.toList, partsOf text.toList⟩

def rootText : PathRoot → String
  | .relative => ""
  | .single => "/"
  | .double => "//"

def joinParts : List String → String
  | [] => ""
  | [part] => part
  | part :: rest => part ++ "/" ++ joinParts rest

def toText (path : Path) : String :=
  let text := rootText path.root ++ joinParts path.parts
  if text = "" then "." else text

def name (path : Path) : String :=
  path.parts.getLast?.getD ""

def home? (environment : Environment) : Option String :=
  (environment "HOME").map fun text =>
    let trimmed := (text.toList.reverse.dropWhile (· == '/')).reverse
    if trimmed = [] then "/" else String.ofList trimmed

-- A path whose first part is a tilde, with the home directory in its place; none where no home is
-- known. Homes of other users are not known.
def atHome? (environment : Environment) (path : Path) : Option Path :=
  match path.root, path.parts with
  | .relative, first :: rest =>
    if first.toList.head? = some '~' then
      if first = "~" then do
        let home ← home? environment
        if home.toList.head? = some '~' then none
        else
          let base := ofText home
          some { base with parts := base.parts ++ rest }
      else none
    else some path
  | _, _ => some path

def expand? (environment : Environment) (text : String) : Option Path :=
  (ofText (environment.expand text)).atHome? environment

end Path

end LogSieve
