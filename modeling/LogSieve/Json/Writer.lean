import LogSieve.Json.Basic
import LogSieve.Number.Style

namespace LogSieve.Json

-- The limits of writing are not those of reading: fewer containers, and integers of 64 bits.
def writeDepth : Nat := 254

inductive WriteFault where
  | integerRange
  | nesting
deriving DecidableEq

def WriteFault.message : WriteFault → String
  | .integerRange => "Integer exceeds 64-bit range"
  | .nesting => "Recursion limit reached"

def fitsWord (i : Int) : Bool :=
  -Int.pow 2 63 ≤ i && i < Int.pow 2 64

mutual

-- The first fault in the order of writing, if `depth` more containers may be nested.
def fault? (depth : Nat) : Json → Option WriteFault
  | .int i => if fitsWord i then none else some .integerRange
  | .array items =>
    match depth with
    | 0 => some .nesting
    | depth + 1 => itemsFault? depth items
  | .object members =>
    match depth with
    | 0 => some .nesting
    | depth + 1 => membersFault? depth members
  | _ => none

def itemsFault? (depth : Nat) : List Json → Option WriteFault
  | [] => none
  | item :: rest => (fault? depth item).or (itemsFault? depth rest)

def membersFault? (depth : Nat) : List (String × Json) → Option WriteFault
  | [] => none
  | (_, item) :: rest => (fault? depth item).or (membersFault? depth rest)

end

def escape (c : Char) : List Char :=
  match c with
  | '"' => ['\\', '"']
  | '\\' => ['\\', '\\']
  | '\x08' => ['\\', 'b']
  | '\x0c' => ['\\', 'f']
  | '\n' => ['\\', 'n']
  | '\r' => ['\\', 'r']
  | '\t' => ['\\', 't']
  | c =>
    if c.toNat < 0x20 then
      ['\\', 'u', '0', '0', Nat.digitChar (c.toNat / 16), Nat.digitChar (c.toNat % 16)]
    else [c]

def quote (text : String) : List Char :=
  '"' :: (text.toList.flatMap escape ++ ['"'])

-- A number; JSON has no text for infinities and NaN, and null stands for them.
def writeReal (x : Double) : List Char :=
  if x.isFinite then NumberStyle.json.write x else "null".toList

mutual

def compact : Json → List Char
  | .null => "null".toList
  | .bool true => "true".toList
  | .bool false => "false".toList
  | .int i => writeInt i
  | .real x => writeReal x
  | .string s => quote s
  | .array items => '[' :: compactItems items
  | .object members => '{' :: compactMembers members

def compactItems : List Json → List Char
  | [] => [']']
  | [item] => compact item ++ [']']
  | item :: rest => compact item ++ ',' :: compactItems rest

def compactMembers : List (String × Json) → List Char
  | [] => ['}']
  | [(name, item)] => quote name ++ ':' :: compact item ++ ['}']
  | (name, item) :: rest => quote name ++ ':' :: compact item ++ ',' :: compactMembers rest

end

def newline (level : Nat) : List Char :=
  '\n' :: List.replicate (2 * level) ' '

mutual

def indented (level : Nat) : Json → List Char
  | .array [] => ['[', ']']
  | .object [] => ['{', '}']
  | .array items => '[' :: newline (level + 1) ++ indentedItems level items
  | .object members => '{' :: newline (level + 1) ++ indentedMembers level members
  | document => compact document

def indentedItems (level : Nat) : List Json → List Char
  | [] => newline level ++ [']']
  | [item] => indented (level + 1) item ++ newline level ++ [']']
  | item :: rest =>
    indented (level + 1) item ++ ',' :: newline (level + 1) ++ indentedItems level rest

def indentedMembers (level : Nat) : List (String × Json) → List Char
  | [] => newline level ++ ['}']
  | [(name, item)] =>
    quote name ++ ':' :: ' ' :: indented (level + 1) item ++ newline level ++ ['}']
  | (name, item) :: rest =>
    quote name ++ ':' :: ' ' :: indented (level + 1) item ++ ',' :: newline (level + 1) ++
      indentedMembers level rest

end

def write (pretty : Bool) (document : Json) : Except WriteFault (List Char) :=
  match document.fault? writeDepth with
  | some fault => .error fault
  | none => .ok (if pretty then document.indented 0 else document.compact)

end LogSieve.Json
