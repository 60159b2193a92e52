import LogSieve.Text.Case.Context
import LogSieve.Text.Case.Table

namespace LogSieve

namespace Case

def Run.contains (run : Run) (code : Nat) : Bool :=
  run.first ≤ code && code ≤ run.last && (code - run.first) % run.step == 0

def mapChar (runs : List Run) (expansions : List (Nat × List Nat)) (c : Char) : List Char :=
  match runs.find? (·.contains c.toNat) with
  | some run => [Char.ofNat (c.toNat + run.shift).toNat]
  | none =>
    match expansions.lookup c.toNat with
    | some codes => codes.map Char.ofNat
    | none => [c]

def upperChar (c : Char) : List Char :=
  if c.toNat < 128 then [c.toUpper] else mapChar upperRuns upperExpansions c

def lowerChar (c : Char) : List Char :=
  if c.toNat < 128 then [c.toLower] else mapChar lowerRuns lowerExpansions c

def capitalSigma : Char := 'Σ'

def meetsCased (text : List Char) : Bool :=
  match text.dropWhile fun c => passedRanges.contains c.toNat with
  | c :: _ => casedRanges.contains c.toNat
  | [] => false

-- Lower case of what follows `before`, which is in reverse order. A sigma at the end of a word has
-- a form of its own.
def lowerFrom (before : List Char) : List Char → List Char
  | [] => []
  | c :: rest =>
    let mapped :=
      if c = capitalSigma then
        if meetsCased before && !meetsCased rest then ['ς'] else ['σ']
      else lowerChar c
    mapped ++ lowerFrom (c :: before) rest

end Case

open Case in
def upper (text : List Char) : List Char :=
  text.flatMap upperChar

open Case in
def lower (text : List Char) : List Char :=
  lowerFrom [] text

def upperString (text : String) : String :=
  String.ofList (upper text.toList)

def lowerString (text : String) : String :=
  String.ofList (lower text.toList)

end LogSieve
