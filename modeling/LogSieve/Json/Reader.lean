import LogSieve.Json.Basic
import LogSieve.Number.Reading

namespace LogSieve.Json

abbrev Reader (α : Type) := List Char → Option (α × List Char)

def readDepth : Nat := 1024

def isSpace (c : Char) : Bool :=
  c == ' ' || c == '\t' || c == '\n' || c == '\r'

def skipSpace (text : List Char) : List Char :=
  text.dropWhile isSpace

def hexValue? (c : Char) : Option Nat :=
  if c.isDigit then some (c.toNat - '0'.toNat)
  else if 'a' ≤ c ∧ c ≤ 'f' then some (c.toNat - 'a'.toNat + 10)
  else if 'A' ≤ c ∧ c ≤ 'F' then some (c.toNat - 'A'.toNat + 10)
  else none

def unit? (a b c d : Char) : Option Nat := do
  return (((← hexValue? a) * 16 + (← hexValue? b)) * 16 + (← hexValue? c)) * 16 + (← hexValue? d)

def escaped? : Char → Option Char
  | '"' => some '"'
  | '\\' => some '\\'
  | '/' => some '/'
  | 'b' => some '\x08'
  | 'f' => some '\x0c'
  | 'n' => some '\n'
  | 'r' => some '\r'
  | 't' => some '\t'
  | _ => none

-- The rest of a string behind its opening quote. A unit that starts a surrogate pair needs the
-- unit that ends it.
def stringBody : Reader (List Char)
  | [] => none
  | '"' :: rest => some ([], rest)
  | '\\' :: 'u' :: a :: b :: c :: d :: rest => do
    let unit ← unit? a b c d
    if unit < 0xD800 ∨ 0xDFFF < unit then
      let (text, rest) ← stringBody rest
      some (Char.ofNat unit :: text, rest)
    else if unit < 0xDC00 then
      match rest with
      | '\\' :: 'u' :: e :: f :: g :: h :: rest =>
        let second ← unit? e f g h
        if 0xDC00 ≤ second ∧ second ≤ 0xDFFF then
          let (text, rest) ← stringBody rest
          some (Char.ofNat (0x10000 + (unit - 0xD800) * 0x400 + (second - 0xDC00)) :: text, rest)
        else none
      | _ => none
    else none
  | '\\' :: letter :: rest => do
    let c ← escaped? letter
    let (text, rest) ← stringBody rest
    some (c :: text, rest)
  | c :: rest => do
    if c.toNat < 0x20 ∨ c = '\\' then none
    else
      let (text, rest) ← stringBody rest
      some (c :: text, rest)

def digits : Reader (List Char) := fun text =>
  match spanDigits text with
  | ([], _) => none
  | (row, rest) => some (row, rest)

def wholePart : Reader (List Char)
  | '0' :: rest => some (['0'], rest)
  | text => digits text

def fractionPart : Reader (Option (List Char))
  | '.' :: rest => (digits rest).map fun (row, rest) => (some row, rest)
  | text => some (none, text)

def exponentPart : Reader (Option Int)
  | c :: rest =>
    if c = 'e' ∨ c = 'E' then
      match rest with
      | '-' :: rest => (digits rest).map fun (row, rest) => (some (-(digitsValue row : Int)), rest)
      | '+' :: rest => (digits rest).map fun (row, rest) => (some (digitsValue row), rest)
      | rest => (digits rest).map fun (row, rest) => (some (digitsValue row), rest)
    else some (none, c :: rest)
  | [] => some (none, [])

def unsignedNumber (negative : Bool) : Reader Json := fun text => do
  let (whole, rest) ← wholePart text
  let (fraction, rest) ← fractionPart rest
  let (exponent, rest) ← exponentPart rest
  let row := fraction.getD []
  let x := Decimal.toDouble negative
    ⟨digitsValue (whole ++ row), exponent.getD 0 - row.length⟩
  if !x.isFinite then none
  else if fraction.isNone && exponent.isNone then
    let n : Int := digitsValue whole
    some (.int (if negative then -n else n), rest)
  else some (.real x, rest)

def number : Reader Json
  | '-' :: rest => unsignedNumber true rest
  | text => unsignedNumber false text

-- The items of an array behind its opening bracket, one at least. The first argument reads one
-- item, the second bounds their count.
def itemsWith (item : Reader Json) : Nat → Reader (List Json)
  | 0, _ => none
  | limit + 1, text => do
    let (value, rest) ← item text
    match skipSpace rest with
    | ',' :: rest =>
      let (values, rest) ← itemsWith item limit rest
      some (value :: values, rest)
    | ']' :: rest => some ([value], rest)
    | _ => none

def memberName : Reader String := fun text => do
  match skipSpace text with
  | '"' :: rest =>
    let (name, rest) ← stringBody rest
    match skipSpace rest with
    | ':' :: rest => some (String.ofList name, rest)
    | _ => none
  | _ => none

def membersWith (item : Reader Json) : Nat → Reader (List (String × Json))
  | 0, _ => none
  | limit + 1, text => do
    let (name, rest) ← memberName text
    let (value, rest) ← item rest
    match skipSpace rest with
    | ',' :: rest =>
      let (members, rest) ← membersWith item limit rest
      some ((name, value) :: members, rest)
    | '}' :: rest => some ([(name, value)], rest)
    | _ => none

def value (depth : Nat) : Reader Json := fun text =>
  match skipSpace text with
  | 'n' :: 'u' :: 'l' :: 'l' :: rest => some (.null, rest)
  | 't' :: 'r' :: 'u' :: 'e' :: rest => some (.bool true, rest)
  | 'f' :: 'a' :: 'l' :: 's' :: 'e' :: rest => some (.bool false, rest)
  | '"' :: rest => (stringBody rest).map fun (text, rest) => (.string (String.ofList text), rest)
  | '[' :: rest =>
    match depth with
    | 0 => none
    | depth + 1 =>
      match skipSpace rest with
      | ']' :: rest => some (.array [], rest)
      | rest => (itemsWith (value depth) rest.length rest).map fun (items, rest) =>
          (.array items, rest)
  | '{' :: rest =>
    match depth with
    | 0 => none
    | depth + 1 =>
      match skipSpace rest with
      | '}' :: rest => some (.object [], rest)
      | rest => (membersWith (value depth) rest.length rest).map fun (members, rest) =>
          (.object members, rest)
  | text => number text

def read? (text : List Char) : Option Json := do
  let (document, rest) ← value readDepth text
  if skipSpace rest = [] then some document else none

end LogSieve.Json
