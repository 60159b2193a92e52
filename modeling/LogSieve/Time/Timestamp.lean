import LogSieve.Number.Reading
import LogSieve.Record.Basic
import LogSieve.Time.DateTime

namespace LogSieve

namespace Timestamp

def epochThreshold : Nat := Nat.pow 10 9

def digitRow? : Nat → List Char → Option (List Char × List Char)
  | 0, text => some ([], text)
  | count + 1, c :: rest =>
    if isDigit c then (digitRow? count rest).map fun (row, rest) => (c :: row, rest) else none
  | _ + 1, [] => none

def behind? (mark : Char → Bool) : List Char → Option (List Char)
  | c :: rest => if mark c then some rest else none
  | [] => none

-- The value of a row of ASCII digits; digits of other scripts have the shape of a date-time but
-- no value in it.
def asciiValue? (row : List Char) : Option Nat :=
  if row.all Char.isDigit then some (digitsValue row) else none

structure Shape where
  year : List Char
  month : List Char
  day : List Char
  hour : List Char
  minute : List Char
  second : List Char
  fraction : List Char
  negative : Bool
  offsetHour : List Char
  offsetMinute : List Char

-- The offset: `Z` in either case, or a sign, hours and minutes. One line break may follow.
def offsetShape? (text : List Char) : Option (Bool × List Char × List Char) :=
  let ends (rest : List Char) : Bool := rest == [] || rest == ['\n']
  match text with
  | c :: rest =>
    if c = 'Z' ∨ c = 'z' then
      if ends rest then some (false, ['0'], ['0']) else none
    else if c = '+' ∨ c = '-' then do
      let (hour, rest) ← digitRow? 2 rest
      let rest ← behind? (· == ':') rest
      let (minute, rest) ← digitRow? 2 rest
      if ends rest then some (c == '-', hour, minute) else none
    else none
  | [] => none

def fractionShape? (text : List Char) : Option (List Char × List Char) :=
  match text with
  | '.' :: rest =>
    let (row, rest) := rest.span isDigit
    if row = [] then none else some (row, rest)
  | rest => some ([], rest)

def shape? (text : List Char) : Option Shape := do
  let (year, rest) ← digitRow? 4 text
  let rest ← behind? (· == '-') rest
  let (month, rest) ← digitRow? 2 rest
  let rest ← behind? (· == '-') rest
  let (day, rest) ← digitRow? 2 rest
  let rest ← behind? (fun c => c == 'T' || c == 't') rest
  let (hour, rest) ← digitRow? 2 rest
  let rest ← behind? (· == ':') rest
  let (minute, rest) ← digitRow? 2 rest
  let rest ← behind? (· == ':') rest
  let (second, rest) ← digitRow? 2 rest
  let (fraction, rest) ← fractionShape? rest
  let (negative, offsetHour, offsetMinute) ← offsetShape? rest
  some ⟨year, month, day, hour, minute, second, fraction, negative, offsetHour, offsetMinute⟩

def microseconds? (fraction : List Char) : Option Nat :=
  let row := fraction.take 6
  asciiValue? (row ++ List.replicate (6 - row.length) '0')

def Shape.dateTime? (shape : Shape) : Option DateTime := do
  let date ← Date.ofParts? (← asciiValue? shape.year) (← asciiValue? shape.month)
    (← asciiValue? shape.day)
  let clock ← Clock.ofParts? (← asciiValue? shape.hour) (← asciiValue? shape.minute)
    (← asciiValue? shape.second) (← microseconds? shape.fraction)
  let minutes : Nat := (← asciiValue? shape.offsetHour) * 60 + (← asciiValue? shape.offsetMinute)
  let offset : Int := if shape.negative then -minutes else minutes
  if h : -1440 < offset ∧ offset < 1440 then some ⟨date, clock, offset, h⟩ else none

def internet? (text : List Char) : Option DateTime :=
  (shape? text).bind Shape.dateTime?

-- The instant of a text. A number above the threshold counts as seconds, cut to whole ones, and
-- is never tried as a date-time.
def ofText? (text : List Char) : Option DateTime :=
  if text = [] then none
  else
    match (Double.ofText? text).filter (·.exceeds epochThreshold) with
    | some number => number.truncate?.bind fun seconds => DateTime.ofEpochSeconds? seconds.toNat
    | none => internet? text

end Timestamp

def Record.firstInstant? (record : Record) :
    List String → Except Json.WriteFault (Option DateTime)
  | [] => .ok none
  | name :: rest =>
    match record.get? name with
    | none => firstInstant? record rest
    | some value => do
      match Timestamp.ofText? (← value.canonical).toList with
      | some t => .ok (some t)
      | none => firstInstant? record rest

def Record.timestamp? (record : Record) : Except Json.WriteFault (Option DateTime) :=
  record.firstInstant? timestampNames

end LogSieve
