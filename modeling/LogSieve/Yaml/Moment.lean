import LogSieve.Json.Reader
import LogSieve.Text.Split
import LogSieve.Yaml.Datum
import LogSieve.Yaml.Fault

namespace LogSieve.Yaml.Moment

structure Zone where
  behind : Bool
  hour : List Char
  minute : List Char

structure TimeShape where
  hour : List Char
  minute : List Char
  second : List Char
  fraction : List Char
  zone : Option Zone

structure Shape where
  year : List Char
  month : List Char
  day : List Char
  time : Option TimeShape

def row? (least most : Nat) (text : List Char) : Option (List Char × List Char) :=
  let row := (text.takeWhile Char.isDigit).take most
  if least ≤ row.length then some (row, text.drop row.length) else none

def behind? (mark : Char) : List Char → Option (List Char)
  | c :: rest => if c = mark then some rest else none
  | [] => none

def isGap (c : Char) : Bool :=
  c == ' ' || c == '\t'

def zone? : List Char → Option Zone
  | ['Z'] => some ⟨false, ['0'], ['0']⟩
  | sign :: rest => do
    if sign = '+' ∨ sign = '-' then
      let (hour, rest) ← row? 1 2 rest
      match rest with
      | [] => return ⟨sign == '-', hour, ['0']⟩
      | ':' :: rest =>
        let (minute, rest) ← row? 2 2 rest
        if rest = [] then return ⟨sign == '-', hour, minute⟩ else none
      | _ => none
    else none
  | [] => none

def behindGap? : List Char → Option (List Char)
  | 'T' :: rest => some rest
  | 't' :: rest => some rest
  | c :: rest => if isGap c then some (rest.dropWhile isGap) else none
  | [] => none

def time? (text : List Char) : Option TimeShape := do
  let rest ← behindGap? text
  let (hour, rest) ← row? 1 2 rest
  let rest ← behind? ':' rest
  let (minute, rest) ← row? 2 2 rest
  let rest ← behind? ':' rest
  let (second, rest) ← row? 2 2 rest
  let (fraction, rest) := match rest with
    | '.' :: rest => rest.span Char.isDigit
    | rest => ([], rest)
  if rest = [] then return ⟨hour, minute, second, fraction, none⟩
  return ⟨hour, minute, second, fraction, some (← zone? (rest.dropWhile isGap))⟩

def shape? (text : List Char) : Option Shape := do
  let (year, rest) ← row? 4 4 text
  let rest ← behind? '-' rest
  let (month, rest) ← row? 1 2 rest
  let rest ← behind? '-' rest
  let (day, rest) ← row? 1 2 rest
  if rest = [] then return ⟨year, month, day, none⟩
  return ⟨year, month, day, some (← time? rest)⟩

-- Texts that look like a date or a time. A date alone has two digits for month and day.
def looksLike (text : List Char) : Bool :=
  (shape? text).any fun shape =>
    shape.time.isSome || (shape.month.length == 2 && shape.day.length == 2)

def Shape.date (shape : Shape) : Except BadScalar Date :=
  let year := digitsValue shape.year
  let month := digitsValue shape.month
  match Date.ofParts? year month (digitsValue shape.day) with
  | some date => .ok date
  | none =>
    if year = 0 then .error (.year year)
    else if month = 0 ∨ 12 < month then .error .month
    else .error .day

def microsecond (fraction : List Char) : Nat :=
  let row := fraction.take 6
  digitsValue (row ++ List.replicate (6 - row.length) '0')

def TimeShape.clock (time : TimeShape) : Except BadScalar Clock :=
  let hour := digitsValue time.hour
  let minute := digitsValue time.minute
  match Clock.ofParts? hour minute (digitsValue time.second) (microsecond time.fraction) with
  | some clock => .ok clock
  | none =>
    if 24 ≤ hour then .error .hour
    else if 60 ≤ minute then .error .minute
    else .error .second

def Zone.minutes (zone : Zone) : Int :=
  let minutes : Int := (digitsValue zone.hour * 60 + digitsValue zone.minute : Nat)
  if zone.behind then -minutes else minutes

-- The date or time of a shape. An offset is looked at first.
def Shape.datum (shape : Shape) : Except BadScalar Datum :=
  match shape.time with
  | none => shape.date.map .day
  | some time =>
    match time.zone with
    | none => do return .wallTime (← shape.date) (← time.clock)
    | some zone =>
      if h : -1440 < zone.minutes ∧ zone.minutes < 1440 then do
        return .instant ⟨← shape.date, ← time.clock, zone.minutes, h⟩
      else .error (.offset zone.minutes)

def datum (text : List Char) : Except BadScalar Datum :=
  let seen := if text.getLast? = some '\n' then text.dropLast else text
  match shape? seen with
  | some shape => shape.datum
  | none => .error .timestamp

end LogSieve.Yaml.Moment
