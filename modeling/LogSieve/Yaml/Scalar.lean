import LogSieve.Number.Reading
import LogSieve.Text.Base64
import LogSieve.Text.Case
import LogSieve.Yaml.Tag

namespace LogSieve.Yaml.Scalar

def digitIn? (base : Nat) (c : Char) : Option Nat :=
  let value? :=
    if c.isDigit then some (c.toNat - '0'.toNat)
    else if 'a' ≤ c ∧ c ≤ 'z' then some (c.toNat - 'a'.toNat + 10)
    else if 'A' ≤ c ∧ c ≤ 'Z' then some (c.toNat - 'A'.toNat + 10)
    else none
  value?.filter (· < base)

def baseMark? : Nat → Option Char
  | 2 => some 'b'
  | 8 => some 'o'
  | 16 => some 'x'
  | _ => none

def dropBaseMark (base : Nat) : List Char → List Char
  | '0' :: c :: rest => if baseMark? base = some c.toLower then rest else '0' :: c :: rest
  | text => text

def integer (base : Nat) (text : List Char) : Except BadScalar Int := do
  let bad : BadScalar := .integer base text
  let some plain := text.mapM Double.plainChar? | throw bad
  let trimmed := stripBoth Double.isPlainSpace plain
  let digits := dropBaseMark base (Tag.unsign trimmed)
  let some values := digits.mapM (digitIn? base) | throw bad
  if values = [] then throw bad
  if base = 10 ∧ Datum.longestInteger < values.length then throw (.tooLong values.length)
  let n : Nat := values.foldl (fun n d => base * n + d) 0
  return if trimmed.head? = some '-' then -n else n

def signed (text : List Char) : Except BadScalar (Bool × List Char) :=
  match text.filter (· != '_') with
  | [] => .error .empty
  | '-' :: rest => .ok (true, rest)
  | '+' :: rest => .ok (false, rest)
  | rest => .ok (false, rest)

-- A whole number of the base that its first characters name. Parts between colons are digits of
-- base sixty.
def wholeNumber (text : List Char) : Except BadScalar Int := do
  let (negative, rest) ← signed text
  let value : Int ← match rest with
    | [] => throw .empty
    | ['0'] => pure 0
    | '0' :: 'b' :: digits => integer 2 digits
    | '0' :: 'x' :: digits => integer 16 digits
    | '0' :: _ => integer 8 rest
    | _ => do
      let parts ← (splitAtEach ':' rest).mapM (integer 10)
      pure (parts.foldl (fun n d => 60 * n + d) 0)
  return if negative then -value else value

def real (text : List Char) : Except BadScalar Double :=
  match Double.ofText? text with
  | some x => .ok x
  | none => .error (.decimal text)

def sexagesimal : List Double → Nat → Double → Double
  | [], _, sum => sum
  | part :: parts, unit, sum => sexagesimal parts (unit * 60) (sum.add (part.scale unit))

def decimal (text : List Char) : Except BadScalar Double := do
  let (negative, rest) ← signed (lower text)
  let value : Double ← match splitAtEach ':' rest with
    | part :: next :: parts => do
      let values ← (part :: next :: parts).mapM real
      pure (sexagesimal values.reverse 1 (.ofNat 0))
    | _ =>
      if rest = ".inf".toList then pure (.infinite false)
      else if rest = ".nan".toList then pure .nan
      else real rest
  return if negative then value.negate else value

def boolean (text : List Char) : Except BadScalar Bool :=
  let word := String.ofList (lower text)
  if ["yes", "true", "on"].contains word then .ok true
  else if ["no", "false", "off"].contains word then .ok false
  else .error .boolean

def datum (tag : Tag) (text : List Char) : Except Fault Datum :=
  match tag with
  | .null => .ok .null
  | .boolean => ((boolean text).map .truth).mapError .scalar
  | .integer => ((wholeNumber text).map .integer).mapError .scalar
  | .decimal => ((decimal text).map .real).mapError .scalar
  | .timestamp => (Moment.datum text).mapError .scalar
  | .text => .ok (.text (String.ofList text))
  | .binary =>
    if text.all (·.toNat < 128) then
      match Base64.decode? text with
      | some bytes => .ok (.octets bytes)
      | none => .error .malformed
    else .error .malformed
  | _ => .error .malformed

end LogSieve.Yaml.Scalar
