import LogSieve.Number.Decimal
import LogSieve.Text.Blank
import LogSieve.Text.DecimalDigit

namespace LogSieve

def digitsValue (digits : List Char) : Nat :=
  Nat.ofDigitChars 10 digits 0

def spanDigits (text : List Char) : List Char × List Char :=
  text.span Char.isDigit

namespace Double

-- A character as it counts in a number: a digit of any script is its ASCII digit, and white
-- space beyond ASCII is a space. No other character beyond ASCII can be part of a number.
def plainChar? (c : Char) : Option Char :=
  if c.toNat < 128 then some c
  else if isBlank c then some ' '
  else (digitValue? c).map fun value => Char.ofNat ('0'.toNat + value)

def isPlainSpace (c : Char) : Bool :=
  c.toNat < 128 && isBlankByte c.toNat.toUInt8

def joinDigits? : Bool → List Char → Option (List Char)
  | _, [] => some []
  | afterDigit, '_' :: c :: rest =>
    if afterDigit && c.isDigit then joinDigits? false (c :: rest) else none
  | _, ['_'] => none
  | _, c :: rest => (joinDigits? c.isDigit rest).map (c :: ·)

def exponent? : List Char → Option Int
  | [] => some 0
  | c :: rest =>
    if c = 'e' ∨ c = 'E' then
      let (negative, digits) : Bool × List Char := match rest with
        | '-' :: digits => (true, digits)
        | '+' :: digits => (false, digits)
        | digits => (false, digits)
      if digits ≠ [] ∧ digits.all Char.isDigit then
        some (if negative then -(digitsValue digits : Int) else digitsValue digits)
      else none
    else none

def unsigned? (negative : Bool) (text : List Char) : Option Double :=
  let name := text.map Char.toLower
  if name = "inf".toList ∨ name = "infinity".toList then some (.infinite negative)
  else if name = "nan".toList then some .nan
  else
    let (whole, rest) := spanDigits text
    let (fraction, rest) := match rest with
      | '.' :: rest => spanDigits rest
      | rest => ([], rest)
    if whole = [] ∧ fraction = [] then none
    else (exponent? rest).map fun exponent =>
      Decimal.toDouble negative ⟨digitsValue (whole ++ fraction), exponent - fraction.length⟩

def ofText? (text : List Char) : Option Double := do
  let plain ← text.mapM plainChar?
  let number ← joinDigits? false (stripBoth isPlainSpace plain)
  match number with
  | '-' :: rest => unsigned? true rest
  | '+' :: rest => unsigned? false rest
  | rest => unsigned? false rest

end Double

end LogSieve
