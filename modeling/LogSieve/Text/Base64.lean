namespace LogSieve.Base64

def value? (c : Char) : Option Nat :=
  if 'A' ≤ c ∧ c ≤ 'Z' then some (c.toNat - 'A'.toNat)
  else if 'a' ≤ c ∧ c ≤ 'z' then some (c.toNat - 'a'.toNat + 26)
  else if c.isDigit then some (c.toNat - '0'.toNat + 52)
  else if c = '+' then some 62
  else if c = '/' then some 63
  else none

-- Reads behind `place` letters of a group of four, whose bits that made no byte yet are `left`,
-- and `pads` padding marks. Whatever is neither letter nor padding is passed over; padding that
-- completes a group ends the text.
def decodeFrom : Nat → Nat → Nat → List Char → Option (List UInt8)
  | place, _, _, [] => if place = 0 then some [] else none
  | place, left, pads, c :: rest =>
    if c = '=' then
      if place < 2 then decodeFrom place left pads rest
      else if 4 ≤ place + pads + 1 then some []
      else decodeFrom place left (pads + 1) rest
    else match value? c, place with
      | none, _ => decodeFrom place left pads rest
      | some v, 0 => decodeFrom 1 v 0 rest
      | some v, 1 => (decodeFrom 2 (v % 16) 0 rest).map ((left * 4 + v / 16).toUInt8 :: ·)
      | some v, 2 => (decodeFrom 3 (v % 4) 0 rest).map ((left * 16 + v / 4).toUInt8 :: ·)
      | some v, _ => (decodeFrom 0 0 0 rest).map ((left * 64 + v).toUInt8 :: ·)

def decode? (text : List Char) : Option (List UInt8) :=
  decodeFrom 0 0 0 text

end LogSieve.Base64
