namespace LogSieve

def replacementChar : Char := '\uFFFD'

namespace Utf8

-- Where reading stands: between two characters, or inside one that still lacks `needed` bytes,
-- the next of which must lie between `low` and `high`.
inductive State where
  | ready
  | within (value : Nat) (needed : Nat) (low high : UInt8)
deriving DecidableEq, Inhabited

def lead? (b : UInt8) : Option State :=
  if b < 0xC2 then none
  else if b < 0xE0 then some (.within (b.toNat - 0xC0) 1 0x80 0xBF)
  else if b = 0xE0 then some (.within 0 2 0xA0 0xBF)
  else if b = 0xED then some (.within 0xD 2 0x80 0x9F)
  else if b < 0xF0 then some (.within (b.toNat - 0xE0) 2 0x80 0xBF)
  else if b = 0xF0 then some (.within 0 3 0x90 0xBF)
  else if b < 0xF4 then some (.within (b.toNat - 0xF0) 3 0x80 0xBF)
  else if b = 0xF4 then some (.within 4 3 0x80 0x8F)
  else none

def start (b : UInt8) : List Char × State :=
  if b < 0x80 then ([Char.ofNat b.toNat], .ready)
  else match lead? b with
    | some state => ([], state)
    | none => ([replacementChar], .ready)

-- One byte. Inside a character, a byte that cannot continue it starts afresh.
def step : State → UInt8 → List Char × State
  | .ready, b => start b
  | .within value needed low high, b =>
    if low ≤ b ∧ b ≤ high then
      let value := value * 64 + (b.toNat - 0x80)
      if needed = 1 then ([Char.ofNat value], .ready)
      else ([], .within value (needed - 1) 0x80 0xBF)
    else
      let (chars, state) := start b
      (replacementChar :: chars, state)

def finish : State → List Char
  | .ready => []
  | .within .. => [replacementChar]

def decodeFrom (state : State) : List UInt8 → List Char
  | [] => finish state
  | b :: rest =>
    let (chars, next) := step state b
    chars ++ decodeFrom next rest

-- Each maximal run of bytes that starts like a character and cannot be completed reads as one
-- replacement character.
def decode (bytes : List UInt8) : List Char :=
  decodeFrom .ready bytes

def encodeChar (c : Char) : List UInt8 :=
  let n := c.toNat
  let tail (k : Nat) : UInt8 := (0x80 + k % 64).toUInt8
  if n < 0x80 then [n.toUInt8]
  else if n < 0x800 then [(0xC0 + n / 64).toUInt8, tail n]
  else if n < 0x10000 then [(0xE0 + n / 4096).toUInt8, tail (n / 64), tail n]
  else [(0xF0 + n / 262144).toUInt8, tail (n / 4096), tail (n / 64), tail n]

def encode (text : List Char) : List UInt8 :=
  text.flatMap encodeChar

def decode? (bytes : List UInt8) : Option (List Char) :=
  let text := decode bytes
  if encode text = bytes then some text else none

end Utf8

end LogSieve
