import LogSieve.Number.Decimal

namespace LogSieve

-- The decisions of one way to write decimals. A decimal whose leading digit stands for
-- `10 ^ e` is written with a point if `lowest ≤ e ≤ highest`, otherwise with a signed exponent
-- of at least `exponentWidth` digits.
structure NumberStyle where
  lowest : Int
  highest : Int
  exponentWidth : Nat

namespace NumberStyle

-- The style of numbers on their own: `1e-05`, `0.0001`, `1e+16`.
def standalone : NumberStyle := ⟨-4, 15, 2⟩

-- The style of numbers inside JSON: `1e-6`, `0.00001`, `1e+21`.
def json : NumberStyle := ⟨-5, 20, 1⟩

def exponentText (style : NumberStyle) (e : Int) : List Char :=
  let digits := Nat.toDigits 10 e.natAbs
  'e' :: (if e < 0 then '-' else '+') ::
    (List.replicate (style.exponentWidth - digits.length) '0' ++ digits)

def positional (d : Decimal) : List Char :=
  let digits := Nat.toDigits 10 d.digits
  let before := digits.length + d.exponent
  if 0 ≤ d.exponent then digits ++ List.replicate d.exponent.toNat '0' ++ ['.', '0']
  else if 0 < before then digits.take before.toNat ++ '.' :: digits.drop before.toNat
  else '0' :: '.' :: (List.replicate (-before).toNat '0' ++ digits)

def scientific (style : NumberStyle) (d : Decimal) : List Char :=
  let digits := Nat.toDigits 10 d.digits
  let mantissa := match digits with
    | lead :: second :: rest => lead :: '.' :: second :: rest
    | short => short
  mantissa ++ style.exponentText (d.exponent + digits.length - 1)

def decimal (style : NumberStyle) (d : Decimal) : List Char :=
  let lead := d.exponent + (Nat.toDigits 10 d.digits).length - 1
  if style.lowest ≤ lead ∧ lead ≤ style.highest then positional d else style.scientific d

def write (style : NumberStyle) : Double → List Char
  | .finite negative units _ =>
    (if negative then ['-'] else []) ++ style.decimal (.shortest units)
  | .infinite negative => (if negative then ['-'] else []) ++ ['i', 'n', 'f']
  | .nan => ['n', 'a', 'n']

end NumberStyle

def writeInt (i : Int) : List Char :=
  (if i < 0 then ['-'] else []) ++ Nat.toDigits 10 i.natAbs

end LogSieve
