import LogSieve.Number.Double

namespace LogSieve

structure Decimal where
  digits : Nat
  exponent : Int
deriving DecidableEq, Repr

namespace Decimal

def largestExponent : Int := 400

-- The nearest double. The first three cases decide without arithmetic on huge powers.
def toDouble (negative : Bool) (d : Decimal) : Double :=
  if d.digits = 0 then .ofUnits negative 0
  else if largestExponent < d.exponent then .infinite negative
  else if d.exponent < -largestExponent - d.digits.log2 then .ofUnits negative 0
  else .ofRatio negative (d.digits * Nat.pow 10 d.exponent.toNat) (Nat.pow 10 (-d.exponent).toNat)

def dropZeros : Nat → Decimal → Decimal
  | 0, d => d
  | limit + 1, d =>
    if d.digits ≠ 0 ∧ d.digits % 10 = 0 then dropZeros limit ⟨d.digits / 10, d.exponent + 1⟩
    else d

def scaleOf (units : Nat) : Int :=
  (Nat.toDigits 10 (units * Nat.pow 10 340 / unitsPerOne)).length - 340

-- The two neighbours of a value among the multiples of `10 ^ exponent`, and the one nearer to it
-- first; a tie puts the even one first.
def neighbours (units : Nat) (exponent : Int) : List Decimal :=
  let num := units * Nat.pow 10 (-exponent).toNat
  let den := unitsPerOne * Nat.pow 10 exponent.toNat
  let low := num / den
  let nearer := roundQuotient num den
  [⟨nearer, exponent⟩, ⟨if nearer = low then low + 1 else low, exponent⟩]

def readsBack (units : Nat) (d : Decimal) : Bool :=
  d.toDouble false == .ofUnits false units

def exact (units : Nat) : Decimal :=
  ⟨units * Nat.pow 5 1074, -1074⟩

-- The decimal of fewest digits that rounds to this count of units. Seventeen digits always
-- suffice; the exact value stands behind them.
def shortest (units : Nat) : Decimal :=
  if units = 0 then ⟨0, 0⟩
  else
    let top := scaleOf units
    let candidates := (List.range' 1 17).flatMap fun (count : Nat) => neighbours units (top - count)
    let found := (candidates.find? (readsBack units)).getD (exact units)
    dropZeros found.digits.log2 found

end Decimal

end LogSieve
