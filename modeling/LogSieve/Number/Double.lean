namespace LogSieve

def unitsPerOne : Nat := Nat.pow 2 1074

def unitsBound : Nat := Nat.pow 2 2098

def Representable (units : Nat) : Prop :=
  units < unitsBound ∧ units % Nat.pow 2 (units.log2 - 52) = 0

instance (units : Nat) : Decidable (Representable units) :=
  inferInstanceAs (Decidable (_ ∧ _))

-- A finite number is a sign and a count of least units, of `2 ^ -1074`. Every value but zero has one
-- representation, so equality of numbers is equality of counts, and rounding is one division.
inductive Double where
  | finite (negative : Bool) (units : Nat) (representable : Representable units)
  | infinite (negative : Bool)
  | nan
deriving DecidableEq

-- The quotient rounded to the nearest whole number, a tie going to the even neighbour.
def roundQuotient (num den : Nat) : Nat :=
  let whole := num / den
  let rest := num % den
  if 2 * rest < den then whole
  else if den < 2 * rest then whole + 1
  else whole + whole % 2

def roundSignificant (num den : Nat) : Nat :=
  let grid := Nat.pow 2 ((num / den).log2 - 52)
  roundQuotient num (den * grid) * grid

namespace Double

def ofUnits (negative : Bool) (units : Nat) : Double :=
  if h : Representable units then .finite negative units h else .infinite negative

def ofRatio (negative : Bool) (num den : Nat) : Double :=
  ofUnits negative (roundSignificant (num * unitsPerOne) den)

def ofNat (n : Nat) : Double :=
  ofRatio false n 1

def ofInt (i : Int) : Double :=
  ofRatio (i < 0) i.natAbs 1

instance : Inhabited Double := ⟨ofNat 0⟩

def isFinite : Double → Bool
  | .finite .. => true
  | _ => false

def toInt? : Double → Option Int
  | .finite negative units _ =>
    if units % unitsPerOne = 0 then
      some (if negative then -(units / unitsPerOne : Nat) else (units / unitsPerOne : Nat))
    else none
  | _ => none

def truncate? : Double → Option Int
  | .finite negative units _ =>
    some (if negative then -(units / unitsPerOne : Nat) else (units / unitsPerOne : Nat))
  | _ => none

-- Equality of values: both zeros are one value, and NaN equals nothing.
def equal : Double → Double → Bool
  | .finite s m _, .finite t n _ => m == n && (s == t || m == 0)
  | .infinite s, .infinite t => s == t
  | _, _ => false

def exceeds : Double → Nat → Bool
  | .finite negative units _, n => !negative && n * unitsPerOne < units
  | .infinite negative, _ => !negative
  | .nan, _ => false

def negate : Double → Double
  | .finite negative units h => .finite (!negative) units h
  | .infinite negative => .infinite (!negative)
  | .nan => .nan

-- The sum, rounded once. A sum of zeros is negative only if both are.
def add : Double → Double → Double
  | .finite s m _, .finite t n _ =>
    let signed (negative : Bool) (units : Nat) : Int := if negative then -units else units
    let sum := signed s m + signed t n
    ofRatio (if sum = 0 then s && t else sum < 0) sum.natAbs unitsPerOne
  | .infinite s, .infinite t => if s = t then .infinite s else .nan
  | .infinite s, .finite .. => .infinite s
  | .finite .., .infinite t => .infinite t
  | _, _ => .nan

def scale (n : Nat) : Double → Double
  | .finite negative units _ => ofRatio negative (units * n) unitsPerOne
  | x => x

end Double

end LogSieve
