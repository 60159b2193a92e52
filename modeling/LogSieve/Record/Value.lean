import LogSieve.Json.Basic
import LogSieve.Record.Fields

namespace LogSieve

-- An object's fields are in increasing order of name, see `Value.ofJson`.
inductive Value where
  | string (s : String)
  | number (x : Double)
  | bool (b : Bool)
  | null
  | object (fields : List (String × Value))
  | array (items : List Value)
deriving Inhabited

inductive Kind where
  | string
  | number
  | boolean
  | null
  | object
  | array
deriving DecidableEq

def Kind.name : Kind → String
  | .string => "string"
  | .number => "number"
  | .boolean => "boolean"
  | .null => "null"
  | .object => "object"
  | .array => "array"

-- The whole number that stands for a double wherever it is written: its value, if that is whole
-- and below `10 ^ 21`.
def Double.whole? (x : Double) : Option Int :=
  x.toInt?.filter fun i => i.natAbs < Nat.pow 10 21

namespace Value

def kind : Value → Kind
  | .string _ => .string
  | .number _ => .number
  | .bool _ => .boolean
  | .null => .null
  | .object _ => .object
  | .array _ => .array

mutual

def ofJson : Json → Value
  | .null => .null
  | .bool b => .bool b
  | .int i => .number (.ofInt i)
  | .real x => .number x
  | .string s => .string s
  | .array items => .array (ofItems items)
  | .object members => .object (Fields.ofList (ofMembers members))

def ofItems : List Json → List Value
  | [] => []
  | item :: rest => ofJson item :: ofItems rest

def ofMembers : List (String × Json) → List (String × Value)
  | [] => []
  | (name, item) :: rest => (name, ofJson item) :: ofMembers rest

end

mutual

def toJson : Value → Json
  | .string s => .string s
  | .number x => (x.whole?.map Json.int).getD (.real x)
  | .bool b => .bool b
  | .null => .null
  | .object fields => .object (toMembers fields)
  | .array items => .array (toItems items)

def toItems : List Value → List Json
  | [] => []
  | item :: rest => toJson item :: toItems rest

def toMembers : List (String × Value) → List (String × Json)
  | [] => []
  | (name, item) :: rest => (name, toJson item) :: toMembers rest

end

def asNumber? : Value → Option Double
  | .number x => some x
  | .bool b => some (.ofNat b.toNat)
  | _ => none

mutual

-- Equality of values. Truth values equal one and zero, both zeros are equal, NaN equals nothing.
def equal : Value → Value → Bool
  | .string s, .string t => s == t
  | .null, .null => true
  | .object xs, .object ys => equalFields xs ys
  | .array xs, .array ys => equalItems xs ys
  | v, w =>
    match v.asNumber?, w.asNumber? with
    | some x, some y => x.equal y
    | _, _ => false

def equalItems : List Value → List Value → Bool
  | [], [] => true
  | v :: vs, w :: ws => equal v w && equalItems vs ws
  | _, _ => false

def equalFields : List (String × Value) → List (String × Value) → Bool
  | [], [] => true
  | (m, v) :: vs, (n, w) :: ws => m == n && equal v w && equalFields vs ws
  | _, _ => false

end

end Value

end LogSieve
