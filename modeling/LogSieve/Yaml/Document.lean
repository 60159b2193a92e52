import LogSieve.Yaml.Node
import LogSieve.Yaml.Scalar

namespace LogSieve.Yaml

namespace Node

def isMerge : Node → Bool
  | .scalar .merge _ => true
  | .sequence .merge _ => true
  | .mapping .merge _ => true
  | _ => false

-- An equals sign: a key of this look is a text, and stands for the value of its mapping.
def isStandingValue : Node → Bool
  | .scalar .value _ => true
  | _ => false

def asText : Node → Datum
  | .scalar _ text => .text (String.ofList text)
  | _ => .null

mutual

def datum : Node → Except Fault Datum
  | .within ofMapping => .ok (.within ofMapping)
  | .scalar tag text => Scalar.datum tag text
  | .sequence tag items =>
    match tag with
    | .sequence => (itemsOf items).map .list
    | .pairs | .orderedPairs => (pairsOf items).map .pairs
    | _ => .error .malformed
  | .mapping tag entries =>
    match tag with
    | .mapping => (entriesOf entries).map fun (merged, own) =>
        .mapping (Datum.entriesOfList (merged ++ own))
    | .set => (entriesOf entries).map fun (merged, own) =>
        .set ((Datum.entriesOfList (merged ++ own)).map Prod.fst)
    | tag => standingFor tag entries

def itemsOf : List Node → Except Fault (List Datum)
  | [] => .ok []
  | item :: rest => do return (← datum item) :: (← itemsOf rest)

def pairsOf : List Node → Except Fault (List (Datum × Datum))
  | [] => .ok []
  | .mapping _ [(key, value)] :: rest => do
    let key ← datum key
    let value ← datum value
    return (key, value) :: (← pairsOf rest)
  | _ => .error .malformed

def entriesOf : List (Node × Node) →
    Except Fault (List (Datum × Datum) × List (Datum × Datum))
  | [] => .ok ([], [])
  | (key, value) :: rest => do
    if key.isMerge then
      let merged ← mergedOf value
      let (more, own) ← entriesOf rest
      return (merged ++ more, own)
    else
      let found ← if key.isStandingValue then pure key.asText else datum key
      if !found.isHashable then throw .malformed
      let value ← datum value
      let (more, own) ← entriesOf rest
      return (more, (found, value) :: own)

-- What is merged into a mapping: another one, or a list of them of which the first counts most.
def mergedOf : Node → Except Fault (List (Datum × Datum))
  | .mapping _ entries => (entriesOf entries).map fun (merged, own) => merged ++ own
  | .sequence _ items => mergedItems items
  | .within true => .ok []
  | _ => .error .malformed

def mergedItems : List Node → Except Fault (List (Datum × Datum))
  | [] => .ok []
  | .mapping _ entries :: rest => do
    let (merged, own) ← entriesOf entries
    return (← mergedItems rest) ++ (merged ++ own)
  | _ => .error .malformed

-- A mapping where a scalar should be: the value of its entry for an equals sign stands for it.
def standingFor (tag : Tag) : List (Node × Node) → Except Fault Datum
  | [] => .error .malformed
  | (key, value) :: rest =>
    if key.isStandingValue then
      match value with
      | .scalar _ text => Scalar.datum tag text
      | .mapping _ entries => standingFor tag entries
      | _ => .error .malformed
    else standingFor tag rest

end

end Node

def isAllowed (c : Char) : Bool :=
  let n := c.toNat
  n == 0x09 || n == 0x0A || n == 0x0D || (0x20 ≤ n && n ≤ 0x7E) || n == 0x85 ||
    (0xA0 ≤ n && n ≤ 0xFFFD) || 0x10000 ≤ n

def Datum.ofText (text : List Char) : Except Fault Datum := do
  if !text.all isAllowed then throw .malformed
  match ← Node.ofTokens (← Token.ofText text) with
  | none => return .null
  | some node => node.datum

end LogSieve.Yaml
