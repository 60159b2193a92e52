import LogSieve.Log.Outcome

namespace LogSieve

structure Tally where
  total : Nat := 0
  parsed : Nat := 0
  failed : Nat := 0
  empty : Nat := 0
  jsonLines : Nat := 0
  keyValue : Nat := 0
deriving DecidableEq, Inhabited

namespace Tally

def ofDialect (tally : Tally) : Dialect → Nat
  | .jsonLines => tally.jsonLines
  | .keyValue => tally.keyValue

def countEmpty (tally : Tally) : Tally :=
  { tally with total := tally.total + 1, empty := tally.empty + 1 }

def count (tally : Tally) (dialect : Dialect) (result : Except LineFault Record) : Tally :=
  match result, dialect with
  | .error _, _ => { tally with total := tally.total + 1, failed := tally.failed + 1 }
  | .ok _, .jsonLines =>
    { tally with
      total := tally.total + 1, parsed := tally.parsed + 1, jsonLines := tally.jsonLines + 1 }
  | .ok _, .keyValue =>
    { tally with
      total := tally.total + 1, parsed := tally.parsed + 1, keyValue := tally.keyValue + 1 }

-- The share of records among the lines that are not empty, in percent; all of none is 100.
def successRate (tally : Tally) : Double :=
  let lines := tally.parsed + tally.failed
  if lines = 0 then .ofNat 100 else (Double.ofRatio false tally.parsed lines).scale 100

end Tally

end LogSieve
