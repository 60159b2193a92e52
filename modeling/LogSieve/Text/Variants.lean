import LogSieve.Text.Case

namespace LogSieve.Case

def lowerOne (c : Char) : Char :=
  ((lowerChar c).head?).getD c

def upperOne (c : Char) : Char :=
  ((upperChar c).head?).getD c

def sources (runs : List Run) (c : Char) : List Char :=
  runs.filterMap fun run =>
    let code := ((c.toNat : Int) - run.shift).toNat
    if run.contains code then some (Char.ofNat code) else none

-- The characters of lower case that become the same text in upper case as this one.
def sameUpper (c : Char) : List Char :=
  match upperChar c with
  | [u] => u :: sources upperRuns u
  | text =>
    (upperExpansions.filter (·.2 == text.map Char.toNat)).map fun entry => Char.ofNat entry.1

def lowersTo (c : Char) : List Char :=
  c :: sources lowerRuns c ++
    (lowerExpansions.filter (·.2.head? == some c.toNat)).map fun entry => Char.ofNat entry.1

def variants (c : Char) : List Char :=
  let low := lowerOne c
  let lows := low :: (sameUpper low).filter fun other => lowerOne other == other
  c :: lows.flatMap lowersTo

def asciiVariants (c : Char) : List Char :=
  [c, c.toLower, c.toUpper]

end LogSieve.Case
