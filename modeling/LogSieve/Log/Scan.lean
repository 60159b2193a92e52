import LogSieve.Log.Tally
import LogSieve.Stream.Basic

namespace LogSieve

structure Scan where
  dialect : Dialect
  stream : LineStream
  taken : Nat

namespace Scan

def ofStream (dialect : Dialect) (stream : LineStream) : Scan :=
  ⟨dialect, stream, 0⟩

-- A stream that fails gives one last outcome, numbered as the line that could not be read and counted
-- nowhere.
def nextOf (dialect : Dialect) (ending : Ending) :
    List RawLine → Nat → Tally → Option Outcome × Scan × Tally
  | [], taken, tally =>
    let finished : Scan := ⟨dialect, ⟨[], .finished⟩, taken⟩
    match ending with
    | .finished => (none, finished, tally)
    | .failed fault => (some ⟨taken + 1, .error (.unreadable fault.detail)⟩, finished, tally)
  | raw :: rest, taken, tally =>
    let line := trim raw.decode
    if line = [] then nextOf dialect ending rest (taken + 1) tally.countEmpty
    else
      let result := dialect.readLine line
      (some ⟨taken + 1, result⟩, ⟨dialect, ⟨rest, ending⟩, taken + 1⟩,
        tally.count dialect result)

def next (scan : Scan) (tally : Tally) : Option Outcome × Scan × Tally :=
  nextOf scan.dialect scan.stream.ending scan.stream.lines scan.taken tally

-- All outcomes of some lines behind `taken` others, each with the counts right after it, and the
-- counts at the end.
def runOf (dialect : Dialect) (ending : Ending) :
    List RawLine → Nat → Tally → List (Outcome × Tally) × Tally
  | [], taken, tally =>
    match ending with
    | .finished => ([], tally)
    | .failed fault => ([(⟨taken + 1, .error (.unreadable fault.detail)⟩, tally)], tally)
  | raw :: rest, taken, tally =>
    let line := trim raw.decode
    if line = [] then runOf dialect ending rest (taken + 1) tally.countEmpty
    else
      let result := dialect.readLine line
      let counted := tally.count dialect result
      let (outcomes, final) := runOf dialect ending rest (taken + 1) counted
      ((⟨taken + 1, result⟩, counted) :: outcomes, final)

def run (scan : Scan) (tally : Tally) : List (Outcome × Tally) × Tally :=
  runOf scan.dialect scan.stream.ending scan.stream.lines scan.taken tally

end Scan

end LogSieve
