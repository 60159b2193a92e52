import LogSieve.Run.Single

namespace LogSieve

structure Frequency where
  counts : List (String × Nat) := []
  notices : List Notice := []
  fault : Option Json.WriteFault := none

namespace Frequency

def missing : String := "(none)"

def add (frequency : Frequency) (value : String) : Frequency :=
  let count := (Fields.get? value frequency.counts).getD 0
  { frequency with counts := Fields.insert value (count + 1) frequency.counts }

def valueOf (field : String) (record : Record) : Except Json.WriteFault String :=
  match record.get? field with
  | none => .ok missing
  | some value => value.canonical

def valueOf? (filters : List Filter) (field : String) (record : Record) :
    Except Json.WriteFault (Option String) := do
  if ← Filter.allHold filters record then return some (← valueOf field record) else return none

def step (label : String) (filters : List Filter) (field : String) (frequency : Frequency) :
    Item → Frequency
  | .malformed line fault =>
    if frequency.fault.isSome then frequency
    else { frequency with
      notices := frequency.notices ++ [.malformed label line fault] }
  | .record record =>
    if frequency.fault.isSome then frequency
    else match valueOf? filters field record with
      | .error fault => { frequency with fault := some fault }
      | .ok (some value) => frequency.add value
      | .ok none => frequency

def run (label : String) (filters : List Filter) (field : String) (items : List Item) :
    Frequency :=
  items.foldl (step label filters field) {}

-- The most frequent values first; values as frequent as each other in order of text.
def rows (frequency : Frequency) : List (String × Nat) :=
  frequency.counts.mergeSort fun a b => b.2 ≤ a.2

def rowText (row : String × Nat) : List Char :=
  row.1.toList ++ ':' :: ' ' :: (Nat.toDigits 10 row.2 ++ ['\n'])

def text (frequency : Frequency) : List Char :=
  frequency.rows.flatMap rowText

end Frequency

end LogSieve
