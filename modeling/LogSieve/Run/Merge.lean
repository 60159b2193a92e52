import LogSieve.Log.Scan
import LogSieve.Log.Sniff
import LogSieve.Time.Timestamp

namespace LogSieve

structure Merged where
  record : Record
  source : String
  timestamp : Option DateTime

namespace Merged

-- A record without a timestamp stands at the earliest instant.
def key (merged : Merged) : DateTime :=
  merged.timestamp.getD .earliest

def notLater (a b : Merged) : Bool :=
  a.key.instant ≤ b.key.instant

def ofRecord (source : String) (record : Record) : Except Json.WriteFault Merged := do
  let tagged := record.withSource source
  return ⟨tagged, source, ← tagged.timestamp?⟩

end Merged

-- What loading a source gives: its records unless one of them ends it, the counts, and the notices.
structure Loaded where
  entries : Except Json.WriteFault (List Merged)
  tally : Tally
  notices : List Notice

namespace Merge

def collect (label : String) : List (Outcome × Tally) → Tally → Loaded
  | [], final => ⟨.ok [], final, []⟩
  | (outcome, tally) :: rest, final =>
    match outcome.result with
    | .error fault =>
      let loaded := collect label rest final
      { loaded with notices := .malformed label outcome.line fault :: loaded.notices }
    | .ok record =>
      match Merged.ofRecord label record with
      | .error fault => ⟨.error fault, tally, []⟩
      | .ok entry =>
        let loaded := collect label rest final
        { loaded with entries := loaded.entries.map (entry :: ·) }

def load (label : String) (scan : Scan) (tally : Tally) : Loaded :=
  let (outcomes, final) := scan.run tally
  let loaded := collect label outcomes final
  match loaded.entries with
  | .ok entries =>
    { loaded with notices := loaded.notices ++ [.loaded entries.length label] }
  | .error _ => loaded

inductive Fault where
  | source (fault : SourceFault)
  | unwritable (fault : Json.WriteFault)
deriving DecidableEq

structure Result where
  entries : Except Fault (List Merged)
  tally : Tally
  notices : List Notice

def loadAll : List (String × ByteStream) → Tally → Result
  | [], tally => ⟨.ok [], tally, []⟩
  | (label, stream) :: rest, tally =>
    match sniff stream with
    | .error fault => ⟨.error (.source fault), tally, []⟩
    | .ok sniffed =>
      let loaded := load label (.ofStream sniffed.dialect sniffed.reader.lines) tally
      let notices := sniffed.notice :: loaded.notices
      match loaded.entries with
      | .error fault => ⟨.error (.unwritable fault), loaded.tally, notices⟩
      | .ok entries =>
        let more := loadAll rest loaded.tally
        ⟨more.entries.map (entries ++ ·), more.tally, notices ++ more.notices⟩

def sort (entries : List Merged) : List Merged :=
  entries.mergeSort Merged.notLater

def run (sources : List (String × ByteStream)) : Result :=
  let result := loadAll sources {}
  { result with entries := result.entries.map sort }

end Merge

end LogSieve
