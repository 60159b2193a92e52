import LogSieve.Log.Scan
import LogSieve.Log.Sniff

namespace LogSieve

inductive Feed where
  | bytes (stream : ByteStream) (delivery : Delivery := .whole)
  | text (content : List Char) (ending : Ending)
  | lines (stream : LineStream)

inductive OpenFault where
  | source (fault : SourceFault)
  | notBytes
  | notStream
deriving DecidableEq

namespace Feed

def lineStream : Feed → LineStream
  | .bytes stream _ => stream.lines
  | .text content ending => .ofText content ending
  | .lines stream => stream

-- What can be sniffed: bytes. Text is found out not to be bytes at its first line with content, or
-- at its end once there is a line to put back.
def byteStream : Feed → Except OpenFault ByteStream
  | .bytes stream _ => .ok stream
  | .text [] ending => .ok ⟨[], ending⟩
  | .text content (.failed fault) =>
    if content.all isBlank then .ok ⟨[], .failed fault⟩ else .error .notBytes
  | .text _ .finished => .error .notBytes
  | .lines _ => .error .notStream

def delivery : Feed → Delivery
  | .bytes _ delivery => delivery
  | _ => .whole

end Feed

inductive Reading where
  | waiting (feed : Feed)
  | active (scan : Scan)
  | ended

structure Session where
  format : InputFormat
  detected : Option Dialect := none
  tally : Tally := {}

namespace Session

def begin (format : InputFormat) (feed : Feed) :
    Except OpenFault (Scan × List Notice) :=
  match format with
  | .fixed dialect => .ok (.ofStream dialect feed.lineStream, [])
  | .auto => do
    let sniffed ← (sniff (← feed.byteStream) feed.delivery).mapError .source
    return (.ofStream sniffed.dialect sniffed.reader.lines, [sniffed.notice])

def advance (session : Session) (scan : Scan) : Option Outcome × Reading × Session :=
  let (outcome, scan, tally) := scan.next session.tally
  (outcome, if outcome.isNone then .ended else .active scan, { session with tally := tally })

-- The next outcome of a reading; none at its end. Nothing is read before the first.
def next (session : Session) : Reading → Except OpenFault (Option Outcome) × Reading × Session
  | .ended => (.ok none, .ended, session)
  | .active scan =>
    let (outcome, reading, session) := session.advance scan
    (.ok outcome, reading, session)
  | .waiting feed =>
    match begin session.format feed with
    | .error fault => (.error fault, .ended, session)
    | .ok (scan, _) =>
      let (outcome, reading, session) :=
        { session with detected := some scan.dialect }.advance scan
      (.ok outcome, reading, session)

def parse (session : Session) (feed : Feed) :
    Except OpenFault (List Outcome × List Notice) × Session :=
  match begin session.format feed with
  | .error fault => (.error fault, session)
  | .ok (scan, notices) =>
    let (outcomes, tally) := scan.run session.tally
    (.ok (outcomes.map Prod.fst, notices),
      { session with detected := some scan.dialect, tally := tally })

end Session

-- A parser with someone who is told of every outcome without a record, if anyone is, and what came
-- of telling.
structure Watch (α : Type) where
  session : Session
  listener : Option (α → Outcome → α)
  heard : α

namespace Watch

variable {α : Type}

def ofFormat (format : InputFormat) (listener : Option (α → Outcome → α)) (heard : α) : Watch α :=
  ⟨{ format := format }, listener, heard⟩

def tell (watch : Watch α) (outcome : Outcome) : Watch α :=
  match watch.listener with
  | some listen =>
    if outcome.isValid then watch else { watch with heard := listen watch.heard outcome }
  | none => watch

def next (watch : Watch α) (reading : Reading) :
    Except OpenFault (Option Outcome) × Reading × Watch α :=
  let (answer, reading, session) := watch.session.next reading
  let watch := { watch with session := session }
  match answer with
  | .ok (some outcome) => (answer, reading, watch.tell outcome)
  | _ => (answer, reading, watch)

def parse (watch : Watch α) (feed : Feed) : Except OpenFault (List Outcome) × Watch α :=
  match watch.session.parse feed with
  | (.error fault, session) => (.error fault, { watch with session := session })
  | (.ok (outcomes, _), session) =>
    (.ok outcomes, outcomes.foldl tell { watch with session := session })

def records (watch : Watch α) (feed : Feed) : Except OpenFault (List Record) × Watch α :=
  let (answer, watch) := watch.parse feed
  (answer.map (·.filterMap Outcome.record?), watch)

end Watch

end LogSieve
