import LogSieve.Stream.Basic

namespace LogSieve

-- What can be asked for bytes: at most as many as are asked for come, and none only at the end.
class ByteSource (σ : Type) where
  read : σ → Nat → Except ReadFault (List UInt8) × σ

instance : ByteSource ByteStream := ⟨ByteStream.read⟩

-- How a stream answers reads. One that waits gives all that is asked for, as far as it has that.
-- One that does not wait gives what is at hand, a portion for each read: a byte at least, and behind
-- the last portion everything.
inductive Delivery where
  | whole
  | portions (sizes : List Nat)
deriving Inhabited

def Delivery.next : Delivery → Nat → Nat × Delivery
  | .whole, size => (size, .whole)
  | .portions [], size => (size, .portions [])
  | .portions (portion :: rest), size => (min size (max 1 portion), .portions rest)

structure Pipe where
  stream : ByteStream
  delivery : Delivery
deriving Inhabited

def Pipe.read (pipe : Pipe) (size : Nat) : Except ReadFault (List UInt8) × Pipe :=
  let (size, delivery) := pipe.delivery.next size
  let (answer, stream) := pipe.stream.read size
  (answer, ⟨stream, delivery⟩)

instance : ByteSource Pipe := ⟨Pipe.read⟩

structure Replay (σ : Type) where
  pending : List UInt8
  source : σ
deriving Inhabited

-- Fills a buffer of some size as far as one read does. The source is asked only when nothing is
-- left to deliver once more.
def Replay.readInto {σ : Type} [ByteSource σ] (replay : Replay σ) (size : Nat) :
    Except ReadFault (List UInt8) × Replay σ :=
  match replay.pending with
  | [] =>
    let (answer, source) := ByteSource.read replay.source size
    (answer, ⟨[], source⟩)
  | pending => (.ok (pending.take size), ⟨pending.drop size, replay.source⟩)

structure BufferedReader where
  buffer : List UInt8
  raw : Replay Pipe
deriving Inhabited

namespace BufferedReader

def bufferSize : Nat := 8192

def ofReplay (raw : Replay Pipe) : BufferedReader :=
  ⟨[], raw⟩

def behind (reader : BufferedReader) : Nat :=
  reader.raw.pending.length + reader.raw.source.stream.bytes.length

theorem readInto_shrinks {raw raw' : Replay Pipe} {size : Nat} {b : UInt8} {chunk : List UInt8}
    (h : raw.readInto size = (.ok (b :: chunk), raw')) :
    raw'.pending.length + raw'.source.stream.bytes.length <
      raw.pending.length + raw.source.stream.bytes.length := by
  obtain ⟨pending, pipe⟩ := raw
  cases pending with
  | nil =>
    simp only [Replay.readInto, ByteSource.read, Pipe.read, Prod.mk.injEq] at h
    obtain ⟨hanswer, rfl⟩ := h
    simpa using ByteStream.read_shrinks hanswer
  | cons c pending =>
    cases size with
    | zero => simp [Replay.readInto] at h
    | succ size =>
      simp only [Replay.readInto, Prod.mk.injEq] at h
      obtain ⟨-, rfl⟩ := h
      simp only [List.drop_succ_cons, List.length_drop, List.length_cons]
      omega

-- The next line, or the rest where no line break is left. What is buffered when a read fails is
-- lost.
def readLine (reader : BufferedReader) : Except ReadFault (List UInt8) × BufferedReader :=
  match firstLine? isNewlineByte reader.buffer with
  | some (line, rest) => (.ok line, { reader with buffer := rest })
  | none =>
    match _h : reader.raw.readInto bufferSize with
    | (.error fault, raw) => (.error fault, ⟨[], raw⟩)
    | (.ok [], raw) => (.ok reader.buffer, ⟨[], raw⟩)
    | (.ok (b :: chunk), raw) => readLine ⟨reader.buffer ++ b :: chunk, raw⟩
termination_by reader.behind
decreasing_by exact readInto_shrinks _h

def read (reader : BufferedReader) (count : Option Nat) :
    Except ReadFault (List UInt8) × BufferedReader :=
  match count.filter (· ≤ reader.buffer.length) with
  | some n => (.ok (reader.buffer.take n), { reader with buffer := reader.buffer.drop n })
  | none =>
    match _h : reader.raw.readInto bufferSize with
    | (.error fault, raw) => (.error fault, ⟨[], raw⟩)
    | (.ok [], raw) => (.ok reader.buffer, ⟨[], raw⟩)
    | (.ok (b :: chunk), raw) => read ⟨reader.buffer ++ b :: chunk, raw⟩ count
termination_by reader.behind
decreasing_by exact readInto_shrinks _h

def linesWithin : Nat → BufferedReader → LineStream
  | 0, _ => ⟨[], .finished⟩
  | limit + 1, reader =>
    match reader.readLine with
    | (.error fault, _) => ⟨[], .failed fault⟩
    | (.ok [], _) => ⟨[], .finished⟩
    | (.ok line, reader) =>
      let rest := linesWithin limit reader
      ⟨.bytes line :: rest.lines, rest.ending⟩

def lines (reader : BufferedReader) : LineStream :=
  linesWithin (reader.buffer.length + reader.behind + 1) reader

end BufferedReader

end LogSieve
