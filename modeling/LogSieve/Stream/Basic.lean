import LogSieve.Text.Utf8

namespace LogSieve

structure ReadFault where
  detail : String
deriving DecidableEq

-- A stream that fails does so where it would otherwise report its end.
inductive Ending where
  | finished
  | failed (fault : ReadFault)
deriving DecidableEq, Inhabited

-- A list cut behind every line break; the last piece may lack one.
def splitLines {α : Type} (isBreak : α → Bool) : List α → List (List α)
  | [] => []
  | c :: rest =>
    if isBreak c then [c] :: splitLines isBreak rest
    else
      match splitLines isBreak rest with
      | [] => [[c]]
      | line :: lines => (c :: line) :: lines

def firstLine? {α : Type} (isBreak : α → Bool) : List α → Option (List α × List α)
  | [] => none
  | c :: rest =>
    if isBreak c then some ([c], rest)
    else (firstLine? isBreak rest).map fun (line, rest) => (c :: line, rest)

def isNewlineByte (b : UInt8) : Bool :=
  b == 10

def isNewline (c : Char) : Bool :=
  c == '\n'

inductive RawLine where
  | bytes (content : List UInt8)
  | text (content : List Char)

def RawLine.decode : RawLine → List Char
  | .bytes content => Utf8.decode content
  | .text content => content

structure LineStream where
  lines : List RawLine
  ending : Ending

def LineStream.ofText (text : List Char) (ending : Ending) : LineStream :=
  ⟨(splitLines isNewline text).map .text, ending⟩

structure ByteStream where
  bytes : List UInt8
  ending : Ending
deriving Inhabited

namespace ByteStream

def atEnd (stream : ByteStream) : Except ReadFault (List UInt8) :=
  match stream.ending with
  | .finished => .ok []
  | .failed fault => .error fault

def read (stream : ByteStream) (size : Nat) : Except ReadFault (List UInt8) × ByteStream :=
  match stream.bytes with
  | [] => (stream.atEnd, stream)
  | bytes => (.ok (bytes.take size), { stream with bytes := bytes.drop size })

theorem read_shrinks {stream : ByteStream} {size : Nat} {b : UInt8} {chunk : List UInt8}
    (h : (stream.read size).1 = .ok (b :: chunk)) :
    (stream.read size).2.bytes.length < stream.bytes.length := by
  obtain ⟨bytes, ending⟩ := stream
  cases bytes with
  | nil => cases ending <;> simp [read, atEnd] at h
  | cons c bytes =>
    cases size with
    | zero => simp [read] at h
    | succ size =>
      simp only [read, List.drop_succ_cons, List.length_drop, List.length_cons]
      omega

def readLine (stream : ByteStream) : Except ReadFault (List UInt8) × ByteStream :=
  match stream.bytes with
  | [] => (stream.atEnd, stream)
  | bytes =>
    let (line, rest) := (firstLine? isNewlineByte bytes).getD (bytes, [])
    (.ok line, { stream with bytes := rest })

def lines (stream : ByteStream) : LineStream :=
  ⟨(splitLines isNewlineByte stream.bytes).map .bytes, stream.ending⟩

end ByteStream

end LogSieve
