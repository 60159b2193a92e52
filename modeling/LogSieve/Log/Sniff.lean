import LogSieve.Log.Notice
import LogSieve.Stream.Replay
import LogSieve.Text.Blank

namespace LogSieve

structure SourceFault where
  message : String
  source : String := ""
deriving DecidableEq

def SourceFault.text (fault : SourceFault) : String :=
  if fault.source = "" then fault.message else fault.source ++ ": " ++ fault.message

namespace Sniff

-- A brace opens a line of JSON; an input without content counts as JSON too.
def dialectOf (line : List UInt8) : Dialect :=
  match line with
  | [] => .jsonLines
  | b :: _ => if b = '{'.toNat.toUInt8 then .jsonLines else .keyValue

-- What was read up to the first line that is not blank: the bytes, how many lines they are, that
-- line without white space at its ends, and the rest of the stream. `limit` bounds the lines.
def peek : Nat → ByteStream → Except ReadFault (List UInt8 × Nat × List UInt8 × ByteStream)
  | 0, stream => .ok ([], 0, [], stream)
  | limit + 1, stream =>
    match stream.readLine with
    | (.error fault, _) => .error fault
    | (.ok [], stream) => .ok ([], 0, [], stream)
    | (.ok line, stream) => do
      let content := trimBytes line
      if content = [] then
        let (bytes, lines, content, stream) ← peek limit stream
        .ok (line ++ bytes, lines + 1, content, stream)
      else .ok (line, 1, content, stream)

end Sniff

structure Sniffed where
  dialect : Dialect
  lines : Nat
  reader : BufferedReader

def Sniffed.notice (sniffed : Sniffed) : Notice :=
  .sniffed sniffed.dialect sniffed.lines

def sniff (stream : ByteStream) (delivery : Delivery := .whole) : Except SourceFault Sniffed :=
  match Sniff.peek (stream.bytes.length + 1) stream with
  | .error fault => .error { message := "auto-detecting input format: " ++ fault.detail }
  | .ok (bytes, lines, content, rest) =>
    .ok ⟨Sniff.dialectOf content, lines, .ofReplay ⟨bytes, rest, delivery⟩⟩

end LogSieve
