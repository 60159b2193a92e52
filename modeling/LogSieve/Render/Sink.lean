import LogSieve.Render.Line

namespace LogSieve

structure Sink where
  written : List (List Char) := []
  attempts : Nat := 0
  failing : List Nat := []
deriving Inhabited

namespace Sink

def brokenPipe : String := "broken pipe"

def text (sink : Sink) : List Char :=
  sink.written.flatten

def write (sink : Sink) (text : List Char) : Except String Unit × Sink :=
  let next := { sink with attempts := sink.attempts + 1 }
  if sink.failing.contains sink.attempts then (.error brokenPipe, next)
  else (.ok (), { next with written := sink.written ++ [text] })

-- Renders a record and writes it. A record that cannot be rendered is no write.
def put (sink : Sink) (renderer : Renderer) (record : Record) :
    Except RenderFault Unit × Sink :=
  match renderer.render record with
  | .error fault => (.error ⟨renderer.format, .unwritable fault⟩, sink)
  | .ok text =>
    match sink.write text with
    | (.ok (), sink) => (.ok (), sink)
    | (.error detail, sink) => (.error ⟨renderer.format, .sink detail⟩, sink)

end Sink

end LogSieve
