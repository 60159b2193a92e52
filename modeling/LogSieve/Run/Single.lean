import LogSieve.Filter
import LogSieve.Log.Notice
import LogSieve.Render.Sink

namespace LogSieve

inductive Item where
  | record (record : Record)
  | malformed (line : Int) (fault : LineFault)

namespace Item

def ofOutcome (outcome : Outcome) : Item :=
  match outcome.result with
  | .ok entry => .record entry
  | .error fault => .malformed outcome.line fault

end Item

structure Report where
  matched : Nat := 0
  rendered : Nat := 0
  failures : Nat := 0
deriving DecidableEq

def Report.failed (report : Report) : Bool :=
  report.failures != 0

structure Pass where
  sink : Sink
  report : Report := {}
  notices : List Notice := []
  fault : Option Json.WriteFault := none

namespace Pass

def note (pass : Pass) (notice : Notice) : Pass :=
  { pass with notices := pass.notices ++ [notice] }

def render (renderer : Renderer) (pass : Pass) (record : Record) : Pass :=
  let report := { pass.report with matched := pass.report.matched + 1 }
  match pass.sink.put renderer record with
  | (.ok (), sink) =>
    { pass with sink := sink, report := { report with rendered := report.rendered + 1 } }
  | (.error fault, sink) =>
    { pass with
      sink := sink, report := { report with failures := report.failures + 1 } }.note
      (.unrendered fault)

-- Only a filter that meets a value without text ends a pass.
def step (label : String) (filters : List Filter) (renderer : Renderer) (pass : Pass) :
    Item → Pass
  | .malformed line fault =>
    if pass.fault.isSome then pass else pass.note (.malformed label line fault)
  | .record record =>
    if pass.fault.isSome then pass
    else match Filter.allHold filters record with
      | .error fault => { pass with fault := some fault }
      | .ok true => pass.render renderer record
      | .ok false => pass

def run (label : String) (filters : List Filter) (renderer : Renderer) (pass : Pass)
    (items : List Item) : Pass :=
  items.foldl (step label filters renderer) pass

end Pass

end LogSieve
