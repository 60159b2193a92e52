import LogSieve.Proofs.Log.Watch

namespace LogSieve

namespace LineStream

-- The lines with content, without the white space at their ends, and their numbers, counted from
-- `first`.
def contentFrom (first : Nat) (lines : List RawLine) : List (List Char × Nat) :=
  ((lines.map fun raw => trim raw.decode).zipIdx first).filter fun line => line.1 ≠ []

def content (stream : LineStream) : List (List Char × Nat) :=
  contentFrom 1 stream.lines

theorem contentFrom_cons (first : Nat) (raw : RawLine) (rest : List RawLine) :
    contentFrom first (raw :: rest) =
      if trim raw.decode = [] then contentFrom (first + 1) rest
      else (trim raw.decode, first) :: contentFrom (first + 1) rest := by
  simp only [contentFrom, List.map_cons, List.zipIdx_cons, List.filter_cons]
  by_cases h : trim raw.decode = [] <;> simp [h]

end LineStream

namespace Scan

-- What a stream's ending adds to the outcomes: nothing, or that the line behind `taken` others
-- could not be read.
def endingOutcomes (taken : Nat) : Ending → List Outcome
  | .finished => []
  | .failed fault => [⟨taken + 1, .error (.unreadable fault.detail)⟩]

theorem outcomes_runOf (dialect : Dialect) (ending : Ending) (lines : List RawLine) (taken : Nat)
    (tally : Tally) :
    (runOf dialect ending lines taken tally).1.map Prod.fst =
      (LineStream.contentFrom (taken + 1) lines).map
          (fun line => ⟨line.2, dialect.readLine line.1⟩) ++
        endingOutcomes (taken + lines.length) ending := by
  induction lines generalizing taken tally with
  | nil => cases ending <;> rfl
  | cons raw rest ih =>
    have hlength : taken + (raw :: rest).length = taken + 1 + rest.length := by
      rw [List.length_cons]
      omega
    rw [runOf, LineStream.contentFrom_cons, hlength]
    by_cases h : trim raw.decode = []
    · simp only [h, if_true]
      exact ih _ _
    · simp only [h, if_false, List.map_cons, ih]
      rfl

theorem outcomes_run (dialect : Dialect) (stream : LineStream) (tally : Tally) :
    ((ofStream dialect stream).run tally).1.map Prod.fst =
      stream.content.map (fun line => ⟨line.2, dialect.readLine line.1⟩) ++
        endingOutcomes stream.lines.length stream.ending := by
  rw [run, ofStream, outcomes_runOf]
  simp only [Nat.zero_add]
  rfl

end Scan

def InputFormat.dialectOf (stream : ByteStream) : InputFormat → Dialect
  | .auto => stream.dialect
  | .fixed dialect => dialect

namespace ByteStream

def outcomesIn (format : InputFormat) (stream : ByteStream) : List Outcome :=
  stream.lines.content.map fun line => ⟨line.2, (format.dialectOf stream).readLine line.1⟩

def recordsIn (format : InputFormat) (stream : ByteStream) : List Record :=
  (stream.outcomesIn format).filterMap Outcome.record?

end ByteStream

-- The outcomes of a stream of bytes that ends, whatever it holds. Only sniffing is reported, and it
-- matters little.
theorem Session.exists_parse_outcomesIn (format : InputFormat) (bytes : List UInt8) :
    let stream : ByteStream := ⟨bytes, .finished⟩
    ∃ notices : List Notice,
      (Session.parse { format := format } (.bytes stream)).1 =
        .ok (stream.outcomesIn format, notices) ∧
      ∀ notice ∈ notices, notice.severity = .debug := by
  intro stream
  obtain ⟨notices, hbegin, hnotices⟩ : ∃ notices : List Notice,
      begin format (.bytes stream) =
        .ok (.ofStream (format.dialectOf stream) stream.lines, notices) ∧
      ∀ notice ∈ notices, notice.severity = .debug := by
    cases format with
    | fixed dialect => exact ⟨[], rfl, by simp⟩
    | auto =>
      obtain ⟨sniffed, hsniff⟩ := @exists_sniff_of_finished bytes .whole
      refine ⟨[sniffed.notice], ?_, by simp [Sniffed.notice, Notice.severity]⟩
      rw [begin_of_sniff hsniff, (sniff_spec hsniff).1]
      rfl
  have hending : stream.lines.ending = .finished := rfl
  refine ⟨notices, ?_, hnotices⟩
  simp only [parse, hbegin, Scan.outcomes_run, hending, Scan.endingOutcomes, List.append_nil,
    ByteStream.outcomesIn]

end LogSieve
