import LogSieve.Proofs.Log.Watch

namespace LogSieve

inductive ReadCall where
  | line
  | bytes (count : Option Nat)

def ByteStream.answer (stream : ByteStream) : ReadCall → Except ReadFault (List UInt8) × ByteStream
  | .line => stream.readLine
  | .bytes count => stream.read (count.getD stream.bytes.length)

def BufferedReader.answer (reader : BufferedReader) :
    ReadCall → Except ReadFault (List UInt8) × BufferedReader
  | .line => reader.readLine
  | .bytes count => reader.read count

def answers {σ : Type} (answer : σ → ReadCall → Except ReadFault (List UInt8) × σ) (source : σ) :
    List ReadCall → List (Except ReadFault (List UInt8))
  | [] => []
  | call :: rest => (answer source call).1 :: answers answer (answer source call).2 rest

namespace BufferedReader

-- One call on a buffered stream that ends is answered as on the bytes that are still to come, and
-- leaves of them what it leaves there.
theorem answer_spec {reader : BufferedReader} (h : reader.remaining.ending = .finished)
    (call : ReadCall) :
    (reader.answer call).1 = (reader.remaining.answer call).1 ∧
      (reader.answer call).2.remaining = (reader.remaining.answer call).2 ∧
      (reader.answer call).2.remaining.ending = .finished := by
  cases call with
  | line =>
    have hline := reader.readLine_spec
    simp only [answer, ByteStream.answer]
    -- How the bytes are spread over buffer and stream does not matter any more.
    generalize reader.remaining = stream at h hline
    obtain ⟨bytes, ending⟩ := stream
    obtain rfl : ending = .finished := h
    cases hfirst : firstLine? isNewlineByte bytes with
    | some found =>
      obtain ⟨line, rest⟩ := found
      rw [hfirst] at hline
      obtain ⟨next, hread, hnext⟩ := hline
      cases bytes with
      | nil => cases hfirst
      | cons b more => simp [ByteStream.readLine, hread, hnext, hfirst]
    | none =>
      rw [hfirst] at hline
      obtain ⟨next, hread, hnext⟩ := hline
      cases bytes with
      | nil => simp [ByteStream.readLine, ByteStream.atEnd, hread, hnext]
      | cons b more => simp [ByteStream.readLine, hread, hnext, hfirst]
  | bytes count =>
    obtain ⟨next, hread, hnext⟩ := read_spec count h
    simp only [answer, ByteStream.answer, hread, hnext]
    generalize reader.remaining = stream at h
    obtain ⟨bytes, ending⟩ := stream
    obtain rfl : ending = .finished := h
    cases bytes with
    | nil => simp [ByteStream.read, ByteStream.atEnd]
    | cons b more => simp [ByteStream.read]

theorem answers_eq {reader : BufferedReader} (h : reader.remaining.ending = .finished)
    (calls : List ReadCall) :
    answers answer reader calls = answers ByteStream.answer reader.remaining calls := by
  induction calls generalizing reader with
  | nil => rfl
  | cons call rest ih =>
    obtain ⟨hanswer, hleft, hending⟩ := answer_spec h call
    simp only [answers, hanswer, ih hending, hleft]

end BufferedReader

namespace Watch

variable {α : Type}

def withFormat (format : InputFormat) (watch : Watch α) : Watch α :=
  { watch with session := { watch.session with format := format } }

-- A reading that was begun goes on without a look at the format.
theorem next_withFormat (format : InputFormat) (watch : Watch α) {reading : Reading}
    (h : ∀ feed, reading ≠ .waiting feed) :
    (watch.withFormat format).next reading =
        ((watch.next reading).1, (watch.next reading).2.1,
          (watch.next reading).2.2.withFormat format) ∧
      ∀ feed, (watch.next reading).2.1 ≠ .waiting feed := by
  cases reading with
  | waiting feed => exact absurd rfl (h feed)
  | ended => exact ⟨rfl, by simp [next_ended]⟩
  | active scan =>
    rw [next_active, next_active]
    simp only [foldl_tell]
    refine ⟨rfl, ?_⟩
    intro feed
    split <;> simp

theorem calls_withFormat (format : InputFormat) (watch : Watch α) {reading : Reading}
    (h : ∀ feed, reading ≠ .waiting feed) (count : Nat) :
    (watch.withFormat format).calls reading count =
      ((watch.calls reading count).1, (watch.calls reading count).2.1,
        (watch.calls reading count).2.2.withFormat format) := by
  induction count generalizing watch reading with
  | zero => rfl
  | succ count ih =>
    obtain ⟨hnext, hbegun⟩ := watch.next_withFormat format h
    rw [calls_succ, calls_succ, hnext]
    simp only [ih _ hbegun]

section

variable {format : InputFormat} {watch : Watch α} {feed : Feed} {scan : Scan}
  {notices notices' : List Notice}
  (h : Session.begin watch.session.format feed = .ok (scan, notices))
  (h' : Session.begin format feed = .ok (scan, notices'))

include h h'

theorem calls_of_begin (count : Nat) :
    (watch.withFormat format).calls (.waiting feed) count =
      ((watch.calls (.waiting feed) count).1, (watch.calls (.waiting feed) count).2.1,
        (watch.calls (.waiting feed) count).2.2.withFormat format) := by
  cases count with
  | zero => rfl
  | succ count =>
    rw [calls_succ, calls_succ, next_of_begin h, next_of_begin h']
    have hcalls := calls_withFormat format
      { watch with session := { watch.session with detected := some scan.dialect } }
      (show ∀ feed, Reading.active scan ≠ .waiting feed by simp) (count + 1)
    rw [calls_succ, calls_succ] at hcalls
    exact hcalls

theorem parse_of_begin :
    (watch.withFormat format).parse feed =
      ((watch.parse feed).1, (watch.parse feed).2.withFormat format) := by
  simp only [parse, Session.parse, withFormat, h, h', foldl_tell]

theorem records_of_begin :
    (watch.withFormat format).records feed =
      ((watch.records feed).1, (watch.records feed).2.withFormat format) := by
  simp only [records, parse_of_begin h h']

end

end Watch

-- A stream that ends can be sniffed, whatever it holds and however it is delivered. Whoever then
-- reads it, line by line or by counts of bytes in any order, is answered as on the bytes
-- themselves. A parser that sniffs it gives the outcomes that one gives which was given the
-- dialect, all at once or call by call, and it counts and tells the same.
theorem sniff_transparent (bytes : List UInt8) (delivery : Delivery) :
    let stream : ByteStream := ⟨bytes, .finished⟩
    let feed := Feed.bytes stream delivery
    ∃ sniffed, sniff stream delivery = .ok sniffed ∧
      (∀ calls, answers BufferedReader.answer sniffed.reader calls =
        answers ByteStream.answer stream calls) ∧
      ∀ {α : Type} (listener : Option (α → Outcome → α)) (heard : α),
        let sniffing := Watch.ofFormat .auto listener heard
        let given := Watch.ofFormat (.fixed sniffed.dialect) listener heard
        (∃ outcomes, (given.parse feed).1 = .ok outcomes) ∧
        sniffing.parse feed = ((given.parse feed).1, (given.parse feed).2.withFormat .auto) ∧
        sniffing.records feed = ((given.records feed).1, (given.records feed).2.withFormat .auto) ∧
        ∀ count, sniffing.calls (.waiting feed) count =
          ((given.calls (.waiting feed) count).1, (given.calls (.waiting feed) count).2.1,
            (given.calls (.waiting feed) count).2.2.withFormat .auto) := by
  obtain ⟨sniffed, hsniff⟩ := @exists_sniff_of_finished bytes delivery
  refine ⟨sniffed, hsniff, ?_, ?_⟩
  · intro calls
    have hremaining := (sniff_spec hsniff).2
    rw [BufferedReader.answers_eq (by rw [hremaining]), hremaining]
  · intro α listener heard
    have hauto := Session.begin_of_sniff hsniff
    let given := Watch.ofFormat (.fixed sniffed.dialect) listener heard
    have hbegin : Session.begin given.session.format (.bytes ⟨bytes, .finished⟩ delivery) =
        .ok (.ofStream sniffed.dialect (ByteStream.mk bytes .finished).wholeLines, []) := rfl
    exact ⟨⟨_, rfl⟩, Watch.parse_of_begin hbegin hauto, Watch.records_of_begin hbegin hauto,
      Watch.calls_of_begin hbegin hauto⟩

end LogSieve
