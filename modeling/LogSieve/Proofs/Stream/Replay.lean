import LogSieve.Log.Sniff
import LogSieve.Proofs.Stream.Lines

namespace LogSieve

-- The lines of a stream that reading through a buffer delivers: all of them if it ends, those that
-- are complete if it fails.
def ByteStream.wholeLines (stream : ByteStream) : LineStream :=
  match stream.ending with
  | .finished => stream.lines
  | .failed fault =>
    ⟨((splitLines isNewlineByte stream.bytes).filter (·.any isNewlineByte)).map .bytes,
      .failed fault⟩

namespace ByteStream

theorem wholeLines_of_firstLine? {bytes line rest : List UInt8} (ending : Ending)
    (h : firstLine? isNewlineByte bytes = some (line, rest)) :
    wholeLines ⟨bytes, ending⟩ =
      ⟨.bytes line :: (wholeLines ⟨rest, ending⟩).lines, (wholeLines ⟨rest, ending⟩).ending⟩ := by
  have hbreak := any_of_firstLine? h
  cases ending <;> simp [wholeLines, lines, splitLines_of_firstLine? h, hbreak]

theorem wholeLines_finished {bytes : List UInt8} (h : firstLine? isNewlineByte bytes = none)
    (hne : bytes ≠ []) : wholeLines ⟨bytes, .finished⟩ = ⟨[.bytes bytes], .finished⟩ := by
  simp [wholeLines, lines, splitLines_of_forall hne (firstLine?_eq_none h)]

theorem wholeLines_failed {bytes : List UInt8} (fault : ReadFault)
    (h : firstLine? isNewlineByte bytes = none) :
    wholeLines ⟨bytes, .failed fault⟩ = ⟨[], .failed fault⟩ := by
  have hnone := firstLine?_eq_none h
  have hbreak : bytes.any isNewlineByte = false := by simpa using hnone
  cases bytes with
  | nil => rfl
  | cons b more =>
    have hsplit := splitLines_of_forall (List.cons_ne_nil b more) hnone
    simp only [wholeLines, hsplit, List.filter_cons, hbreak, Bool.false_eq_true, if_false,
      List.filter_nil, List.map_nil]

theorem read_some {stream rest : ByteStream} {size : Nat} {chunk : List UInt8}
    (h : stream.read size = (.ok chunk, rest)) :
    chunk ++ rest.bytes = stream.bytes ∧ rest.ending = stream.ending := by
  obtain ⟨bytes, ending⟩ := stream
  cases bytes with
  | cons b bytes =>
    cases h
    simp
  | nil =>
    cases ending with
    | finished =>
      cases h
      simp
    | failed fault => simp [read, atEnd] at h

theorem read_nil {stream rest : ByteStream} {size : Nat} (hsize : 0 < size)
    (h : stream.read size = (.ok [], rest)) : stream.bytes = [] ∧ stream.ending = .finished := by
  obtain ⟨bytes, ending⟩ := stream
  obtain ⟨size, rfl⟩ := Nat.exists_eq_succ_of_ne_zero (Nat.ne_of_gt hsize)
  cases bytes with
  | cons b bytes => simp [read] at h
  | nil =>
    cases ending with
    | finished => simp
    | failed fault => simp [read, atEnd] at h

theorem read_error {stream rest : ByteStream} {size : Nat} {fault : ReadFault}
    (h : stream.read size = (.error fault, rest)) :
    stream.bytes = [] ∧ stream.ending = .failed fault := by
  obtain ⟨bytes, ending⟩ := stream
  cases bytes with
  | cons b bytes => simp [read] at h
  | nil =>
    cases ending with
    | finished => simp [read, atEnd] at h
    | failed fault' =>
      cases h
      simp

end ByteStream

theorem Delivery.next_pos {size : Nat} (delivery : Delivery) (h : 0 < size) :
    0 < (delivery.next size).1 := by
  cases delivery with
  | whole => exact h
  | portions sizes =>
    cases sizes with
    | nil => exact h
    | cons portion rest =>
      simp only [next]
      omega

namespace BufferedReader

-- All bytes that are still to come: the buffer, what is delivered once more, and the source.
def remaining (reader : BufferedReader) : ByteStream :=
  ⟨reader.buffer ++ (reader.raw.pending ++ reader.raw.source.stream.bytes),
    reader.raw.source.stream.ending⟩

theorem length_remaining (reader : BufferedReader) :
    reader.remaining.bytes.length = reader.buffer.length + reader.behind := by
  simp [remaining, behind]

theorem readInto_pipe {pipe : Pipe} {raw : Replay Pipe} {size : Nat}
    {answer : Except ReadFault (List UInt8)}
    (h : Replay.readInto (⟨[], pipe⟩ : Replay Pipe) size = (answer, raw)) :
    pipe.stream.read (pipe.delivery.next size).1 = (answer, raw.source.stream) ∧
      raw.pending = [] := by
  simp only [Replay.readInto, ByteSource.read, Pipe.read, Prod.mk.injEq] at h
  obtain ⟨rfl, rfl⟩ := h
  exact ⟨rfl, rfl⟩

theorem readInto_some {raw raw' : Replay Pipe} {size : Nat} {chunk : List UInt8}
    (h : raw.readInto size = (.ok chunk, raw')) :
    chunk ++ (raw'.pending ++ raw'.source.stream.bytes) =
        raw.pending ++ raw.source.stream.bytes ∧
      raw'.source.stream.ending = raw.source.stream.ending := by
  obtain ⟨pending, pipe⟩ := raw
  cases pending with
  | cons b pending =>
    cases h
    simp [← List.append_assoc]
  | nil =>
    obtain ⟨hread, hpending⟩ := readInto_pipe h
    rw [hpending]
    exact ByteStream.read_some hread

theorem readInto_nil {raw raw' : Replay Pipe} {size : Nat} (hsize : 0 < size)
    (h : raw.readInto size = (.ok [], raw')) :
    raw.pending ++ raw.source.stream.bytes = [] ∧ raw.source.stream.ending = .finished := by
  obtain ⟨pending, pipe⟩ := raw
  obtain ⟨size, rfl⟩ := Nat.exists_eq_succ_of_ne_zero (Nat.ne_of_gt hsize)
  cases pending with
  | cons b pending => simp [Replay.readInto] at h
  | nil => exact ByteStream.read_nil (pipe.delivery.next_pos hsize) (readInto_pipe h).1

theorem readInto_error {raw raw' : Replay Pipe} {size : Nat} {fault : ReadFault}
    (h : raw.readInto size = (.error fault, raw')) :
    raw.pending ++ raw.source.stream.bytes = [] ∧ raw.source.stream.ending = .failed fault := by
  obtain ⟨pending, pipe⟩ := raw
  cases pending with
  | cons b pending => simp [Replay.readInto] at h
  | nil => exact ByteStream.read_error (readInto_pipe h).1

theorem remaining_readInto {reader : BufferedReader} {raw : Replay Pipe} {size : Nat}
    {chunk : List UInt8} (h : reader.raw.readInto size = (.ok chunk, raw)) :
    remaining ⟨reader.buffer ++ chunk, raw⟩ = reader.remaining := by
  obtain ⟨hsame, hsource⟩ := readInto_some h
  simp only [remaining, List.append_assoc, hsame, hsource]

theorem readLine_of_firstLine?_eq_none {reader : BufferedReader}
    (h : firstLine? isNewlineByte reader.buffer = none) :
    reader.readLine =
      match reader.raw.readInto bufferSize with
      | (.error fault, raw) => (.error fault, ⟨[], raw⟩)
      | (.ok [], raw) => (.ok reader.buffer, ⟨[], raw⟩)
      | (.ok (b :: chunk), raw) => readLine ⟨reader.buffer ++ b :: chunk, raw⟩ := by
  rw [readLine, h]
  simp only
  split
  · rename_i hread
    rw [hread]
  · rename_i hread
    rw [hread]
  · rename_i hread
    rw [hread]

-- What reading a line gives, in terms of the bytes that are still to come.
theorem readLine_spec (reader : BufferedReader) :
    match firstLine? isNewlineByte reader.remaining.bytes, reader.remaining.ending with
    | some (line, rest), ending =>
      ∃ next, reader.readLine = (.ok line, next) ∧ next.remaining = ⟨rest, ending⟩
    | none, .finished =>
      ∃ next, reader.readLine = (.ok reader.remaining.bytes, next) ∧
        next.remaining = ⟨[], .finished⟩
    | none, .failed fault => ∃ next, reader.readLine = (.error fault, next) := by
  induction reader using readLine.induct with
  | case1 reader line rest hline =>
    have hmore := firstLine?_append_of_some (reader.raw.pending ++ reader.raw.source.stream.bytes) hline
    rw [readLine]
    simp [remaining, hline, hmore]
  | case2 reader hline fault raw hread =>
    obtain ⟨hempty, hending⟩ := readInto_error hread
    rw [readLine_of_firstLine?_eq_none hline, hread]
    simp [remaining, hline, hempty, hending]
  | case3 reader hline raw hread =>
    obtain ⟨hempty, hending⟩ := readInto_nil (by decide) hread
    obtain ⟨hsame, hsource⟩ := readInto_some hread
    rw [hempty] at hsame
    rw [hending] at hsource
    rw [readLine_of_firstLine?_eq_none hline, hread]
    simp only [remaining, hempty, hending, List.append_nil, hline]
    exact ⟨_, rfl, by simpa [hsource] using hsame⟩
  | case4 reader hline b chunk raw hread ih =>
    rw [remaining_readInto hread] at ih
    rw [readLine_of_firstLine?_eq_none hline, hread]
    exact ih

theorem read_of_filter_eq_none {reader : BufferedReader} {count : Option Nat}
    (h : count.filter (· ≤ reader.buffer.length) = none) :
    reader.read count =
      match reader.raw.readInto bufferSize with
      | (.error fault, raw) => (.error fault, ⟨[], raw⟩)
      | (.ok [], raw) => (.ok reader.buffer, ⟨[], raw⟩)
      | (.ok (b :: chunk), raw) => read ⟨reader.buffer ++ b :: chunk, raw⟩ count := by
  rw [read, h]
  simp only
  split
  · rename_i hread
    rw [hread]
  · rename_i hread
    rw [hread]
  · rename_i hread
    rw [hread]

theorem read_spec {reader : BufferedReader} (count : Option Nat)
    (hending : reader.remaining.ending = .finished) :
    ∃ next, reader.read count =
        (.ok (reader.remaining.bytes.take (count.getD reader.remaining.bytes.length)), next) ∧
      next.remaining =
        ⟨reader.remaining.bytes.drop (count.getD reader.remaining.bytes.length), .finished⟩ := by
  -- Reading goes on until the buffer holds enough; the bytes to come stay the same.
  induction reader using read.induct count with
  | case1 reader n hcount =>
    obtain ⟨rfl, hn⟩ := Option.filter_eq_some_iff.mp hcount
    have hn : n ≤ reader.buffer.length := by simpa using hn
    refine ⟨{ reader with buffer := reader.buffer.drop n }, ?_, ?_⟩
    · rw [read, hcount, Option.getD_some, remaining, List.take_append_of_le_length hn]
    · simp only [remaining] at hending
      simp only [remaining, Option.getD_some, List.drop_append_of_le_length hn, hending]
  | case2 reader hcount fault raw hread =>
    obtain ⟨-, hfailed⟩ := readInto_error hread
    cases hfailed.symm.trans hending
  | case3 reader hcount raw hread =>
    obtain ⟨hempty, -⟩ := readInto_nil (by decide) hread
    obtain ⟨hsame, hsource⟩ := readInto_some hread
    have hbytes : reader.remaining.bytes = reader.buffer := by
      simp only [remaining, hempty, List.append_nil]
    have hwanted : reader.buffer.length ≤ count.getD reader.buffer.length := by
      cases count with
      | none => exact Nat.le_refl _
      | some n =>
        have hn := Option.filter_eq_none_iff.mp hcount n rfl
        simp only [decide_eq_true_eq, Nat.not_le] at hn
        exact Nat.le_of_lt hn
    refine ⟨⟨[], raw⟩, ?_, ?_⟩
    · rw [read_of_filter_eq_none hcount, hread, hbytes, List.take_of_length_le hwanted]
    · rw [hbytes, List.drop_eq_nil_of_le hwanted]
      simp only [remaining] at hending
      rw [hempty, List.nil_append] at hsame
      simp only [remaining, hsource, hending, hsame, List.nil_append]
  | case4 reader hcount b chunk raw hread ih =>
    rw [remaining_readInto hread] at ih
    rw [read_of_filter_eq_none hcount, hread]
    exact ih hending

theorem linesWithin_eq_wholeLines {limit : Nat} {reader : BufferedReader}
    (h : reader.remaining.bytes.length < limit) :
    linesWithin limit reader = reader.remaining.wholeLines := by
  -- Every line takes a byte off what is to come, so the limit is never what ends the reading.
  induction limit generalizing reader with
  | zero => omega
  | succ limit ih =>
    have hline := readLine_spec reader
    generalize reader.remaining = stream at h hline
    obtain ⟨bytes, ending⟩ := stream
    simp only at h hline
    cases hfirst : firstLine? isNewlineByte bytes with
    | some found =>
      obtain ⟨line, rest⟩ := found
      obtain ⟨happend, hne⟩ := append_of_firstLine? hfirst
      rw [hfirst] at hline
      obtain ⟨next, hread, hnext⟩ := hline
      obtain ⟨b, line, rfl⟩ := List.exists_cons_of_ne_nil hne
      have hshort : next.remaining.bytes.length < limit := by
        rw [← happend] at h
        simp only [hnext, List.length_append, List.length_cons] at h ⊢
        omega
      rw [ByteStream.wholeLines_of_firstLine? ending hfirst, ← hnext, ← ih hshort]
      simp only [linesWithin, hread]
    | none =>
      rw [hfirst] at hline
      -- Without a line break the ending decides whether the rest is a line.
      cases ending with
      | failed fault =>
        obtain ⟨next, hread⟩ := hline
        rw [ByteStream.wholeLines_failed fault hfirst]
        simp only [linesWithin, hread]
      | finished =>
        obtain ⟨next, hread, hnext⟩ := hline
        cases bytes with
        | nil =>
          simp only [linesWithin, hread]
          rfl
        | cons b more =>
          have hshort : next.remaining.bytes.length < limit := by
            simp only [hnext, List.length_cons, List.length_nil] at h ⊢
            omega
          rw [ByteStream.wholeLines_finished hfirst (List.cons_ne_nil b more)]
          simp only [linesWithin, hread, ih hshort, hnext]
          rfl

theorem lines_eq_wholeLines (reader : BufferedReader) :
    reader.lines = reader.remaining.wholeLines := by
  rw [lines]
  apply linesWithin_eq_wholeLines
  rw [length_remaining]
  omega

end BufferedReader

namespace ByteStream

def firstContent (stream : ByteStream) : List UInt8 :=
  (((splitLines isNewlineByte stream.bytes).map trimBytes).find? (· != [])).getD []

theorem readLine_spec {stream rest : ByteStream} {line : List UInt8}
    (h : stream.readLine = (.ok line, rest)) :
    line ++ rest.bytes = stream.bytes ∧ rest.ending = stream.ending ∧
      if line = [] then stream.bytes = []
      else splitLines isNewlineByte stream.bytes = line :: splitLines isNewlineByte rest.bytes := by
  obtain ⟨bytes, ending⟩ := stream
  cases bytes with
  | nil =>
    cases ending with
    | finished =>
      cases h
      simp
    | failed fault => simp [readLine, atEnd] at h
  | cons b more =>
    simp only [readLine] at h
    cases hfirst : firstLine? isNewlineByte (b :: more) with
    | none =>
      rw [hfirst] at h
      cases h
      simp only [Option.getD_none]
      refine ⟨List.append_nil _, trivial, ?_⟩
      rw [if_neg (List.cons_ne_nil b more)]
      exact splitLines_of_forall (List.cons_ne_nil b more) (firstLine?_eq_none hfirst)
    | some found =>
      obtain ⟨happend, hne⟩ := append_of_firstLine? hfirst
      rw [hfirst] at h
      cases h
      simp only [Option.getD_some]
      refine ⟨happend, trivial, ?_⟩
      rw [if_neg hne]
      exact splitLines_of_firstLine? hfirst

end ByteStream

-- What was read to sniff a stream, in front of its rest, is the stream, and what was found in it
-- is its first content.
theorem Sniff.peek_spec {limit : Nat} {stream rest : ByteStream} {bytes content : List UInt8}
    {lines : Nat} (hlimit : stream.bytes.length < limit)
    (h : peek limit stream = .ok (bytes, lines, content, rest)) :
    bytes ++ rest.bytes = stream.bytes ∧ rest.ending = stream.ending ∧
      content = stream.firstContent := by
  induction limit generalizing stream bytes lines with
  | zero => omega
  | succ limit ih =>
    unfold peek at h
    split at h
    · cases h
    · rename_i hread
      obtain ⟨happend, hending, hempty⟩ := ByteStream.readLine_spec hread
      rw [if_pos rfl] at hempty
      cases h
      exact ⟨happend, hending, by simp [ByteStream.firstContent, hempty, splitLines]⟩
    · rename_i line next hne hread
      obtain ⟨happend, hending, hsplit⟩ := ByteStream.readLine_spec hread
      rw [if_neg hne] at hsplit
      simp only at h
      split at h
      · rename_i hblank
        cases hmore : peek limit next with
        | error fault =>
          rw [hmore] at h
          cases h
        | ok found =>
          obtain ⟨more, count, _, _⟩ := found
          rw [hmore] at h
          cases h
          -- A blank line is one byte at least.
          have hshort : next.bytes.length < limit := by
            have hpos := List.length_pos_iff.mpr hne
            rw [← happend, List.length_append] at hlimit
            omega
          obtain ⟨hrest, hsame, hcontent⟩ := ih hshort hmore
          refine ⟨by rw [List.append_assoc, hrest, happend], hsame.trans hending, ?_⟩
          rw [hcontent]
          simp [ByteStream.firstContent, hsplit, hblank]
      · rename_i hcontent
        cases h
        exact ⟨happend, hending, by simp [ByteStream.firstContent, hsplit, hcontent]⟩

-- What follows sniffing is the stream, and the dialect is that of its first content.
theorem sniff_spec {stream : ByteStream} {delivery : Delivery} {sniffed : Sniffed}
    (h : sniff stream delivery = .ok sniffed) :
    sniffed.dialect = Sniff.dialectOf stream.firstContent ∧
      sniffed.reader.remaining = stream := by
  unfold sniff at h
  split at h
  · cases h
  · rename_i bytes lines content rest hpeek
    obtain ⟨happend, hending, hcontent⟩ := Sniff.peek_spec (Nat.lt_succ_self _) hpeek
    cases h
    refine ⟨by rw [hcontent], ?_⟩
    simp only [BufferedReader.remaining, BufferedReader.ofReplay, List.nil_append, happend, hending]

theorem lines_of_sniff {stream : ByteStream} {delivery : Delivery} {sniffed : Sniffed}
    (h : sniff stream delivery = .ok sniffed) : sniffed.reader.lines = stream.wholeLines := by
  rw [BufferedReader.lines_eq_wholeLines, (sniff_spec h).2]

theorem Sniff.exists_peek {stream : ByteStream} (hending : stream.ending = .finished) (limit : Nat) :
    ∃ found, peek limit stream = .ok found := by
  induction limit generalizing stream with
  | zero => exact ⟨_, rfl⟩
  | succ limit ih =>
    unfold peek
    split
    · rename_i fault _ hread
      obtain ⟨bytes, ending⟩ := stream
      cases bytes with
      | nil =>
        simp only at hending
        subst hending
        cases hread
      | cons b more => simp [ByteStream.readLine] at hread
    · exact ⟨_, rfl⟩
    · rename_i line next hne hread
      obtain ⟨-, hsame, -⟩ := ByteStream.readLine_spec hread
      obtain ⟨found, hfound⟩ := ih (hsame.trans hending)
      simp only [hfound]
      split
      · exact ⟨_, rfl⟩
      · exact ⟨_, rfl⟩

theorem exists_sniff_of_finished (bytes : List UInt8) {delivery : Delivery} :
    ∃ sniffed, sniff ⟨bytes, .finished⟩ delivery = .ok sniffed := by
  obtain ⟨⟨_, _, _, _⟩, hfound⟩ :=
    Sniff.exists_peek (show (ByteStream.mk bytes .finished).ending = .finished from rfl)
      (bytes.length + 1)
  simp only [sniff, hfound]
  exact ⟨_, rfl⟩

end LogSieve
