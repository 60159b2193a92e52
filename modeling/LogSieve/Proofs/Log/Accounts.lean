import LogSieve.Proofs.Log.Lines

namespace LogSieve

namespace Outcome

def isReadError (outcome : Outcome) : Bool :=
  match outcome.result with
  | .error (.unreadable _) => true
  | _ => false

theorem record?_isSome (outcome : Outcome) :
    outcome.record?.isSome = !outcome.fault?.isSome := by
  obtain ⟨line, result⟩ := outcome
  cases result <;> rfl

theorem isValid_readError (line : Int) (detail : String) :
    isValid ⟨line, .error (.unreadable detail)⟩ = false := rfl

end Outcome

theorem Dialect.isReadError_readLine (dialect : Dialect) (number : Int) (line : List Char) :
    Outcome.isReadError ⟨number, dialect.readLine line⟩ = false := by
  cases dialect with
  | jsonLines =>
    simp only [readLine]
    cases hread : Json.read? line with
    | none => rfl
    | some document => cases document <;> rfl
  | keyValue =>
    simp only [readLine]
    cases hread : KeyValue.read line <;> rfl

-- Counts that fit the lines taken off a stream and the outcomes given for them.
structure Tally.Accounts (tally : Tally) (taken : List RawLine) (given : List Outcome) : Prop where
  total_eq : tally.total = taken.length
  parts_eq : tally.total = tally.parsed + tally.failed + tally.empty
  empty_eq : tally.empty = taken.countP fun raw => trim raw.decode = []
  parsed_eq : tally.parsed = given.countP Outcome.isValid
  dialects_eq : tally.parsed = tally.ofDialect .jsonLines + tally.ofDialect .keyValue
  failed_eq :
    tally.failed = given.countP fun outcome => !outcome.isValid && !outcome.isReadError

namespace Tally.Accounts

variable {tally : Tally} {taken : List RawLine} {given : List Outcome}

theorem zero : Accounts {} [] [] :=
  ⟨rfl, rfl, rfl, rfl, rfl, rfl⟩

theorem countEmpty (h : tally.Accounts taken given) {raw : RawLine}
    (hraw : trim raw.decode = []) : tally.countEmpty.Accounts (taken ++ [raw]) given := by
  obtain ⟨htotal, hparts, hempty, hparsed, hdialects, hfailed⟩ := h
  refine ⟨?_, ?_, ?_, hparsed, hdialects, hfailed⟩
  · simp only [Tally.countEmpty, htotal, List.length_append, List.length_singleton]
  · simp only [Tally.countEmpty, hparts]
    omega
  · simp [Tally.countEmpty, hempty, List.countP_append, hraw]

theorem count (h : tally.Accounts taken given) {raw : RawLine} (hraw : trim raw.decode ≠ [])
    (dialect : Dialect) (number : Int) :
    (tally.count dialect (dialect.readLine (trim raw.decode))).Accounts (taken ++ [raw])
      (given ++ [⟨number, dialect.readLine (trim raw.decode)⟩]) := by
  obtain ⟨htotal, hparts, hempty, hparsed, hdialects, hfailed⟩ := h
  have hline := dialect.isReadError_readLine number (trim raw.decode)
  have hblank : [raw].countP (fun raw => trim raw.decode = []) = 0 := by simp [hraw]
  generalize dialect.readLine (trim raw.decode) = result at hline ⊢
  simp only [ofDialect] at hdialects
  cases result with
  | error fault =>
    have hvalid : Outcome.isValid ⟨number, .error fault⟩ = false := rfl
    refine ⟨?_, ?_, ?_, ?_, hdialects, ?_⟩
    · simp only [Tally.count, htotal, List.length_append, List.length_singleton]
    · simp only [Tally.count, hparts]
      omega
    · simp only [Tally.count, hempty, List.countP_append, hblank, Nat.add_zero]
    · simp [Tally.count, hparsed, List.countP_append, hvalid]
    · simp [Tally.count, hfailed, List.countP_append, hvalid, hline]
  | ok record =>
    have hvalid : Outcome.isValid ⟨number, .ok record⟩ = true := rfl
    -- Both dialects count alike, each under its own name.
    cases dialect <;>
    · refine ⟨?_, ?_, ?_, ?_, ?_, ?_⟩
      · simp only [Tally.count, htotal, List.length_append, List.length_singleton]
      · simp only [Tally.count, hparts]
        omega
      · simp only [Tally.count, hempty, List.countP_append, hblank, Nat.add_zero]
      · simp [Tally.count, hparsed, List.countP_append, hvalid]
      · simp only [Tally.count, ofDialect, hdialects]
        omega
      · simp [Tally.count, hfailed, List.countP_append, hvalid]

theorem readError (h : tally.Accounts taken given) (number : Int) (detail : String) :
    tally.Accounts taken (given ++ [⟨number, .error (.unreadable detail)⟩]) := by
  obtain ⟨htotal, hparts, hempty, hparsed, hdialects, hfailed⟩ := h
  refine ⟨htotal, hparts, hempty, ?_, hdialects, ?_⟩
  · simp [List.countP_append, hparsed, Outcome.isValid_readError]
  · simp [List.countP_append, hfailed, Outcome.isReadError]

end Tally.Accounts

namespace LineStream

def outcomes (dialect : Dialect) (stream : LineStream) : List Outcome :=
  stream.content.map (fun line => ⟨line.2, dialect.readLine line.1⟩) ++
    Scan.endingOutcomes stream.lines.length stream.ending

end LineStream

namespace Scan

def remaining (scan : Scan) : List Outcome :=
  (LineStream.contentFrom (scan.taken + 1) scan.stream.lines).map
      (fun line => ⟨line.2, scan.dialect.readLine line.1⟩) ++
    endingOutcomes (scan.taken + scan.stream.lines.length) scan.stream.ending

theorem remaining_ofStream (dialect : Dialect) (stream : LineStream) :
    (ofStream dialect stream).remaining = stream.outcomes dialect := by
  simp only [remaining, ofStream, LineStream.outcomes, LineStream.content, Nat.zero_add]

theorem remaining_blank {dialect : Dialect} {ending : Ending} {raw : RawLine}
    {rest : List RawLine} {taken : Nat} (hraw : trim raw.decode = []) :
    remaining ⟨dialect, ⟨raw :: rest, ending⟩, taken⟩ =
      remaining ⟨dialect, ⟨rest, ending⟩, taken + 1⟩ := by
  have hlength : taken + (raw :: rest).length = taken + 1 + rest.length := by
    rw [List.length_cons]
    omega
  simp only [remaining, LineStream.contentFrom_cons, hraw, if_true, hlength]

theorem remaining_content {dialect : Dialect} {ending : Ending} {raw : RawLine}
    {rest : List RawLine} {taken : Nat} (hraw : trim raw.decode ≠ []) :
    remaining ⟨dialect, ⟨raw :: rest, ending⟩, taken⟩ =
      ⟨taken + 1, dialect.readLine (trim raw.decode)⟩ ::
        remaining ⟨dialect, ⟨rest, ending⟩, taken + 1⟩ := by
  have hlength : taken + (raw :: rest).length = taken + 1 + rest.length := by
    rw [List.length_cons]
    omega
  simp only [remaining, LineStream.contentFrom_cons, hraw, if_false, hlength, List.map_cons]
  rfl

-- A reading of `lines` after some calls for the next outcome: the lines it took are accounted for by
-- as many outcomes as there were calls, and those that it has still to give are the others.
structure Underway (lines : List RawLine) (outcomes : List Outcome) (count : Nat) (scan : Scan)
    (tally : Tally) : Prop where
  left_eq : scan.stream.lines = lines.drop scan.taken
  remaining_eq : scan.remaining = outcomes.drop count
  accounts : tally.Accounts (lines.take scan.taken) (outcomes.take count)

namespace Underway

variable {lines : List RawLine} {outcomes : List Outcome} {count : Nat} {scan : Scan}
  {tally : Tally}

theorem start (dialect : Dialect) (stream : LineStream) :
    Underway stream.lines (stream.outcomes dialect) 0 (ofStream dialect stream) {} := by
  refine ⟨rfl, ?_, Tally.Accounts.zero⟩
  rw [List.drop_zero, remaining_ofStream]

theorem take_and_drop_of_left {α : Type} {items rest : List α} {item : α} {taken : Nat}
    (h : item :: rest = items.drop taken) :
    items[taken]? = some item ∧ items.take taken ++ [item] = items.take (taken + 1) ∧
      rest = items.drop (taken + 1) := by
  have hhead : items[taken]? = some item := by
    rw [← List.head?_drop, ← h, List.head?_cons]
  refine ⟨hhead, ?_, ?_⟩
  · rw [List.take_add_one, hhead, Option.toList_some]
  · rw [← List.tail_drop, ← h, List.tail_cons]

-- What one call for the next outcome gives: the answer, and a reading that took the lines up to the
-- line of that answer, or all of them.
structure Answers (lines : List RawLine) (outcomes : List Outcome) (count : Nat)
    (answered : Option Outcome × Scan × Tally) : Prop where
  answer_eq : answered.1 = outcomes[count]?
  underway : Underway lines outcomes (count + 1) answered.2.1 answered.2.2
  taken_eq : lines.take answered.2.1.taken =
    match answered.1 with
    | none => lines
    | some outcome => lines.take outcome.line.toNat

theorem answers_end {dialect : Dialect} {ending : Ending} {taken : Nat}
    (h : Underway lines outcomes count ⟨dialect, ⟨[], ending⟩, taken⟩ tally) :
    Answers lines outcomes count (Scan.next ⟨dialect, ⟨[], ending⟩, taken⟩ tally) := by
  obtain ⟨hleft, hremaining, haccounts⟩ := h
  have hall : lines.length ≤ taken := List.drop_eq_nil_iff.mp hleft.symm
  cases ending with
  | finished =>
    have hgiven : outcomes.length ≤ count := List.drop_eq_nil_iff.mp hremaining.symm
    have htake : outcomes.take count = outcomes.take (count + 1) := by
      rw [List.take_of_length_le hgiven, List.take_of_length_le (Nat.le_succ_of_le hgiven)]
    refine ⟨(List.getElem?_eq_none hgiven).symm, ⟨hleft, ?_, ?_⟩, ?_⟩
    · exact (List.drop_eq_nil_iff.mpr (Nat.le_succ_of_le hgiven)).symm
    · rw [← htake]
      exact haccounts
    · exact List.take_of_length_le hall
  | failed fault =>
    obtain ⟨hhead, htake, hdrop⟩ := take_and_drop_of_left hremaining
    have hbehind : lines.length ≤ ((taken : Int) + 1).toNat := by omega
    refine ⟨hhead.symm, ⟨hleft, hdrop, ?_⟩, ?_⟩
    · rw [← htake]
      exact haccounts.readError _ _
    · exact (List.take_of_length_le hall).trans (List.take_of_length_le hbehind).symm

theorem next (h : Underway lines outcomes count scan tally) :
    Answers lines outcomes count (scan.next tally) := by
  obtain ⟨dialect, ⟨left, ending⟩, taken⟩ := scan
  induction left generalizing taken tally with
  | nil => exact h.answers_end
  | cons raw rest ih =>
    obtain ⟨hleft, hremaining, haccounts⟩ := h
    obtain ⟨-, htaken, hrest⟩ := take_and_drop_of_left hleft
    by_cases hraw : trim raw.decode = []
    · have hnext : Underway lines outcomes count ⟨dialect, ⟨rest, ending⟩, taken + 1⟩
          tally.countEmpty := by
        refine ⟨hrest, ?_, ?_⟩
        · rw [← hremaining, remaining_blank hraw]
        · rw [← htaken]
          exact haccounts.countEmpty hraw
      simp only [Scan.next, nextOf, hraw, if_true]
      exact ih _ hnext
    · rw [remaining_content hraw] at hremaining
      obtain ⟨hhead, htake, hdrop⟩ := take_and_drop_of_left hremaining
      simp only [Scan.next, nextOf, hraw, if_false]
      refine ⟨hhead.symm, ⟨hrest, hdrop, ?_⟩, rfl⟩
      rw [← htake, ← htaken]
      exact haccounts.count hraw dialect _

theorem accounts_of_next_none (h : Underway lines outcomes count scan tally)
    (hnone : (scan.next tally).1 = none) :
    outcomes.length ≤ count ∧ (scan.next tally).2.2.Accounts lines outcomes := by
  obtain ⟨hanswer, hnext, htaken⟩ := h.next
  rw [hnone] at hanswer htaken
  have hgiven : outcomes.length ≤ count := List.getElem?_eq_none_iff.mp hanswer.symm
  have haccounts := hnext.accounts
  rw [htaken, List.take_of_length_le (Nat.le_succ_of_le hgiven)] at haccounts
  exact ⟨hgiven, haccounts⟩

theorem run (h : Underway lines outcomes count scan tally) :
    (scan.run tally).1.map Prod.fst = outcomes.drop count ∧
      (∀ (index : Nat) (entry : Outcome × Tally), (scan.run tally).1[index]? = some entry →
        entry.2.Accounts (lines.take entry.1.line.toNat) (outcomes.take (count + index + 1))) ∧
      (scan.run tally).2.Accounts lines outcomes := by
  -- The induction is on the outcomes that are left, of which every call takes the first.
  induction hleft : outcomes.drop count generalizing count scan tally with
  | nil =>
    have hgiven : outcomes.length ≤ count := List.drop_eq_nil_iff.mp hleft
    have hnone : (scan.next tally).1 = none := by
      rw [h.next.answer_eq, List.getElem?_eq_none hgiven]
    have haccounts := (h.accounts_of_next_none hnone).2
    rw [scan.run_eq_next]
    generalize scan.next tally = answered at hnone haccounts ⊢
    obtain ⟨answer, left, counted⟩ := answered
    subst hnone
    refine ⟨rfl, ?_, haccounts⟩
    intro index entry hentry
    simp at hentry
  | cons outcome rest ih =>
    obtain ⟨hhead, -, hrest⟩ := take_and_drop_of_left hleft.symm
    obtain ⟨hanswer, hnext, htaken⟩ := h.next
    rw [hhead] at hanswer
    rw [hanswer] at htaken
    rw [scan.run_eq_next]
    generalize scan.next tally = answered at hanswer hnext htaken ⊢
    obtain ⟨answer, left, counted⟩ := answered
    subst hanswer
    obtain ⟨houtcomes, hentries, hfinal⟩ := ih hnext hrest.symm
    refine ⟨congrArg (outcome :: ·) houtcomes, ?_, hfinal⟩
    intro index entry hentry
    cases index with
    | zero =>
      cases hentry
      have haccounts := hnext.accounts
      rwa [htaken] at haccounts
    | succ index =>
      have haccounts := hentries index entry hentry
      rwa [show count + 1 + index + 1 = count + (index + 1) + 1 by omega] at haccounts

end Underway

end Scan

namespace Reading

def linesLeft : Reading → List RawLine
  | .waiting feed => feed.lineStream.lines
  | .active scan => scan.stream.lines
  | .ended => []

end Reading

namespace Watch

variable {α : Type}

-- The calls after the first do not tell how the reading began.
theorem calls_waiting {watch : Watch α} {feed : Feed} {scan : Scan} {notices : List Notice}
    (h : Session.begin watch.session.format feed = .ok (scan, notices)) (count : Nat) :
    watch.calls (.waiting feed) (count + 1) =
      { watch with session := { watch.session with detected := some scan.dialect } }.calls
        (.active scan) (count + 1) := by
  rw [calls_succ, next_of_begin h, ← calls_succ]

structure Midway (lines : List RawLine) (outcomes : List Outcome)
    (listener : Option (α → Outcome → α)) (heard : α) (count : Nat)
    (answers : List (Except OpenFault (Option Outcome))) (reading : Reading)
    (watch : Watch α) : Prop where
  answers_eq : answers = (List.range count).map fun index => .ok outcomes[index]?
  listener_eq : watch.listener = listener
  heard_eq : watch.heard = told listener heard (malformed (outcomes.take count))
  reading_eq :
    (∃ scan, reading = .active scan ∧
      scan.Underway lines outcomes count watch.session.tally) ∨
    (reading = .ended ∧ outcomes.length < count ∧ watch.session.tally.Accounts lines outcomes)

namespace Midway

variable {lines : List RawLine} {outcomes : List Outcome} {listener : Option (α → Outcome → α)}
  {heard : α} {count : Nat} {answers : List (Except OpenFault (Option Outcome))}
  {reading : Reading} {watch : Watch α}

theorem next (h : Midway lines outcomes listener heard count answers reading watch) :
    Midway lines outcomes listener heard (count + 1) (answers ++ [(watch.next reading).1])
      (watch.next reading).2.1 (watch.next reading).2.2 := by
  obtain ⟨hanswers, hlistener, hheard, hreading⟩ := h
  have htold : told listener watch.heard (malformed outcomes[count]?.toList) =
      told listener heard (malformed (outcomes.take (count + 1))) := by
    rw [hheard, ← told_append, malformed, malformed, ← List.filter_append, ← List.take_add_one]
    rfl
  have hrange (answer) (h : answer = .ok outcomes[count]?) :
      answers ++ [answer] =
        (List.range (count + 1)).map fun index => .ok outcomes[index]? := by
    rw [h, hanswers, List.range_succ, List.map_append, List.map_singleton]
  rcases hreading with ⟨scan, rfl, hunderway⟩ | ⟨rfl, hcount, haccounts⟩
  · obtain ⟨hanswer, hnext, -⟩ := hunderway.next
    simp only [next_active, foldl_tell]
    refine ⟨hrange _ (congrArg _ hanswer), hlistener, ?_, ?_⟩
    · simp only [hlistener, hanswer, htold]
    · cases hsome : (scan.next watch.session.tally).1 with
      | none =>
        obtain ⟨hgiven, haccounts⟩ := hunderway.accounts_of_next_none hsome
        exact .inr ⟨rfl, Nat.lt_succ_of_le hgiven, haccounts⟩
      | some outcome => exact .inl ⟨_, rfl, hnext⟩
  · have hnone : outcomes[count]? = none := List.getElem?_eq_none (Nat.le_of_lt hcount)
    rw [next_ended]
    refine ⟨hrange _ (by rw [hnone]), hlistener, ?_, .inr ⟨rfl, by omega, haccounts⟩⟩
    rw [← htold, hnone]
    cases listener <;> rfl

theorem exists_accounts (h : Midway lines outcomes listener heard count answers reading watch) :
    ∃ taken, taken ++ reading.linesLeft = lines ∧
      watch.session.tally.Accounts taken (outcomes.take count) := by
  rcases h.reading_eq with ⟨scan, rfl, hunderway⟩ | ⟨rfl, hcount, haccounts⟩
  · refine ⟨lines.take scan.taken, ?_, hunderway.accounts⟩
    rw [Reading.linesLeft, hunderway.left_eq, List.take_append_drop]
  · refine ⟨lines, List.append_nil lines, ?_⟩
    rwa [List.take_of_length_le (Nat.le_of_lt hcount)]

end Midway

theorem midway_calls {lines : List RawLine} {outcomes : List Outcome}
    {listener : Option (α → Outcome → α)} {heard : α} {reading : Reading} {watch : Watch α}
    (h : Midway lines outcomes listener heard 0 [] reading watch) (count : Nat) :
    Midway lines outcomes listener heard count (watch.calls reading count).1
      (watch.calls reading count).2.1 (watch.calls reading count).2.2 := by
  induction count with
  | zero => exact h
  | succ count ih => exact ih.next

end Watch

-- Reading any lines in a dialect, whether they end or fail. There is one outcome for each line with
-- content, what the dialect makes of that line alone, and behind them one more if the stream fails;
-- each has a record or a reason, never both. Each comes with counts that fit the outcomes up to it
-- and the lines up to its own, and the counts at the end fit all of them. A parser that begins to
-- read these lines, in a format it was given or in the one it found, gives the same outcomes; after
-- every call its counts fit what it gave and the lines it took, and it has told of each outcome
-- without a record once. The records are those of the other outcomes.
theorem LineStream.accounted (dialect : Dialect) (stream : LineStream) :
    let outcomes : List Outcome :=
      stream.content.map (fun line => ⟨line.2, dialect.readLine line.1⟩) ++
        Scan.endingOutcomes stream.lines.length stream.ending
    let (entries, final) := (Scan.ofStream dialect stream).run {}
    entries.map Prod.fst = outcomes ∧
    (∀ outcome ∈ outcomes, outcome.record?.isSome = !outcome.fault?.isSome) ∧
    (∀ (index : Nat) (entry : Outcome × Tally), entries[index]? = some entry →
      entry.2.Accounts (stream.lines.take entry.1.line.toNat) (outcomes.take (index + 1))) ∧
    final.Accounts stream.lines outcomes ∧
    ∀ {α : Type} (listener : Option (α → Outcome → α)) (heard : α) (format : InputFormat)
      (feed : Feed) (notices : List Notice),
      Session.begin format feed = .ok (.ofStream dialect stream, notices) →
      let parser : Watch α := .ofFormat format listener heard
      (∀ count,
        let (answers, reading, after) := parser.calls (.waiting feed) (count + 1)
        answers = (List.range (count + 1)).map (fun index => .ok outcomes[index]?) ∧
        after.heard = told listener heard (malformed (outcomes.take (count + 1))) ∧
        ∃ taken, taken ++ reading.linesLeft = stream.lines ∧
          after.session.tally.Accounts taken (outcomes.take (count + 1))) ∧
      (parser.records feed).1 = .ok (outcomes.filterMap Outcome.record?) ∧
      (parser.records feed).2.heard = told listener heard (malformed outcomes) ∧
      (parser.records feed).2.session.tally.Accounts stream.lines outcomes := by
  intro outcomes
  have hstart := Scan.Underway.start dialect stream
  obtain ⟨hmap, hentries, hfinal⟩ := hstart.run
  simp only [Nat.zero_add, List.drop_zero] at hmap hentries
  refine ⟨hmap, fun outcome _ => outcome.record?_isSome, hentries, hfinal, ?_⟩
  -- A parser is a reading with a listener, and the account is the same.
  intro α listener heard format feed notices hbegin parser
  have hparser : Session.begin parser.session.format feed =
      .ok (.ofStream dialect stream, notices) := hbegin
  refine ⟨?_, ?_⟩
  · intro count
    have hmidway : Watch.Midway stream.lines outcomes listener heard 0 []
        (.active (.ofStream dialect stream))
        { parser with session := { parser.session with detected := some dialect } } := by
      refine ⟨rfl, rfl, ?_, .inl ⟨_, rfl, hstart⟩⟩
      exact (Watch.told_nil listener heard).symm
    have hcalls := Watch.midway_calls hmidway (count + 1)
    rw [Watch.calls_waiting hparser]
    exact ⟨hcalls.answers_eq, hcalls.heard_eq, hcalls.exists_accounts⟩
  · have hparse : parser.parse feed =
        (.ok outcomes, outcomes.foldl Watch.tell { parser with
          session := { parser.session with
            detected := some dialect, tally := ((Scan.ofStream dialect stream).run {}).2 } }) := by
      have houtcomes : ((Scan.ofStream dialect stream).run {}).1.map Prod.fst = outcomes := hmap
      simp only [Watch.parse, Session.parse, hparser, ← houtcomes]
      rfl
    simp only [Watch.records, hparse, Watch.foldl_tell]
    exact ⟨rfl, rfl, hfinal⟩

-- A line with a record, a blank one, one without a record, and then nothing more can be read.
theorem LineStream.accounted_failingLines :
    let stream : LineStream :=
      ⟨[.bytes "\x7b\"a\":1\x7d\n".toUTF8.toList, .text " \n".toList, .text "[1]".toList],
        .failed ⟨"disk gone"⟩⟩
    let parser : Watch (List Int) :=
      .ofFormat (.fixed .jsonLines) (some fun heard outcome => heard ++ [outcome.line]) []
    Session.begin (.fixed .jsonLines) (.lines stream) = .ok (.ofStream .jsonLines stream, []) ∧
    (parser.records (.lines stream)).2.heard = [3, 4] ∧
    (parser.records (.lines stream)).2.session.tally.parsed = 1 := by
  intro stream parser
  have hbegin : Session.begin (.fixed .jsonLines) (.lines stream) =
      .ok (.ofStream .jsonLines stream, []) := rfl
  obtain ⟨-, -, -, -, hparser⟩ := LineStream.accounted .jsonLines stream
  obtain ⟨-, -, hheard, htally⟩ :=
    hparser (some fun heard outcome => heard ++ [outcome.line]) [] _ _ _ hbegin
  refine ⟨hbegin, hheard.trans ?_, htally.parsed_eq.trans ?_⟩
  · decide +kernel
  · decide +kernel

end LogSieve
