import LogSieve.Log.Session
import LogSieve.Proofs.Log.Scan

namespace LogSieve

namespace Session

-- A parser that does, on top of what it did, what another did from its start.
def including (session alone : Session) : Session :=
  { session with
    detected := alone.detected.or session.detected, tally := session.tally + alone.tally }

theorem advance_eq (session : Session) (scan : Scan) :
    session.advance scan =
      ((advance { format := session.format } scan).1,
        (advance { format := session.format } scan).2.1,
        session.including (advance { format := session.format } scan).2.2) := by
  simp only [advance, scan.next_eq session.tally, including, Option.none_or]

theorem next_eq (session : Session) (reading : Reading) :
    session.next reading =
      ((next { format := session.format } reading).1,
        (next { format := session.format } reading).2.1,
        session.including (next { format := session.format } reading).2.2) := by
  have hnone : session.including { format := session.format } = session := by
    simp [including, Tally.add_zero]
  cases reading with
  | ended => simp only [next, hnone]
  | active scan =>
    simp only [next]
    rw [session.advance_eq scan]
  | waiting feed =>
    simp only [next]
    cases begin session.format feed with
    | error fault => simp only [hnone]
    | ok begun => simp only [advance, begun.1.next_eq session.tally, including, Option.some_or]

theorem parse_eq (session : Session) (feed : Feed) :
    session.parse feed =
      ((parse { format := session.format } feed).1,
        session.including (parse { format := session.format } feed).2) := by
  simp only [parse]
  cases begin session.format feed with
  | error fault => simp [including, Tally.add_zero]
  | ok begun =>
    obtain ⟨houtcomes, htally⟩ := begun.1.run_eq session.tally
    simp only [houtcomes, htally, including, Option.some_or]

theorem begin_of_sniff {stream : ByteStream} {delivery : Delivery} {sniffed : Sniffed}
    (h : sniff stream delivery = .ok sniffed) :
    begin .auto (.bytes stream delivery) =
      .ok (.ofStream sniffed.dialect stream.wholeLines, [sniffed.notice]) := by
  rw [← lines_of_sniff h]
  simp only [begin, Feed.byteStream, Feed.delivery, bind, Except.bind, h]
  rfl

theorem begin_of_sniff_error {stream : ByteStream} {delivery : Delivery} {fault : SourceFault}
    (h : sniff stream delivery = .error fault) :
    begin .auto (.bytes stream delivery) = .error (.source fault) := by
  simp only [begin, Feed.byteStream, Feed.delivery, bind, Except.bind, h]
  rfl

end Session

def yielded : Except OpenFault (Option Outcome) → List Outcome
  | .ok (some outcome) => [outcome]
  | _ => []

def malformed (outcomes : List Outcome) : List Outcome :=
  outcomes.filter (!·.isValid)

def told {α : Type} (listener : Option (α → Outcome → α)) (heard : α) (outcomes : List Outcome) :
    α :=
  match listener with
  | none => heard
  | some listen => outcomes.foldl listen heard

theorem told_append {α : Type} (listener : Option (α → Outcome → α)) (heard : α)
    (first second : List Outcome) :
    told listener heard (first ++ second) = told listener (told listener heard first) second := by
  cases listener with
  | none => rfl
  | some listen => exact List.foldl_append

namespace Watch

variable {α : Type}

def alone (format : InputFormat) : Watch Unit :=
  .ofFormat format none ()

theorem tell_eq (watch : Watch α) (outcome : Outcome) :
    watch.tell outcome =
      { watch with heard := told watch.listener watch.heard (malformed [outcome]) } := by
  obtain ⟨session, listener, heard⟩ := watch
  cases listener with
  | none => rfl
  | some listen => cases hvalid : outcome.isValid <;> simp [tell, told, malformed, hvalid]

theorem foldl_tell (watch : Watch α) (outcomes : List Outcome) :
    outcomes.foldl tell watch =
      { watch with heard := told watch.listener watch.heard (malformed outcomes) } := by
  induction outcomes generalizing watch with
  | nil =>
    obtain ⟨session, listener, heard⟩ := watch
    cases listener <;> rfl
  | cons outcome rest ih =>
    rw [List.foldl_cons, ih, tell_eq]
    simp only [← told_append]
    rw [malformed, malformed, ← List.filter_append, malformed]
    rfl

theorem told_nil (listener : Option (α → Outcome → α)) (heard : α) :
    told listener heard [] = heard := by
  cases listener <;> rfl

theorem next_eq (watch : Watch α) (reading : Reading) :
    watch.next reading =
      (((alone watch.session.format).next reading).1,
        ((alone watch.session.format).next reading).2.1,
        ⟨watch.session.including ((alone watch.session.format).next reading).2.2.session,
          watch.listener,
          told watch.listener watch.heard
            (malformed (yielded ((alone watch.session.format).next reading).1))⟩) := by
  simp only [next, alone, ofFormat]
  rw [watch.session.next_eq reading]
  generalize Session.next { format := watch.session.format } reading = answered
  obtain ⟨answer, reading, session⟩ := answered
  cases answer with
  | error fault => simp only [yielded, malformed, List.filter_nil, told_nil]
  | ok outcome? =>
    cases outcome? with
    | none => simp only [yielded, malformed, List.filter_nil, told_nil]
    | some outcome => simp only [yielded, tell_eq]

theorem parse_eq (watch : Watch α) (feed : Feed) :
    watch.parse feed =
      (((alone watch.session.format).parse feed).1,
        ⟨watch.session.including ((alone watch.session.format).parse feed).2.session,
          watch.listener,
          told watch.listener watch.heard
            (malformed (((alone watch.session.format).parse feed).1.toOption.getD []))⟩) := by
  simp only [parse, alone, ofFormat]
  rw [watch.session.parse_eq feed]
  generalize Session.parse { format := watch.session.format } feed = answered
  obtain ⟨answer, session⟩ := answered
  cases answer with
  | error fault =>
    simp only [Except.toOption, Option.getD_none, malformed, List.filter_nil, told_nil]
  | ok found => simp only [Except.toOption, Option.getD_some, foldl_tell]

theorem next_of_begin_error {watch : Watch α} {feed : Feed} {fault : OpenFault}
    (h : Session.begin watch.session.format feed = .error fault) :
    watch.next (.waiting feed) = (.error fault, .ended, watch) := by
  simp only [next, Session.next, h]

-- The first call finds the dialect and goes on as the others do.
theorem next_of_begin {watch : Watch α} {feed : Feed} {scan : Scan} {notices : List Notice}
    (h : Session.begin watch.session.format feed = .ok (scan, notices)) :
    watch.next (.waiting feed) =
      { watch with session := { watch.session with detected := some scan.dialect } }.next
        (.active scan) := by
  simp only [next, Session.next, h]

theorem parse_of_begin_error {watch : Watch α} {feed : Feed} {fault : OpenFault}
    (h : Session.begin watch.session.format feed = .error fault) :
    watch.parse feed = (.error fault, watch) := by
  simp only [parse, Session.parse, h]

def calls (watch : Watch α) (reading : Reading) :
    Nat → List (Except OpenFault (Option Outcome)) × Reading × Watch α
  | 0 => ([], reading, watch)
  | count + 1 =>
    let (answers, reading, watch) := watch.calls reading count
    let (answer, reading, watch) := watch.next reading
    (answers ++ [answer], reading, watch)

theorem calls_succ (watch : Watch α) (reading : Reading) (count : Nat) :
    watch.calls reading (count + 1) =
      let (answer, reading, watch) := watch.next reading
      let (answers, reading, watch) := watch.calls reading count
      (answer :: answers, reading, watch) := by
  induction count with
  | zero => rfl
  | succ count ih => rw [calls, ih]; rfl

theorem next_active (watch : Watch α) (scan : Scan) :
    watch.next (.active scan) =
      let (outcome, left, tally) := scan.next watch.session.tally
      let watch := { watch with session := { watch.session with tally := tally } }
      (.ok outcome, if outcome.isNone then .ended else .active left,
        outcome.toList.foldl tell watch) := by
  simp only [next, Session.next, Session.advance]
  cases (scan.next watch.session.tally).1 <;> rfl

-- Calls up to the end of a reading under way give all outcomes that are left.
theorem calls_active (watch : Watch α) (scan : Scan) {outcomes : List (Outcome × Tally)}
    {tally : Tally} (h : scan.run watch.session.tally = (outcomes, tally)) :
    watch.calls (.active scan) (outcomes.length + 1) =
      ((outcomes.map fun entry => .ok (some entry.1)) ++ [.ok none], .ended,
        (outcomes.map Prod.fst).foldl tell
          { watch with session := { watch.session with tally := tally } }) := by
  induction outcomes generalizing watch scan with
  | nil =>
    rw [scan.run_eq_next] at h
    rw [calls_succ, next_active]
    generalize scan.next watch.session.tally = answered at h ⊢
    obtain ⟨outcome?, left, counted⟩ := answered
    cases outcome? with
    | none => cases h; rfl
    | some outcome => cases h
  | cons first rest ih =>
    rw [scan.run_eq_next] at h
    rw [calls_succ, next_active]
    generalize scan.next watch.session.tally = answered at h ⊢
    obtain ⟨outcome?, left, counted⟩ := answered
    cases outcome? with
    | none => cases h
    | some outcome =>
      simp only [Prod.mk.injEq, List.cons.injEq] at h
      obtain ⟨⟨rfl, hrest⟩, hfinal⟩ := h
      simp only [Option.isNone_some, Option.toList_some, List.foldl_cons, List.foldl_nil,
        tell_eq, List.length_cons, List.map_cons, Bool.false_eq_true, if_false]
      rw [ih _ left (Prod.ext hrest hfinal)]
      rfl

-- Reading a whole stream is calling for its next outcome up to its end.
theorem calls_of_parse (watch : Watch α) (feed : Feed) :
    match watch.parse feed with
    | (.error fault, after) => watch.calls (.waiting feed) 1 = ([.error fault], .ended, after)
    | (.ok outcomes, after) =>
      watch.calls (.waiting feed) (outcomes.length + 1) =
        ((outcomes.map fun outcome => .ok (some outcome)) ++ [.ok none], .ended, after) := by
  cases hbegin : Session.begin watch.session.format feed with
  | error fault =>
    rw [parse_of_begin_error hbegin]
    simp only [calls, next_of_begin_error hbegin, List.nil_append]
  | ok begun =>
    obtain ⟨scan, notices⟩ := begun
    cases hrun : scan.run watch.session.tally with
    | mk outcomes tally =>
      have hparse : watch.parse feed =
          (.ok (outcomes.map Prod.fst), (outcomes.map Prod.fst).foldl tell { watch with
            session := { watch.session with detected := some scan.dialect, tally := tally } }) := by
        simp only [parse, Session.parse, hbegin, hrun]
      have hcalls := calls_active
        { watch with session := { watch.session with detected := some scan.dialect } } scan hrun
      rw [calls_succ] at hcalls
      rw [hparse]
      simp only [List.length_map, List.map_map]
      rw [calls_succ, next_of_begin hbegin]
      exact hcalls

theorem next_ended (watch : Watch α) : watch.next .ended = (.ok none, .ended, watch) := rfl

theorem format_next (watch : Watch α) (reading : Reading) :
    (watch.next reading).2.2.session.format = watch.session.format := by
  rw [next_eq]
  rfl

theorem format_calls (watch : Watch α) (reading : Reading) (count : Nat) :
    (watch.calls reading count).2.2.session.format = watch.session.format := by
  induction count with
  | zero => rfl
  | succ count ih => exact (format_next _ _).trans ih

end Watch

end LogSieve
