import LogSieve.Proofs.Log.Watch
import Mathlib.Algebra.BigOperators.Group.List.Basic
import Mathlib.Data.List.Induction

namespace LogSieve

instance : AddCommMonoid Tally where
  add_assoc := Tally.add_assoc
  zero_add := Tally.zero_add
  add_zero := Tally.add_zero
  add_comm a b := by simp only [Tally.add_def, Nat.add_comm]
  nsmul := nsmulRec

-- What can be done with a parser: to open a reading, to ask one of those opened for its next
-- outcome, and to read a whole stream, for its outcomes or its records.
inductive Step where
  | start (feed : Feed)
  | next (index : Nat)
  | parse (feed : Feed)
  | records (feed : Feed)

inductive Event where
  | next (index : Nat) (answer : Except OpenFault (Option Outcome))
  | parse (feed : Feed) (answer : Except OpenFault (List Outcome))
  | records (feed : Feed) (answer : Except OpenFault (List Record))

structure Bench (α : Type) where
  watch : Watch α
  readings : List Reading

namespace Bench

variable {α : Type}

def step (bench : Bench α) : Step → Option Event × Bench α
  | .start feed => (none, { bench with readings := bench.readings ++ [.waiting feed] })
  | .next index =>
    match bench.readings[index]? with
    | none => (none, bench)
    | some reading =>
      let (answer, reading, watch) := bench.watch.next reading
      (some (.next index answer), ⟨watch, bench.readings.set index reading⟩)
  | .parse feed =>
    let (answer, watch) := bench.watch.parse feed
    (some (.parse feed answer), { bench with watch := watch })
  | .records feed =>
    let (answer, watch) := bench.watch.records feed
    (some (.records feed answer), { bench with watch := watch })

def run (bench : Bench α) (steps : List Step) : List Event × Bench α :=
  steps.foldl (fun (events, bench) step =>
    let (event, bench) := bench.step step
    (events ++ event.toList, bench)) ([], bench)

theorem run_concat (bench : Bench α) (steps : List Step) (step : Step) :
    bench.run (steps ++ [step]) =
      ((bench.run steps).1 ++ ((bench.run steps).2.step step).1.toList,
        ((bench.run steps).2.step step).2) := by
  rw [run, List.foldl_append]
  rfl

end Bench

-- The answers to the calls for the next outcome of one reading.
def Event.answerOf? (index : Nat) : Event → Option (Except OpenFault (Option Outcome))
  | .next other answer => if other = index then some answer else none
  | _ => none

-- The outcomes without a record that came up in an event, whether or not they were asked for.
def Event.malformed (format : InputFormat) : Event → List Outcome
  | .next _ answer => LogSieve.malformed (yielded answer)
  | .parse _ answer => LogSieve.malformed (answer.toOption.getD [])
  | .records feed _ =>
    LogSieve.malformed (((Watch.alone format).parse feed).1.toOption.getD [])

def Event.isWhole : Event → Bool
  | .next .. => false
  | .parse .. | .records .. => true

namespace Step

def extend (opened : List (Feed × Nat)) : Step → List (Feed × Nat)
  | .start feed => opened ++ [(feed, 0)]
  | .next index => opened.modify index fun (feed, count) => (feed, count + 1)
  | .parse _ | .records _ => opened

-- The streams that were opened, each with how often its next outcome was asked for.
def opened (steps : List Step) : List (Feed × Nat) :=
  steps.foldl extend []

def whole? : Step → Option Feed
  | .parse feed | .records feed => some feed
  | .start _ | .next _ => none

def wholes (steps : List Step) : List Feed :=
  steps.filterMap whole?

-- What a parser that reads nothing else answers to reading a whole stream.
def alone? (format : InputFormat) : Step → Option Event
  | .parse feed => some (.parse feed ((Watch.alone format).parse feed).1)
  | .records feed => some (.records feed ((Watch.alone format).records feed).1)
  | .start _ | .next _ => none

theorem opened_concat (steps : List Step) (step : Step) :
    opened (steps ++ [step]) = extend (opened steps) step := by
  rw [opened, List.foldl_append]
  rfl

theorem filterMap_concat {β : Type} (f : Step → Option β) (steps : List Step) (step : Step) :
    (steps ++ [step]).filterMap f = steps.filterMap f ++ (f step).toList := by
  rw [List.filterMap_append]
  cases h : f step <;> simp [h]

theorem wholes_concat (steps : List Step) (step : Step) :
    wholes (steps ++ [step]) = wholes steps ++ step.whole?.toList :=
  filterMap_concat whole? steps step

end Step

def aloneAfter (format : InputFormat) (entry : Feed × Nat) :
    List (Except OpenFault (Option Outcome)) × Reading × Watch Unit :=
  (Watch.alone format).calls (.waiting entry.1) entry.2

theorem aloneAfter_succ (format : InputFormat) (feed : Feed) (count : Nat) :
    let before := aloneAfter format (feed, count)
    let answered := (Watch.alone format).next before.2.1
    let after := aloneAfter format (feed, count + 1)
    after.1 = before.1 ++ [answered.1] ∧ after.2.1 = answered.2.1 ∧
      after.2.2.session.tally = before.2.2.session.tally + answered.2.2.session.tally := by
  have hformat : (aloneAfter format (feed, count)).2.2.session.format = format :=
    Watch.format_calls _ _ _
  have hnext := Watch.next_eq (aloneAfter format (feed, count)).2.2
    (aloneAfter format (feed, count)).2.1
  rw [hformat] at hnext
  have hafter : aloneAfter format (feed, count + 1) =
      ((aloneAfter format (feed, count)).1 ++
        [((aloneAfter format (feed, count)).2.2.next (aloneAfter format (feed, count)).2.1).1],
        ((aloneAfter format (feed, count)).2.2.next (aloneAfter format (feed, count)).2.1).2) := rfl
  rw [hafter, hnext]
  exact ⟨rfl, rfl, rfl⟩

theorem sum_map_modify {β : Type} {items : List β} {index : Nat} {item : β} {f : β → Tally}
    {g : β → β} {gained : Tally} (hitem : items[index]? = some item)
    (hgained : f (g item) = f item + gained) :
    ((items.modify index g).map f).sum = (items.map f).sum + gained := by
  induction items generalizing index with
  | nil => simp at hitem
  | cons first rest ih =>
    cases index with
    | zero =>
      obtain rfl : first = item := by simpa using hitem
      simp only [List.modify_zero_cons, List.map_cons, List.sum_cons, hgained]
      exact add_right_comm _ _ _
    | succ index =>
      have hrest := ih (by simpa using hitem)
      simp only [List.modify_succ_cons, List.map_cons, List.sum_cons, hrest]
      exact (add_assoc _ _ _).symm

-- What holds of a parser and its readings after some steps, each of which was answered as if its
-- stream were the only one.
structure Apart {α : Type} (format : InputFormat) (listener : Option (α → Outcome → α)) (heard : α)
    (steps : List Step) (events : List Event) (bench : Bench α) : Prop where
  format_eq : bench.watch.session.format = format
  listener_eq : bench.watch.listener = listener
  readings_eq : bench.readings = (Step.opened steps).map fun entry => (aloneAfter format entry).2.1
  answers_eq : ∀ index, events.filterMap (Event.answerOf? index) =
    ((Step.opened steps)[index]?.map fun entry => (aloneAfter format entry).1).getD []
  wholes_eq : events.filter Event.isWhole = steps.filterMap (Step.alone? format)
  tally_eq : bench.watch.session.tally =
    ((Step.opened steps).map fun entry => (aloneAfter format entry).2.2.session.tally).sum +
      ((Step.wholes steps).map fun feed => ((Watch.alone format).parse feed).2.session.tally).sum
  heard_eq : bench.watch.heard =
    told listener heard (events.flatMap (Event.malformed format))

namespace Apart

variable {α : Type} {format : InputFormat} {listener : Option (α → Outcome → α)} {heard : α}
  {steps : List Step} {events : List Event} {bench : Bench α}

theorem nil (format : InputFormat) (listener : Option (α → Outcome → α)) (heard : α) :
    Apart format listener heard [] [] ⟨.ofFormat format listener heard, []⟩ where
  format_eq := rfl
  listener_eq := rfl
  readings_eq := rfl
  answers_eq _ := rfl
  wholes_eq := rfl
  tally_eq := rfl
  heard_eq := (Watch.told_nil listener heard).symm

theorem start (h : Apart format listener heard steps events bench) (feed : Feed) :
    Apart format listener heard (steps ++ [.start feed])
      (events ++ (bench.step (.start feed)).1.toList) (bench.step (.start feed)).2 where
  format_eq := h.format_eq
  listener_eq := h.listener_eq
  readings_eq := by
    simp only [Bench.step, Step.opened_concat, Step.extend, List.map_append, h.readings_eq]
    rfl
  answers_eq index := by
    simp only [Bench.step, Option.toList_none, List.append_nil, Step.opened_concat, Step.extend]
    rw [h.answers_eq index, List.getElem?_append]
    split
    case isTrue => rfl
    case isFalse hindex =>
      -- A reading that was just opened was not asked, nor was one that is not open.
      rw [List.getElem?_eq_none (Nat.le_of_not_lt hindex)]
      cases index - (Step.opened steps).length with
      | zero => rfl
      | succ beyond => rfl
  wholes_eq := by
    rw [Step.filterMap_concat]
    simpa [Bench.step, Step.alone?] using h.wholes_eq
  tally_eq := by
    have hfresh : (aloneAfter format (feed, 0)).2.2.session.tally = 0 := rfl
    simp only [Bench.step, h.tally_eq, Step.opened_concat, Step.wholes_concat, Step.extend,
      Step.whole?, Option.toList_none, List.append_nil, List.map_append, List.map_cons,
      List.map_nil, List.sum_append, List.sum_singleton, hfresh, add_zero]
  heard_eq := by simpa [Bench.step] using h.heard_eq

theorem next_of_none (h : Apart format listener heard steps events bench) {index : Nat}
    (hentry : (Step.opened steps)[index]? = none) :
    Apart format listener heard (steps ++ [.next index])
      (events ++ (bench.step (.next index)).1.toList) (bench.step (.next index)).2 := by
  have hreading : bench.readings[index]? = none := by
    rw [h.readings_eq, List.getElem?_map, hentry, Option.map_none]
  have hstep : bench.step (.next index) = (none, bench) := by
    simp only [Bench.step, hreading]
  have hopened : Step.opened (steps ++ [.next index]) = Step.opened steps := by
    rw [Step.opened_concat, Step.extend, List.modify_eq_self (List.getElem?_eq_none_iff.1 hentry)]
  have hwholes : Step.wholes (steps ++ [.next index]) = Step.wholes steps := by
    simp [Step.wholes_concat, Step.whole?]
  simp only [hstep, Option.toList_none, List.append_nil]
  exact {
    format_eq := h.format_eq
    listener_eq := h.listener_eq
    readings_eq := hopened ▸ h.readings_eq
    answers_eq := hopened ▸ h.answers_eq
    wholes_eq := by
      rw [Step.filterMap_concat]
      simpa [Step.alone?] using h.wholes_eq
    tally_eq := by rw [hopened, hwholes, h.tally_eq]
    heard_eq := h.heard_eq }

theorem next_of_some (h : Apart format listener heard steps events bench) {index : Nat}
    {entry : Feed × Nat} (hentry : (Step.opened steps)[index]? = some entry) :
    Apart format listener heard (steps ++ [.next index])
      (events ++ (bench.step (.next index)).1.toList) (bench.step (.next index)).2 := by
  obtain ⟨feed, count⟩ := entry
  obtain ⟨hanswers, hleft, htally⟩ := aloneAfter_succ format feed count
  have hreading : bench.readings[index]? = some (aloneAfter format (feed, count)).2.1 := by
    rw [h.readings_eq, List.getElem?_map, hentry, Option.map_some]
  -- From here on only the one answer counts, not how often this reading was asked before.
  generalize hanswered :
    (Watch.alone format).next (aloneAfter format (feed, count)).2.1 = answered at *
  have hstep : bench.step (.next index) = (some (.next index answered.1),
      ⟨⟨bench.watch.session.including answered.2.2.session, listener,
        told listener bench.watch.heard (malformed (yielded answered.1))⟩,
        bench.readings.set index answered.2.1⟩) := by
    simp only [Bench.step, hreading]
    rw [bench.watch.next_eq, h.format_eq, h.listener_eq, hanswered]
  have hopened : Step.opened (steps ++ [.next index]) =
      (Step.opened steps).modify index fun (feed, count) => (feed, count + 1) :=
    Step.opened_concat _ _
  have hwholes : Step.wholes (steps ++ [.next index]) = Step.wholes steps := by
    simp [Step.wholes_concat, Step.whole?]
  simp only [hstep, Option.toList_some]
  exact {
    format_eq := h.format_eq
    listener_eq := rfl
    readings_eq := by
      rw [hopened]
      apply List.ext_getElem?
      intro other
      rw [List.getElem?_set, List.getElem?_map, List.getElem?_modify]
      by_cases hother : index = other
      · subst hother
        obtain ⟨hindex, -⟩ := List.getElem?_eq_some_iff.1 hreading
        simp [hentry, hindex, hleft]
      · simp [hother, h.readings_eq]
    answers_eq := by
      intro other
      rw [hopened, List.filterMap_append, h.answers_eq other, List.getElem?_modify]
      by_cases hother : index = other
      · subst hother
        simp [hentry, hanswers, Event.answerOf?]
      · simp [hother, Event.answerOf?]
    wholes_eq := by
      rw [Step.filterMap_concat]
      simpa [Step.alone?, Event.isWhole] using h.wholes_eq
    tally_eq := by
      rw [hopened, hwholes, sum_map_modify hentry htally, add_right_comm]
      exact congrArg (· + answered.2.2.session.tally) h.tally_eq
    heard_eq := by
      rw [List.flatMap_append, told_append, ← h.heard_eq]
      simp only [List.flatMap_singleton, Event.malformed] }

theorem whole (h : Apart format listener heard steps events bench) {step : Step} {feed : Feed}
    {event : Event} (hextend : ∀ opened, Step.extend opened step = opened)
    (hwhole : step.whole? = some feed) (halone : step.alone? format = some event)
    (hevent : event.isWhole = true)
    (hmalformed : event.malformed format =
      malformed (((Watch.alone format).parse feed).1.toOption.getD []))
    (hstep : bench.step step = (some event, { bench with watch := (bench.watch.parse feed).2 })) :
    Apart format listener heard (steps ++ [step])
      (events ++ (bench.step step).1.toList) (bench.step step).2 := by
  have hopened : Step.opened (steps ++ [step]) = Step.opened steps := by
    rw [Step.opened_concat, hextend]
  -- Reading a whole stream answers no call for an outcome.
  have hanswerOf (index : Nat) : event.answerOf? index = none := by
    cases event with
    | next => cases hevent
    | parse => rfl
    | records => rfl
  have hwatch := bench.watch.parse_eq feed
  rw [h.format_eq, h.listener_eq] at hwatch
  simp only [hstep, Option.toList_some, hwatch]
  exact {
    format_eq := h.format_eq
    listener_eq := rfl
    readings_eq := hopened ▸ h.readings_eq
    answers_eq := by
      intro index
      rw [hopened, List.filterMap_append, ← h.answers_eq index]
      simp [hanswerOf]
    wholes_eq := by
      rw [List.filter_append, h.wholes_eq, Step.filterMap_concat, halone]
      simp [hevent]
    tally_eq := by
      rw [hopened, Step.wholes_concat, hwhole, Option.toList_some, List.map_append,
        List.sum_append, List.map_singleton, List.sum_singleton, ← add_assoc, ← h.tally_eq]
      rfl
    heard_eq := by
      rw [List.flatMap_append, told_append, ← h.heard_eq, List.flatMap_singleton, hmalformed] }

theorem step (h : Apart format listener heard steps events bench) (step : Step) :
    Apart format listener heard (steps ++ [step])
      (events ++ (bench.step step).1.toList) (bench.step step).2 := by
  cases step with
  | start feed => exact h.start feed
  | next index =>
    cases hentry : (Step.opened steps)[index]? with
    | none => exact h.next_of_none hentry
    | some entry => exact h.next_of_some hentry
  | parse feed =>
    have hanswer := congrArg Prod.fst (bench.watch.parse_eq feed)
    rw [h.format_eq] at hanswer
    exact h.whole (fun _ => rfl) rfl rfl rfl rfl (by simp only [Bench.step, hanswer])
  | records feed =>
    have hanswer := congrArg Prod.fst (bench.watch.parse_eq feed)
    rw [h.format_eq] at hanswer
    exact h.whole (fun _ => rfl) rfl rfl rfl rfl
      (by simp only [Bench.step, Watch.records, hanswer])

end Apart

theorem apart_run {α : Type} (format : InputFormat) (listener : Option (α → Outcome → α))
    (heard : α) (steps : List Step) :
    Apart format listener heard steps
      ((Bench.mk (.ofFormat format listener heard) []).run steps).1
      ((Bench.mk (.ofFormat format listener heard) []).run steps).2 := by
  induction steps using List.reverseRecOn with
  | nil => exact .nil format listener heard
  | append_singleton steps step ih =>
    rw [Bench.run_concat]
    exact ih.step step

theorem aloneAfter_of_sniff_error {stream : ByteStream} {delivery : Delivery} {fault : SourceFault}
    (h : sniff stream delivery = .error fault) (count : Nat) :
    (aloneAfter .auto (.bytes stream delivery, count)).2.1 =
      if count = 0 then .waiting (.bytes stream delivery) else .ended := by
  induction count with
  | zero => rfl
  | succ count ih =>
    obtain ⟨-, hleft, -⟩ := aloneAfter_succ .auto (.bytes stream delivery) count
    rw [hleft, ih]
    cases count with
    | zero =>
      have hbegin : Session.begin (Watch.alone .auto).session.format (.bytes stream delivery) =
          .error (.source fault) := Session.begin_of_sniff_error h
      simp [Watch.next_of_begin_error hbegin]
    | succ count => rfl

-- However the calls on the readings of one parser are interleaved with each other and with reading
-- whole streams: every reading is answered as by a parser that reads nothing else, and so is every
-- whole stream; the counts are the sum of what each stream alone would have come to after as many
-- calls; and the outcomes without a record are told once each, in the order they came up. A reading
-- whose stream cannot be sniffed is told so at its first call and is over then, and the parser with
-- its counts stays as it was, as it does when such a stream is read as a whole.
theorem Bench.run_as_alone {α : Type} (format : InputFormat)
    (listener : Option (α → Outcome → α)) (heard : α) (steps : List Step) :
    let (events, bench) := (Bench.mk (.ofFormat format listener heard) []).run steps
    (∀ index feed count, (Step.opened steps)[index]? = some (feed, count) →
      events.filterMap (Event.answerOf? index) = (aloneAfter format (feed, count)).1) ∧
    events.filter Event.isWhole = steps.filterMap (Step.alone? format) ∧
    bench.watch.session.tally =
      ((Step.opened steps).map fun entry => (aloneAfter format entry).2.2.session.tally).sum +
        ((Step.wholes steps).map fun feed =>
          ((Watch.alone format).parse feed).2.session.tally).sum ∧
    bench.watch.heard = told listener heard (events.flatMap (Event.malformed format)) ∧
    ∀ stream delivery fault, format = .auto → sniff stream delivery = .error fault →
      (∀ index count, (Step.opened steps)[index]? = some (.bytes stream delivery, count) →
        bench.step (.next index) =
          (some (.next index (if count = 0 then .error (.source fault) else .ok none)),
            { bench with readings := bench.readings.set index .ended })) ∧
      bench.step (.parse (.bytes stream delivery)) =
        (some (.parse (.bytes stream delivery) (.error (.source fault))), bench) ∧
      bench.step (.records (.bytes stream delivery)) =
        (some (.records (.bytes stream delivery) (.error (.source fault))), bench) := by
  have happart := apart_run format listener heard steps
  generalize (Bench.mk (.ofFormat format listener heard) []).run steps = result at happart
  obtain ⟨events, bench⟩ := result
  refine ⟨?_, happart.wholes_eq, happart.tally_eq, happart.heard_eq, ?_⟩
  · intro index feed count hentry
    rw [happart.answers_eq index, hentry]
    rfl
  · intro stream delivery fault hauto hsniff
    subst hauto
    have hbegin : Session.begin bench.watch.session.format (.bytes stream delivery) =
        .error (.source fault) := by
      rw [happart.format_eq]
      exact Session.begin_of_sniff_error hsniff
    refine ⟨?_, ?_, ?_⟩
    · intro index count hentry
      have hreading : bench.readings[index]? =
          some (if count = 0 then .waiting (.bytes stream delivery) else .ended) := by
        rw [happart.readings_eq, List.getElem?_map, hentry, Option.map_some,
          aloneAfter_of_sniff_error hsniff]
      cases count with
      | zero => simp only [step, hreading, if_true, Watch.next_of_begin_error hbegin]
      | succ count =>
        simp only [step, hreading, Nat.add_one_ne_zero, if_false, Watch.next_ended]
    · simp only [step, Watch.parse_of_begin_error hbegin]
    · simp only [step, Watch.records, Watch.parse_of_begin_error hbegin, Except.map]

end LogSieve
