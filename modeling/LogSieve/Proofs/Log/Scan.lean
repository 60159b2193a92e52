import LogSieve.Log.Scan
import LogSieve.Proofs.Stream.Replay

namespace LogSieve

namespace Tally

instance : Add Tally where
  add a b := ⟨a.total + b.total, a.parsed + b.parsed, a.failed + b.failed, a.empty + b.empty,
    a.jsonLines + b.jsonLines, a.keyValue + b.keyValue⟩

instance : Zero Tally := ⟨{}⟩

theorem add_def (a b : Tally) :
    a + b = ⟨a.total + b.total, a.parsed + b.parsed, a.failed + b.failed, a.empty + b.empty,
      a.jsonLines + b.jsonLines, a.keyValue + b.keyValue⟩ := rfl

theorem add_zero (a : Tally) : a + {} = a := rfl

theorem zero_add (a : Tally) : {} + a = a := by
  simp [add_def]

theorem add_assoc (a b c : Tally) : a + b + c = a + (b + c) := by
  simp [add_def, Nat.add_assoc]

theorem add_countEmpty (a b : Tally) : a + b.countEmpty = (a + b).countEmpty := rfl

theorem add_count (a b : Tally) (dialect : Dialect) (result : Except LineFault Record) :
    a + b.count dialect result = (a + b).count dialect result := by
  cases result with
  | error fault => rfl
  | ok record => cases dialect <;> rfl

end Tally

namespace Scan

theorem runOf_add (dialect : Dialect) (ending : Ending) (lines : List RawLine) (taken : Nat)
    (a b : Tally) :
    runOf dialect ending lines taken (a + b) =
      ((runOf dialect ending lines taken b).1.map fun (outcome, tally) => (outcome, a + tally),
        a + (runOf dialect ending lines taken b).2) := by
  induction lines generalizing taken b with
  | nil => cases ending <;> rfl
  | cons raw rest ih =>
    rw [runOf, runOf]
    simp only
    by_cases h : trim raw.decode = []
    · simp only [h, if_true, ← Tally.add_countEmpty]
      exact ih _ _
    · simp only [h, if_false, ← Tally.add_count, ih]
      rfl

theorem nextOf_add (dialect : Dialect) (ending : Ending) (lines : List RawLine) (taken : Nat)
    (a b : Tally) :
    nextOf dialect ending lines taken (a + b) =
      ((nextOf dialect ending lines taken b).1, (nextOf dialect ending lines taken b).2.1,
        a + (nextOf dialect ending lines taken b).2.2) := by
  induction lines generalizing taken b with
  | nil => cases ending <;> rfl
  | cons raw rest ih =>
    rw [nextOf, nextOf]
    simp only
    by_cases h : trim raw.decode = []
    · simp only [h, if_true, ← Tally.add_countEmpty]
      exact ih _ _
    · simp only [h, if_false, ← Tally.add_count]

theorem run_eq_next (scan : Scan) (tally : Tally) :
    scan.run tally =
      match scan.next tally with
      | (none, _, tally) => ([], tally)
      | (some outcome, scan, tally) =>
        ((outcome, tally) :: (scan.run tally).1, (scan.run tally).2) := by
  obtain ⟨dialect, ⟨lines, ending⟩, taken⟩ := scan
  simp only [run, next]
  induction lines generalizing taken tally with
  | nil => cases ending <;> rfl
  | cons raw rest ih =>
    rw [runOf, nextOf]
    simp only
    by_cases h : trim raw.decode = []
    · simp only [h, if_true]
      exact ih _ _
    · simp only [h, if_false]

-- The next outcome of a stream, and what it counts up to it, whatever was counted before.
theorem next_eq (scan : Scan) (tally : Tally) :
    scan.next tally =
      ((scan.next {}).1, (scan.next {}).2.1, tally + (scan.next {}).2.2) := by
  have h := nextOf_add scan.dialect scan.stream.ending scan.stream.lines scan.taken tally {}
  rwa [Tally.add_zero] at h

theorem run_eq (scan : Scan) (tally : Tally) :
    (scan.run tally).1.map Prod.fst = (scan.run {}).1.map Prod.fst ∧
      (scan.run tally).2 = tally + (scan.run {}).2 := by
  have h := runOf_add scan.dialect scan.stream.ending scan.stream.lines scan.taken tally {}
  rw [Tally.add_zero] at h
  rw [run, run, h]
  simp

end Scan

namespace ByteStream

-- The dialect of a stream, by its first line that is not blank.
def dialect (stream : ByteStream) : Dialect :=
  Sniff.dialectOf stream.firstContent

def outcomes (stream : ByteStream) : List Outcome :=
  ((Scan.ofStream stream.dialect stream.wholeLines).run {}).1.map Prod.fst

def tally (stream : ByteStream) : Tally :=
  ((Scan.ofStream stream.dialect stream.wholeLines).run {}).2

def records (stream : ByteStream) : List Record :=
  stream.outcomes.filterMap Outcome.record?

theorem run_of_sniff {stream : ByteStream} {sniffed : Sniffed} (h : sniff stream = .ok sniffed)
    (tally : Tally) :
    ((Scan.ofStream sniffed.dialect sniffed.reader.lines).run tally).1.map Prod.fst =
        stream.outcomes ∧
      ((Scan.ofStream sniffed.dialect sniffed.reader.lines).run tally).2 = tally + stream.tally := by
  rw [(sniff_spec h).1, lines_of_sniff h]
  exact Scan.run_eq _ tally

end ByteStream

end LogSieve
