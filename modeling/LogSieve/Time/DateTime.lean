import LogSieve.Time.Calendar

namespace LogSieve

structure Clock where
  hour : Nat
  minute : Nat
  second : Nat
  microsecond : Nat
  valid : hour < 24 ∧ minute < 60 ∧ second < 60 ∧ microsecond < 1000000
deriving DecidableEq

structure DateTime where
  date : Date
  clock : Clock
  offset : Int
  offset_valid : -1440 < offset ∧ offset < 1440
deriving DecidableEq

def Clock.ofParts? (hour minute second microsecond : Nat) : Option Clock :=
  if h : hour < 24 ∧ minute < 60 ∧ second < 60 ∧ microsecond < 1000000 then
    some ⟨hour, minute, second, microsecond, h⟩
  else none

def Clock.seconds (clock : Clock) : Nat :=
  (clock.hour * 60 + clock.minute) * 60 + clock.second

namespace DateTime

-- Microseconds from the start of year 1, universal time. Negative before it: an offset can put
-- the first hours of year 1 there.
def instant (t : DateTime) : Int :=
  ((t.date.dayNumber * 86400 + t.clock.seconds : Nat) - t.offset * 60) * 1000000 +
    t.clock.microsecond

def earliest : DateTime where
  date := ⟨1, 1, 1, by decide, by decide, by decide⟩
  clock := ⟨0, 0, 0, 0, by decide⟩
  offset := 0
  offset_valid := by decide

def epochDay : Nat := 719162

def ofEpochSeconds? (seconds : Nat) : Option DateTime := do
  let date ← Date.ofDayNumber? (epochDay + seconds / 86400)
  let second := seconds % 86400
  let clock ← Clock.ofParts? (second / 3600) (second / 60 % 60) (second % 60) 0
  some ⟨date, clock, 0, by decide⟩

def padded (width n : Nat) : List Char :=
  let digits := Nat.toDigits 10 n
  List.replicate (width - digits.length) '0' ++ digits

def dateText (date : Date) : List Char :=
  padded 4 date.year ++ '-' :: padded 2 date.month ++ '-' :: padded 2 date.day

def clockText (clock : Clock) : List Char :=
  padded 2 clock.hour ++ ':' :: padded 2 clock.minute ++ ':' :: padded 2 clock.second

def fractionText (clock : Clock) : List Char :=
  if clock.microsecond = 0 then [] else '.' :: padded 6 clock.microsecond

def offsetText (offset : Int) : List Char :=
  (if offset < 0 then '-' else '+') ::
    (padded 2 (offset.natAbs / 60) ++ ':' :: padded 2 (offset.natAbs % 60))

def text (t : DateTime) : List Char :=
  dateText t.date ++ 'T' :: (clockText t.clock ++ fractionText t.clock ++ offsetText t.offset)

end DateTime

end LogSieve
