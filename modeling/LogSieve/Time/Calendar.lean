namespace LogSieve

def isLeapYear (year : Nat) : Bool :=
  year % 4 == 0 && (year % 100 != 0 || year % 400 == 0)

def monthLengths (year : Nat) : List Nat :=
  [31, if isLeapYear year then 29 else 28, 31, 30, 31, 30, 31, 31, 30, 31, 30, 31]

def daysBeforeYear (year : Nat) : Nat :=
  let past := year - 1
  past * 365 + past / 4 - past / 100 + past / 400

def daysBeforeMonth (lengths : List Nat) (month : Nat) : Nat :=
  (lengths.take (month - 1)).foldl (· + ·) 0

def lastYear : Nat := 9999

structure Date where
  year : Nat
  month : Nat
  day : Nat
  year_valid : 1 ≤ year ∧ year ≤ lastYear
  month_valid : 1 ≤ month ∧ month ≤ 12
  day_valid : 1 ≤ day ∧ day ≤ (monthLengths year).getD (month - 1) 0
deriving DecidableEq

namespace Date

def ofParts? (year month day : Nat) : Option Date :=
  if hy : 1 ≤ year ∧ year ≤ lastYear then
    if hm : 1 ≤ month ∧ month ≤ 12 then
      if hd : 1 ≤ day ∧ day ≤ (monthLengths year).getD (month - 1) 0 then
        some ⟨year, month, day, hy, hm, hd⟩
      else none
    else none
  else none

def dayNumber (date : Date) : Nat :=
  daysBeforeYear date.year + daysBeforeMonth (monthLengths date.year) date.month + (date.day - 1)

-- The year of a day: the mean length of years finds it to within one.
def yearOf (number : Nat) : Nat :=
  let guess := number * 400 / 146097 + 1
  if number < daysBeforeYear guess then guess - 1
  else if daysBeforeYear (guess + 1) ≤ number then guess + 1
  else guess

-- The month, from 1, and the day in it, from 1, of a day of the year counted from 0.
def monthAndDay : List Nat → Nat → Nat × Nat
  | [], day => (1, day + 1)
  | length :: lengths, day =>
    if day < length then (1, day + 1)
    else
      let (month, day) := monthAndDay lengths (day - length)
      (month + 1, day)

def ofDayNumber? (number : Nat) : Option Date :=
  let year := yearOf number
  let (month, day) := monthAndDay (monthLengths year) (number - daysBeforeYear year)
  ofParts? year month day

end Date

end LogSieve
