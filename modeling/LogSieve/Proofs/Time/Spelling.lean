import LogSieve.Proofs.Json.Numeral
import LogSieve.Proofs.Number.Exact
import LogSieve.Proofs.Number.Nearest
import LogSieve.Proofs.Time.Calendar
import LogSieve.Proofs.Time.Written

namespace LogSieve

def digitOf (c : Char) : Nat :=
  (digitValue? c).getD 0

theorem digitOf_lt (c : Char) : digitOf c < 10 := by
  rw [digitOf, digitValue?]
  cases hfind : digitZeros.find? fun first => first ≤ c.toNat && c.toNat < first + 10 with
  | none =>
    show 0 < 10
    decide
  | some first =>
    have hfirst := List.find?_some hfind
    simp only [Bool.and_eq_true, decide_eq_true_eq] at hfirst
    rw [Option.map_some, Option.getD_some]
    omega

theorem mem_digits_lt (row : List Char) : ∀ digit ∈ row.map digitOf, digit < 10 := by
  intro digit hdigit
  obtain ⟨c, -, rfl⟩ := List.mem_map.mp hdigit
  exact digitOf_lt c

theorem digitValue?_of_isDigit {c : Char} (h : c.isDigit = true) :
    digitValue? c = some (c.toNat - 48) := by
  have hbounds : 48 ≤ c.toNat ∧ c.toNat ≤ 57 := by
    simpa [Char.isDigit, UInt32.le_iff_toNat_le] using h
  have hfind : digitZeros.find? (fun first => first ≤ c.toNat && c.toNat < first + 10) =
      some 48 := by
    rw [digitZeros, List.find?_cons_of_pos]
    simp only [Bool.and_eq_true, decide_eq_true_eq]
    omega
  rw [digitValue?, hfind]
  rfl

theorem digitOf_of_isDigit {c : Char} (h : c.isDigit = true) : digitOf c = c.toNat - 48 := by
  rw [digitOf, digitValue?_of_isDigit h]
  rfl

theorem digitsValue_cons {c : Char} (h : c.isDigit = true) (rest : List Char) :
    digitsValue (c :: rest) = 10 ^ rest.length * digitOf c + digitsValue rest := by
  rw [← List.singleton_append, digitsValue_append, digitOf_of_isDigit h]
  congr 2
  simp [digitsValue, Nat.ofDigitChars]

def fractionValue : List Nat → ℚ
  | [] => 0
  | digit :: rest => (digit + fractionValue rest) / 10

-- The whole number of the first digits of a fraction, which is filled up with zeros.
def leading : Nat → List Nat → Nat
  | 0, _ => 0
  | _ + 1, [] => 0
  | count + 1, digit :: rest => 10 ^ count * digit + leading count rest

theorem fractionValue_bounds {digits : List Nat} (h : ∀ digit ∈ digits, digit < 10) :
    0 ≤ fractionValue digits ∧ fractionValue digits < 1 := by
  induction digits with
  | nil => exact ⟨le_rfl, zero_lt_one⟩
  | cons digit rest ih =>
    obtain ⟨hdigit, hrest⟩ := List.forall_mem_cons.mp h
    obtain ⟨hlow, hhigh⟩ := ih hrest
    have hnine : (digit : ℚ) ≤ 9 := by exact_mod_cast Nat.le_of_lt_succ hdigit
    have hzero : (0 : ℚ) ≤ digit := Nat.cast_nonneg digit
    rw [fractionValue]
    constructor <;> linarith

theorem leading_bounds (count : Nat) {digits : List Nat} (h : ∀ digit ∈ digits, digit < 10) :
    (leading count digits : ℚ) ≤ fractionValue digits * 10 ^ count ∧
      fractionValue digits * 10 ^ count < leading count digits + 1 := by
  induction count generalizing digits with
  | zero =>
    obtain ⟨hlow, hhigh⟩ := fractionValue_bounds h
    simp only [leading, Nat.cast_zero, pow_zero, mul_one, zero_add]
    exact ⟨hlow, hhigh⟩
  | succ count ih =>
    cases digits with
    | nil => simp [leading, fractionValue]
    | cons digit rest =>
      obtain ⟨hlow, hhigh⟩ := ih (List.forall_mem_cons.mp h).2
      have hvalue : fractionValue (digit :: rest) * 10 ^ (count + 1) =
          10 ^ count * digit + fractionValue rest * 10 ^ count := by
        rw [fractionValue, pow_succ]
        ring
      rw [hvalue, leading, Nat.cast_add, Nat.cast_mul, Nat.cast_pow, Nat.cast_ofNat]
      constructor <;> linarith

theorem leading_lt (count : Nat) {digits : List Nat} (h : ∀ digit ∈ digits, digit < 10) :
    leading count digits < 10 ^ count := by
  obtain ⟨hlow, -⟩ := leading_bounds count h
  obtain ⟨-, hhigh⟩ := fractionValue_bounds h
  have hpow : (0 : ℚ) < 10 ^ count := by positivity
  have hlt : (leading count digits : ℚ) < 10 ^ count := by
    calc (leading count digits : ℚ) ≤ fractionValue digits * 10 ^ count := hlow
      _ < 1 * 10 ^ count := mul_lt_mul_of_pos_right hhigh hpow
      _ = 10 ^ count := one_mul _
  exact_mod_cast hlt

theorem fractionValue_of_length_le {count : Nat} {digits : List Nat} (h : digits.length ≤ count) :
    fractionValue digits * 10 ^ count = leading count digits := by
  induction count generalizing digits with
  | zero =>
    rw [List.length_eq_zero_iff.mp (Nat.le_zero.mp h)]
    simp [fractionValue, leading]
  | succ count ih =>
    cases digits with
    | nil => simp [fractionValue, leading]
    | cons digit rest =>
      have hrest := ih (Nat.le_of_succ_le_succ h)
      rw [leading, Nat.cast_add, ← hrest, fractionValue, pow_succ, Nat.cast_mul, Nat.cast_pow,
        Nat.cast_ofNat]
      ring

theorem floor_fractionValue (count : Nat) {digits : List Nat} (h : ∀ digit ∈ digits, digit < 10) :
    ⌊fractionValue digits * 10 ^ count⌋ = leading count digits := by
  obtain ⟨hlow, hhigh⟩ := leading_bounds count h
  rw [Int.floor_eq_iff]
  exact ⟨by exact_mod_cast hlow, by exact_mod_cast hhigh⟩

theorem digitsValue_filled (count : Nat) {row : List Char}
    (h : ∀ c ∈ row.take count, c.isDigit = true) :
    digitsValue (row.take count ++ List.replicate (count - (row.take count).length) '0') =
      leading count (row.map digitOf) := by
  induction count generalizing row with
  | zero => simp [leading, digitsValue, Nat.ofDigitChars]
  | succ count ih =>
    cases row with
    | nil => simp [leading, digitsValue_zeros]
    | cons c rest =>
      rw [List.take_succ_cons] at h ⊢
      obtain ⟨hc, hrest⟩ := List.forall_mem_cons.mp h
      have hlength : (rest.take count).length ≤ count := by
        rw [List.length_take]
        omega
      rw [List.length_cons, Nat.add_sub_add_right, List.cons_append, digitsValue_cons hc, ih hrest,
        List.map_cons, leading, List.length_append, List.length_replicate,
        Nat.add_sub_cancel' hlength]

namespace Timestamp

-- How an instant is spelled: a date with seconds of the day, the digits of a fraction of a second
-- and an offset in minutes, or a number of seconds since 1970.
inductive Spelling where
  | dateTime (date : Date) (second : Nat) (fraction : List Nat) (offset : Int)
  | epoch (number : Decimal)

namespace Spelling

def instant : Spelling → ℚ
  | .dateTime date second fraction offset =>
    ((date.dayNumber * 86400 + second : Nat) - offset * 60 : Int) + fractionValue fraction
  | .epoch number => (DateTime.epochDay * 86400 : Nat) + number.value

def kept : Spelling → Int
  | .dateTime date second fraction offset =>
    ⌊(dateTime date second fraction offset).instant * 10 ^ 6⌋
  | .epoch number => ((DateTime.epochDay * 86400 : Nat) + ⌊number.nearest⌋) * 10 ^ 6

-- At most six digits behind the point, and whole seconds since 1970.
def IsKept : Spelling → Prop
  | .dateTime _ _ fraction _ => fraction.length ≤ 6
  | .epoch number => ∃ n : Nat, number.value = n

end Spelling

def Shape.offset (shape : Shape) : Int :=
  let minutes : Nat := digitsValue shape.offsetHour * 60 + digitsValue shape.offsetMinute
  if shape.negative then -minutes else minutes

def Shape.rows (shape : Shape) : List (List Char) :=
  [shape.year, shape.month, shape.day, shape.hour, shape.minute, shape.second,
    shape.fraction.take 6, shape.offsetHour, shape.offsetMinute]

-- The texts that spell instants. Those of numbers start above the threshold and end with the last
-- year.
inductive Spells : List Char → Spelling → Prop
  | dateTime {text : List Char} {shape : Shape} {date : Date} (hwritten : shape.IsWritten text)
    (hdigits : ∀ row ∈ shape.rows, ∀ c ∈ row, c.isDigit = true)
    (hdate : date.year = digitsValue shape.year ∧ date.month = digitsValue shape.month ∧
      date.day = digitsValue shape.day)
    (hclock : digitsValue shape.hour < 24 ∧ digitsValue shape.minute < 60 ∧
      digitsValue shape.second < 60)
    (hoffset : -1440 < shape.offset ∧ shape.offset < 1440) :
    Spells text (.dateTime date
      ((digitsValue shape.hour * 60 + digitsValue shape.minute) * 60 + digitsValue shape.second)
      (shape.fraction.map digitOf) shape.offset)
  | epoch {text : List Char} {number : Decimal}
    (htext : Decimal.ofText? text = some (false, number))
    (hlow : 10 ^ 9 < number.nearest) (hhigh : number.nearest < DateTime.epochEnd) :
    Spells text (.epoch number)

theorem asciiValue?_eq_some_iff {row : List Char} {n : Nat} :
    asciiValue? row = some n ↔ (∀ c ∈ row, c.isDigit = true) ∧ digitsValue row = n := by
  rw [asciiValue?]
  split
  · rename_i hall
    rw [List.all_eq_true] at hall
    simp only [Option.some.injEq]
    exact ⟨fun h => ⟨hall, h⟩, fun h => h.2⟩
  · rename_i hall
    rw [List.all_eq_true] at hall
    constructor
    · intro h
      cases h
    · exact fun h => absurd h.1 hall

theorem microseconds?_eq_some_iff {row : List Char} {n : Nat} :
    microseconds? row = some n ↔
      (∀ c ∈ row.take 6, c.isDigit = true) ∧ leading 6 (row.map digitOf) = n := by
  have hfilled : (∀ c ∈ row.take 6 ++ List.replicate (6 - (row.take 6).length) '0',
      c.isDigit = true) ↔ ∀ c ∈ row.take 6, c.isDigit = true := by
    rw [List.forall_mem_append]
    refine and_iff_left ?_
    intro c hc
    rw [List.eq_of_mem_replicate hc]
    rfl
  rw [microseconds?, asciiValue?_eq_some_iff, hfilled]
  constructor
  · rintro ⟨hdigits, rfl⟩
    exact ⟨hdigits, (digitsValue_filled 6 hdigits).symm⟩
  · rintro ⟨hdigits, rfl⟩
    exact ⟨hdigits, digitsValue_filled 6 hdigits⟩

theorem ofParts?_eq_some_iff {year month day : Nat} {date : Date} :
    Date.ofParts? year month day = some date ↔
      date.year = year ∧ date.month = month ∧ date.day = day := by
  constructor
  · intro h
    unfold Date.ofParts? at h
    split at h
    · split at h
      · split at h
        · cases h
          exact ⟨rfl, rfl, rfl⟩
        · cases h
      · cases h
    · cases h
  · rintro ⟨rfl, rfl, rfl⟩
    rw [Date.ofParts?, dif_pos date.year_valid, dif_pos date.month_valid, dif_pos date.day_valid]

theorem clockOfParts?_eq_some_iff {hour minute second microsecond : Nat} {clock : Clock} :
    Clock.ofParts? hour minute second microsecond = some clock ↔
      clock.hour = hour ∧ clock.minute = minute ∧ clock.second = second ∧
        clock.microsecond = microsecond := by
  constructor
  · intro h
    unfold Clock.ofParts? at h
    split at h
    · cases h
      exact ⟨rfl, rfl, rfl, rfl⟩
    · cases h
  · rintro ⟨rfl, rfl, rfl, rfl⟩
    rw [Clock.ofParts?, dif_pos clock.valid]

theorem Shape.forall_rows_iff {shape : Shape} :
    (∀ row ∈ shape.rows, ∀ c ∈ row, c.isDigit = true) ↔
      asciiValue? shape.year = some (digitsValue shape.year) ∧
      asciiValue? shape.month = some (digitsValue shape.month) ∧
      asciiValue? shape.day = some (digitsValue shape.day) ∧
      asciiValue? shape.hour = some (digitsValue shape.hour) ∧
      asciiValue? shape.minute = some (digitsValue shape.minute) ∧
      asciiValue? shape.second = some (digitsValue shape.second) ∧
      microseconds? shape.fraction = some (leading 6 (shape.fraction.map digitOf)) ∧
      asciiValue? shape.offsetHour = some (digitsValue shape.offsetHour) ∧
      asciiValue? shape.offsetMinute = some (digitsValue shape.offsetMinute) := by
  simp only [rows, List.forall_mem_cons, List.not_mem_nil, false_implies, implies_true, and_true,
    asciiValue?_eq_some_iff, microseconds?_eq_some_iff]

-- The date-time of a shape has the numbers that the rows name, if a date, a clock and an offset have
-- them.
theorem Shape.dateTime?_eq_some_iff {shape : Shape} {t : DateTime} :
    shape.dateTime? = some t ↔
      (∀ row ∈ shape.rows, ∀ c ∈ row, c.isDigit = true) ∧
      (t.date.year = digitsValue shape.year ∧ t.date.month = digitsValue shape.month ∧
        t.date.day = digitsValue shape.day) ∧
      (t.clock.hour = digitsValue shape.hour ∧ t.clock.minute = digitsValue shape.minute ∧
        t.clock.second = digitsValue shape.second ∧
        t.clock.microsecond = leading 6 (shape.fraction.map digitOf)) ∧
      t.offset = shape.offset := by
  rw [Shape.forall_rows_iff]
  constructor
  · intro h
    simp only [dateTime?, Option.bind_eq_bind, Option.bind_eq_some_iff] at h
    obtain ⟨year, hyear, month, hmonth, day, hday, date, hdate, hour, hhour, minute, hminute, second,
      hsecond, microsecond, hfraction, clock, hclock, offsetHour, hoffsetHour, offsetMinute,
      hoffsetMinute, h⟩ := h
    obtain ⟨-, rfl⟩ := asciiValue?_eq_some_iff.mp hyear
    obtain ⟨-, rfl⟩ := asciiValue?_eq_some_iff.mp hmonth
    obtain ⟨-, rfl⟩ := asciiValue?_eq_some_iff.mp hday
    obtain ⟨-, rfl⟩ := asciiValue?_eq_some_iff.mp hhour
    obtain ⟨-, rfl⟩ := asciiValue?_eq_some_iff.mp hminute
    obtain ⟨-, rfl⟩ := asciiValue?_eq_some_iff.mp hsecond
    obtain ⟨-, rfl⟩ := microseconds?_eq_some_iff.mp hfraction
    obtain ⟨-, rfl⟩ := asciiValue?_eq_some_iff.mp hoffsetHour
    obtain ⟨-, rfl⟩ := asciiValue?_eq_some_iff.mp hoffsetMinute
    change (if hrange : -1440 < shape.offset ∧ shape.offset < 1440 then
      some (DateTime.mk date clock shape.offset hrange) else none) = some t at h
    split at h
    · cases h
      exact ⟨⟨hyear, hmonth, hday, hhour, hminute, hsecond, hfraction, hoffsetHour, hoffsetMinute⟩,
        ofParts?_eq_some_iff.mp hdate, clockOfParts?_eq_some_iff.mp hclock, rfl⟩
    · cases h
  · rintro ⟨⟨hyear, hmonth, hday, hhour, hminute, hsecond, hfraction, hoffsetHour, hoffsetMinute⟩,
      hdate, hclock, hoffset⟩
    have hvalid := t.offset_valid
    rw [hoffset] at hvalid
    simp only [dateTime?, Option.bind_eq_bind, hyear, hmonth, hday, hhour, hminute, hsecond, hfraction,
      hoffsetHour, hoffsetMinute, Option.bind_some, ofParts?_eq_some_iff.mpr hdate,
      clockOfParts?_eq_some_iff.mpr hclock]
    change (if hrange : -1440 < shape.offset ∧ shape.offset < 1440 then
      some (DateTime.mk t.date t.clock shape.offset hrange) else none) = some t
    rw [dif_pos hvalid]
    obtain ⟨date, clock, offset, hrange⟩ := t
    cases hoffset
    rfl

theorem instant_eq_kept {t : DateTime} {second : Nat} {fraction : List Char}
    (hsecond : t.clock.seconds = second)
    (hfraction : t.clock.microsecond = leading 6 (fraction.map digitOf)) :
    t.instant = (Spelling.dateTime t.date second (fraction.map digitOf) t.offset).kept := by
  have hsplit (whole : Int) (part : ℚ) :
      ⌊(whole + part) * 10 ^ 6⌋ = whole * 10 ^ 6 + ⌊part * 10 ^ 6⌋ := by
    rw [add_mul, ← Int.floor_intCast_add]
    congr 2
    push_cast
    rfl
  rw [Spelling.kept, Spelling.instant, hsplit, floor_fractionValue 6 (mem_digits_lt fraction),
    ← hfraction, ← hsecond, DateTime.instant]
  rfl

theorem ofText?_of_isWritten {text : List Char} {shape : Shape} (h : shape.IsWritten text) :
    ofText? text = shape.dateTime? := by
  have hcolon : ':' ∈ text := by
    obtain ⟨mark, offset, ends, -, -, -, rfl⟩ := h.text_eq
    simp
  have hne : text ≠ [] := by
    rintro rfl
    cases hcolon
  rw [ofText?, if_neg hne, Double.ofText?_of_colon hcolon, Option.filter_none]
  rw [internet?, shape?_eq_some_iff.mpr h, Option.bind_some]

theorem exists_ofText?_of_epoch {text : List Char} {number : Decimal}
    (htext : Decimal.ofText? text = some (false, number)) (hlow : 10 ^ 9 < number.nearest)
    (hhigh : number.nearest < DateTime.epochEnd) :
    ∃ t, ofText? text = some t ∧ t.instant = (Spelling.epoch number).kept := by
  have hne : text ≠ [] := by
    rintro rfl
    cases htext
  have hpositive : 0 < number.nearest := lt_trans (by norm_num) hlow
  obtain ⟨units, hr, hdouble⟩ := Decimal.exists_toDouble_of_nearest hpositive
  have hnearest := Decimal.nearest_of_toDouble hdouble
  have hnumber : Double.ofText? text = some (.finite false units hr) :=
    (Double.ofText?_eq_some_iff rfl).mpr ⟨false, number, htext, hdouble.symm⟩
  have hexceeds : (Double.finite false units hr).exceeds epochThreshold = true := by
    have hlow : ((epochThreshold : Nat) : ℚ) < unitsValue units := by
      rw [← hnearest, epochThreshold]
      exact_mod_cast hlow
    simp [Double.exceeds, natCast_lt_unitsValue_iff.mp hlow]
  have hend : units / unitsPerOne < DateTime.epochEnd := by
    rw [Nat.div_lt_iff_lt_mul unitsPerOne_pos, ← unitsValue_lt_natCast_iff, ← hnearest]
    exact hhigh
  obtain ⟨t, ht, hinstant⟩ := DateTime.exists_ofEpochSeconds? hend
  refine ⟨t, ?_, ?_⟩
  · rw [ofText?, if_neg hne, hnumber, Option.filter_some, if_pos hexceeds]
    exact ht
  · rw [hinstant, Spelling.kept, hnearest, floor_unitsValue]
    rfl

theorem spells_epoch {text : List Char} {number : Decimal} {seconds : Int}
    (htext : Decimal.ofText? text = some (false, number))
    (hlow : (number.toDouble false).exceeds epochThreshold = true)
    (hwhole : (number.toDouble false).truncate? = some seconds)
    (hhigh : seconds < DateTime.epochEnd) : Spells text (.epoch number) := by
  cases hdouble : number.toDouble false with
  | finite sign units hr =>
    have hsign := Decimal.sign_of_toDouble hdouble
    subst hsign
    have hnearest := Decimal.nearest_of_toDouble hdouble
    rw [hdouble] at hlow hwhole
    have hunits : epochThreshold * unitsPerOne < units := by simpa [Double.exceeds] using hlow
    have hseconds : ((units / unitsPerOne : Nat) : Int) = seconds := Option.some.inj hwhole
    refine .epoch htext ?_ ?_
    · have hlower := natCast_lt_unitsValue_iff.mpr hunits
      rw [hnearest]
      rw [epochThreshold] at hlower
      exact_mod_cast hlower
    · rw [hnearest, unitsValue_lt_natCast_iff, ← Nat.div_lt_iff_lt_mul unitsPerOne_pos]
      omega
  | infinite sign =>
    rw [hdouble] at hwhole
    cases hwhole
  | nan =>
    rw [hdouble] at hwhole
    cases hwhole

theorem exists_epoch_of_number {text : List Char} {number : Double} {t : DateTime}
    (hnumber : Double.ofText? text = some number) (hexceeds : number.exceeds epochThreshold = true)
    (ht : (number.truncate?.bind fun seconds => DateTime.ofEpochSeconds? seconds.toNat) = some t) :
    ∃ d, Spells text (.epoch d) := by
  obtain ⟨seconds, hwhole, hdate⟩ := Option.bind_eq_some_iff.mp ht
  have hend := DateTime.lt_of_ofEpochSeconds? hdate
  cases number with
  | finite sign units hr =>
    obtain ⟨negative, d, hd, hdouble⟩ := (Double.ofText?_eq_some_iff rfl).mp hnumber
    have hsign : sign = false := by
      cases sign with
      | false => rfl
      | true => cases hexceeds
    subst hsign
    have hnegative := Decimal.sign_of_toDouble hdouble.symm
    subst hnegative
    rw [hdouble] at hexceeds hwhole
    exact ⟨d, spells_epoch hd hexceeds hwhole (by omega)⟩
  | infinite sign => cases hwhole
  | nan => cases hwhole

theorem Spells.exists_ofText? {text : List Char} {spelling : Spelling} (h : Spells text spelling) :
    ∃ t, ofText? text = some t ∧ t.instant = spelling.kept := by
  cases h with
  | epoch htext hlow hhigh => exact exists_ofText?_of_epoch htext hlow hhigh
  | @dateTime shape date hwritten hdigits hdate hclock hoffset =>
    have hvalid : digitsValue shape.hour < 24 ∧ digitsValue shape.minute < 60 ∧
        digitsValue shape.second < 60 ∧ leading 6 (shape.fraction.map digitOf) < 1000000 :=
      ⟨hclock.1, hclock.2.1, hclock.2.2, leading_lt 6 (mem_digits_lt shape.fraction)⟩
    have hdateTime : shape.dateTime? =
        some ⟨date, ⟨_, _, _, _, hvalid⟩, shape.offset, hoffset⟩ :=
      Shape.dateTime?_eq_some_iff.mpr ⟨hdigits, hdate, ⟨rfl, rfl, rfl, rfl⟩, rfl⟩
    refine ⟨_, (ofText?_of_isWritten hwritten).trans hdateTime, ?_⟩
    exact instant_eq_kept rfl rfl

theorem exists_spells {text : List Char} {t : DateTime} (h : ofText? text = some t) :
    ∃ spelling, Spells text spelling := by
  have hne : text ≠ [] := by
    rintro rfl
    cases h
  rw [ofText?, if_neg hne] at h
  split at h
  · rename_i number hfilter
    obtain ⟨hnumber, hexceeds⟩ := Option.filter_eq_some_iff.mp hfilter
    obtain ⟨d, hd⟩ := exists_epoch_of_number hnumber hexceeds h
    exact ⟨_, hd⟩
  · obtain ⟨shape, hshape, hdateTime⟩ := Option.bind_eq_some_iff.mp h
    obtain ⟨hdigits, hdate, ⟨hhour, hminute, hsecond, -⟩, hoffset⟩ :=
      Shape.dateTime?_eq_some_iff.mp hdateTime
    obtain ⟨hhours, hminutes, hseconds, -⟩ := t.clock.valid
    rw [hhour] at hhours
    rw [hminute] at hminutes
    rw [hsecond] at hseconds
    have hrange := t.offset_valid
    rw [hoffset] at hrange
    exact ⟨_, .dateTime (shape?_eq_some_iff.mp hshape) hdigits hdate ⟨hhours, hminutes, hseconds⟩
      hrange⟩

theorem Spells.kept_eq_instant {text : List Char} {spelling : Spelling} (h : Spells text spelling)
    (hkept : spelling.IsKept) : (spelling.kept : ℚ) = spelling.instant * 10 ^ 6 := by
  cases h with
  | @dateTime shape date hwritten hdigits hdate hclock hoffset =>
    have hwhole (whole : Int) :
        ((whole * 10 ^ 6 + leading 6 (shape.fraction.map digitOf) : Int) : ℚ) =
        (whole + fractionValue (shape.fraction.map digitOf)) * 10 ^ 6 := by
      rw [add_mul, fractionValue_of_length_le hkept]
      push_cast
      rfl
    rw [Spelling.kept, Spelling.instant, ← hwhole, Int.floor_intCast]
  | epoch htext hlow hhigh =>
    obtain ⟨n, hn⟩ := hkept
    have hpositive := lt_trans (show (0 : ℚ) < 10 ^ 9 by norm_num) hlow
    have hnearest := Decimal.nearest_of_whole hn (by decide) hpositive hhigh
    rw [Spelling.kept, Spelling.instant, hnearest, hn, Int.floor_natCast]
    push_cast
    rfl

end Timestamp

end LogSieve
