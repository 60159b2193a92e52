import LogSieve.Proofs.Time.Spelling

namespace LogSieve

theorem isDigit_of_ascii {c : Char} (h : c.isDigit = true) : isDigit c = true := by
  rw [isDigit, digitValue?_of_isDigit h]
  rfl

theorem Date.day_le (date : Date) : date.day ≤ 31 := by
  have hlengths : ∀ length ∈ monthLengths date.year, length ≤ 31 := by
    unfold monthLengths
    cases isLeapYear date.year <;> decide
  refine date.day_valid.2.trans ?_
  rw [List.getD_eq_getElem?_getD]
  cases hlength : (monthLengths date.year)[date.month - 1]? with
  | none => exact Nat.zero_le 31
  | some length => exact hlengths length (List.mem_of_getElem? hlength)

namespace DateTime

theorem isDigit_padded {width n : Nat} : ∀ c ∈ padded width n, c.isDigit = true := by
  intro c hc
  rcases List.mem_append.mp hc with hzero | hdigit
  · rw [List.eq_of_mem_replicate hzero]
    rfl
  · exact isDigit_toDigits hdigit

theorem length_padded {width n : Nat} (hwidth : 0 < width) (h : n < 10 ^ width) :
    (padded width n).length = width := by
  have hdigits := (Nat.length_toDigits_le_iff (by decide) hwidth).mpr h
  rw [padded, List.length_append, List.length_replicate]
  omega

theorem digitsValue_padded (width n : Nat) : digitsValue (padded width n) = n := by
  rw [padded, digitsValue_append, digitsValue_zeros, digitsValue_toDigits, Nat.mul_zero,
    Nat.zero_add]

theorem isRow_padded {width n : Nat} (hwidth : 0 < width) (h : n < 10 ^ width) :
    Timestamp.IsRow width (padded width n) :=
  ⟨length_padded hwidth h, fun c hc => isDigit_of_ascii (isDigit_padded c hc)⟩

def microsecondsOf (fraction : List Char) : Nat :=
  digitsValue ((fraction ++ List.replicate 6 '0').take 6)

-- The zones that an offset may be written as: in full, and none at all as a letter too.
def IsZone (offset : Int) (zone : List Char) : Prop :=
  zone = offsetText offset ∨ offset = 0 ∧ (zone = ['Z'] ∨ zone = ['z'])

-- The date and the clock of a date-time with a letter between them, and digits of a fraction and a
-- zone behind them.
def written (t : DateTime) (mark : Char) (fraction zone : List Char) : List Char :=
  dateText t.date ++ mark :: (clockText t.clock ++ (Timestamp.pointed fraction ++ zone))

theorem microsecondsOf_eq {fraction : List Char} (h : ∀ c ∈ fraction, c.isDigit = true) :
    microsecondsOf fraction = leading 6 (fraction.map digitOf) := by
  have hfilled : (fraction ++ List.replicate 6 '0').take 6 =
      fraction.take 6 ++ List.replicate (6 - (fraction.take 6).length) '0' := by
    rw [List.take_append, List.take_replicate, List.length_take]
    congr 2
    omega
  rw [microsecondsOf, hfilled]
  exact digitsValue_filled 6 fun c hc => h c (List.mem_of_mem_take hc)

theorem microsecondsOf_lt {fraction : List Char} (h : ∀ c ∈ fraction, c.isDigit = true) :
    microsecondsOf fraction < 1000000 := by
  rw [microsecondsOf_eq h]
  exact leading_lt 6 (mem_digits_lt fraction)

def withFraction (t : DateTime) (fraction : List Char) (h : ∀ c ∈ fraction, c.isDigit = true) :
    DateTime :=
  { t with
    clock :=
      { t.clock with
        microsecond := microsecondsOf fraction
        valid := ⟨t.clock.valid.1, t.clock.valid.2.1, t.clock.valid.2.2.1, microsecondsOf_lt h⟩ } }

theorem exists_isOffset {offset : Int} {zone : List Char} (hrange : -1440 < offset ∧ offset < 1440)
    (h : IsZone offset zone) :
    ∃ negative hour minute, Timestamp.IsOffset zone negative hour minute ∧
      ((∀ c ∈ hour, c.isDigit = true) ∧ ∀ c ∈ minute, c.isDigit = true) ∧
      (if negative then -((digitsValue hour * 60 + digitsValue minute : Nat) : Int)
        else ((digitsValue hour * 60 + digitsValue minute : Nat) : Int)) = offset := by
  rcases h with rfl | ⟨rfl, hletter⟩
  · have hhour : Timestamp.IsRow 2 (padded 2 (offset.natAbs / 60)) :=
      isRow_padded (by decide) (by omega)
    have hminute : Timestamp.IsRow 2 (padded 2 (offset.natAbs % 60)) :=
      isRow_padded (by decide) (by omega)
    have hzone := Timestamp.IsOffset.numeric (decide (offset < 0)) hhour hminute
    refine ⟨decide (offset < 0), padded 2 (offset.natAbs / 60), padded 2 (offset.natAbs % 60), ?_,
      ⟨isDigit_padded, isDigit_padded⟩, ?_⟩
    · simpa [offsetText] using hzone
    · rw [digitsValue_padded, digitsValue_padded, Nat.div_add_mod']
      by_cases hnegative : offset < 0
      · simp only [hnegative, decide_true, if_true]
        omega
      · simp only [hnegative, decide_false, Bool.false_eq_true, if_false]
        omega
  · have hzone : Timestamp.IsOffset zone false ['0'] ['0'] := by
      rcases hletter with rfl | rfl
      · exact .zulu (.inl rfl)
      · exact .zulu (.inr rfl)
    exact ⟨false, ['0'], ['0'], hzone, ⟨by simp, by simp⟩, rfl⟩

def shape (t : DateTime) (fraction : List Char) (negative : Bool) (hour minute : List Char) :
    Timestamp.Shape where
  year := padded 4 t.date.year
  month := padded 2 t.date.month
  day := padded 2 t.date.day
  hour := padded 2 t.clock.hour
  minute := padded 2 t.clock.minute
  second := padded 2 t.clock.second
  fraction := fraction
  negative := negative
  offsetHour := hour
  offsetMinute := minute

theorem isWritten_shape (t : DateTime) {mark : Char} {fraction zone hour minute : List Char}
    {negative : Bool} (hmark : mark = 'T' ∨ mark = 't')
    (hfraction : ∀ c ∈ fraction, c.isDigit = true)
    (hoffset : Timestamp.IsOffset zone negative hour minute) :
    (t.shape fraction negative hour minute).IsWritten (t.written mark fraction zone) := by
  obtain ⟨hhours, hminutes, hseconds, -⟩ := t.clock.valid
  have hyear := t.date.year_valid
  have hmonth := t.date.month_valid
  have hday := t.date.day_le
  unfold lastYear at hyear
  exact {
    year := isRow_padded (by decide) (by omega)
    month := isRow_padded (by decide) (by omega)
    day := isRow_padded (by decide) (by omega)
    hour := isRow_padded (by decide) (by omega)
    minute := isRow_padded (by decide) (by omega)
    second := isRow_padded (by decide) (by omega)
    fraction := fun c hc => isDigit_of_ascii (hfraction c hc)
    text_eq := ⟨mark, zone, [], hmark, hoffset, .inl rfl, by
      simp [shape, written, dateText, clockText]⟩ }

-- A date-time reads back from its text: its date, its clock up to the seconds, its offset, and the
-- microseconds of the fraction that was written.
theorem ofText?_written (t : DateTime) {mark : Char} {fraction zone : List Char}
    (hmark : mark = 'T' ∨ mark = 't') (hfraction : ∀ c ∈ fraction, c.isDigit = true)
    (hzone : IsZone t.offset zone) :
    Timestamp.ofText? (t.written mark fraction zone) = some (t.withFraction fraction hfraction) := by
  obtain ⟨negative, hour, minute, hoffset, ⟨hhour, hminute⟩, hminutes⟩ :=
    exists_isOffset t.offset_valid hzone
  have hrows : ∀ row ∈ (t.shape fraction negative hour minute).rows, ∀ c ∈ row,
      c.isDigit = true := by
    simp only [Timestamp.Shape.rows, shape, List.forall_mem_cons, List.not_mem_nil, false_implies,
      implies_true, and_true]
    exact ⟨isDigit_padded, isDigit_padded, isDigit_padded, isDigit_padded, isDigit_padded,
      isDigit_padded, fun c hc => hfraction c (List.mem_of_mem_take hc), hhour, hminute⟩
  rw [Timestamp.ofText?_of_isWritten (t.isWritten_shape hmark hfraction hoffset),
    Timestamp.Shape.dateTime?_eq_some_iff]
  refine ⟨hrows, ?_, ?_, hminutes.symm⟩
  · simp only [shape, digitsValue_padded]
    exact ⟨rfl, rfl, rfl⟩
  · simp only [shape, digitsValue_padded]
    exact ⟨rfl, rfl, rfl, microsecondsOf_eq hfraction⟩

theorem withFraction_eq_self {t : DateTime} {fraction : List Char}
    (hfraction : ∀ c ∈ fraction, c.isDigit = true)
    (h : microsecondsOf fraction = t.clock.microsecond) : t.withFraction fraction hfraction = t := by
  obtain ⟨date, clock, offset, hoffset⟩ := t
  simp only [withFraction, h]

theorem ofText?_text (t : DateTime) : Timestamp.ofText? t.text = some t := by
  by_cases hzero : t.clock.microsecond = 0
  · have hnone : ∀ c ∈ ([] : List Char), c.isDigit = true := by simp
    have hread := t.ofText?_written (.inl rfl) hnone (.inl rfl)
    have htext : t.text = t.written 'T' [] (offsetText t.offset) := by
      simp [text, written, fractionText, Timestamp.pointed, hzero]
    rw [htext, hread, withFraction_eq_self hnone (hzero ▸ by decide)]
  · have hlength : (padded 6 t.clock.microsecond).length = 6 :=
      length_padded (by decide) t.clock.valid.2.2.2
    have hdigits : ∀ c ∈ padded 6 t.clock.microsecond, c.isDigit = true := isDigit_padded
    have hread := t.ofText?_written (.inl rfl) hdigits (.inl rfl)
    have htext : t.text = t.written 'T' (padded 6 t.clock.microsecond) (offsetText t.offset) := by
      have hne : padded 6 t.clock.microsecond ≠ [] := List.ne_nil_of_length_pos (by omega)
      simp [text, written, fractionText, Timestamp.pointed, hzero, hne]
    have hvalue : microsecondsOf (padded 6 t.clock.microsecond) = t.clock.microsecond := by
      rw [microsecondsOf, List.take_left' hlength, digitsValue_padded]
    rw [htext, hread, withFraction_eq_self hdigits hvalue]

end DateTime

theorem plainChar?_of_isDigit {c : Char} (h : c.isDigit = true) :
    Double.plainChar? c = some c ∧ Double.isPlainSpace c = false ∧ c ≠ '_' := by
  have hbounds : 48 ≤ c.toNat ∧ c.toNat ≤ 57 := by
    simpa [Char.isDigit, UInt32.le_iff_toNat_le] using h
  refine ⟨if_pos (by omega), ?_, digit_ne h rfl⟩
  have hbyte : c.toNat.toUInt8.toNat = c.toNat := by
    rw [Nat.toUInt8, UInt8.toNat_ofNat', Nat.mod_eq_of_lt (by omega)]
  rw [Double.isPlainSpace, isBlankByte]
  simp only [Bool.and_eq_false_iff, Bool.or_eq_false_iff, decide_eq_false_iff_not, beq_eq_false_iff_ne,
    UInt8.le_iff_toNat_le, ne_eq, ← UInt8.toNat_inj, hbyte, UInt8.reduceToNat]
  omega

theorem joinDigits?_of_digits {row : List Char} (h : ∀ c ∈ row, c.isDigit = true)
    (afterDigit : Bool) : Double.joinDigits? afterDigit row = some row := by
  induction row generalizing afterDigit with
  | nil => rw [Double.joinDigits?]
  | cons c row ih =>
    obtain ⟨hc, hrow⟩ := List.forall_mem_cons.mp h
    have hmark := (plainChar?_of_isDigit hc).2.2
    rw [Double.joinDigits?, ih hrow, Option.map_some]
    · exact fun _ _ heq => absurd heq hmark
    · exact fun heq => absurd heq hmark

theorem mapM_plainChar? {row : List Char} (h : ∀ c ∈ row, c.isDigit = true) :
    row.mapM Double.plainChar? = some row := by
  induction row with
  | nil => rfl
  | cons c row ih =>
    obtain ⟨hc, hrow⟩ := List.forall_mem_cons.mp h
    simp [List.mapM_cons, (plainChar?_of_isDigit hc).1, ih hrow]

theorem Decimal.ofText?_of_digits {row : List Char} (hne : row ≠ [])
    (h : ∀ c ∈ row, c.isDigit = true) :
    Decimal.ofText? row = some (false, ⟨digitsValue row, 0⟩) := by
  have hstrip : stripBoth Double.isPlainSpace row = row :=
    stripBoth_of_forall_not fun c hc => (plainChar?_of_isDigit (h c hc)).2.1
  have hsign : Decimal.splitSign row = (false, row) := by
    cases row with
    | nil => exact absurd rfl hne
    | cons c rest =>
      have hc := h c List.mem_cons_self
      unfold Decimal.splitSign
      split
      · rename_i heq
        exact absurd (List.cons.inj heq).1 (digit_ne hc rfl)
      · rename_i heq
        exact absurd (List.cons.inj heq).1 (digit_ne hc rfl)
      · rfl
  have hspan : spanDigits row = (row, []) := by
    have hend : ∀ c ∈ ([] : List Char).head?, c.isDigit = false := by simp
    have happend := spanDigits_append h hend
    rwa [List.append_nil] at happend
  have hunsigned : Decimal.unsigned? row = some ⟨digitsValue row, 0⟩ := by
    simp [Decimal.unsigned?, hspan, hne, Double.exponent?]
  simp [Decimal.ofText?, mapM_plainChar? h, hstrip, joinDigits?_of_digits h, hsign, hunsigned]

theorem Timestamp.ofText?_toDigits {n : Nat} (hlow : 10 ^ 9 < n) (hhigh : n < 2 ^ 53) :
    Timestamp.ofText? (Nat.toDigits 10 n) = DateTime.ofEpochSeconds? n := by
  have hdecimal := Decimal.ofText?_of_digits Nat.toDigits_ne_nil
    fun c (hc : c ∈ Nat.toDigits 10 n) => isDigit_toDigits hc
  rw [digitsValue_toDigits] at hdecimal
  have hratio : Decimal.toDouble false ⟨n, 0⟩ = .ofRatio false n 1 :=
    Decimal.toDouble_of_value_eq false Nat.one_pos (by simp [Decimal.value])
  have hdouble := hratio.trans (Double.ofRatio_whole false (representable_whole hhigh) rfl)
  have hnumber : Double.ofText? (Nat.toDigits 10 n) =
      some (.finite false (n * unitsPerOne) (representable_whole hhigh)) :=
    (Double.ofText?_eq_some_iff rfl).mpr ⟨false, _, hdecimal, hdouble.symm⟩
  have hexceeds : (Double.finite false (n * unitsPerOne) (representable_whole hhigh)).exceeds
      epochThreshold = true := by
    have hmore : epochThreshold * unitsPerOne < n * unitsPerOne :=
      Nat.mul_lt_mul_of_pos_right hlow unitsPerOne_pos
    simpa [Double.exceeds] using hmore
  rw [ofText?, if_neg Nat.toDigits_ne_nil, hnumber, Option.filter_some, if_pos hexceeds]
  simp [Double.truncate?, Nat.mul_div_cancel _ unitsPerOne_pos]

namespace DateTime

def epochInstant (seconds : Nat) : Int :=
  ((epochDay * 86400 + seconds : Nat) : Int) * 1000000

-- Seconds from the start of year 1 to that instant, as clocks count them that are `offset` minutes
-- ahead.
def localSeconds (seconds : Nat) (offset : Int) : Int :=
  ((epochDay * 86400 + seconds : Nat) : Int) + offset * 60

theorem exists_atOffset {seconds : Nat} {offset : Int} (hoffset : -1440 < offset ∧ offset < 1440)
    (hlow : 0 ≤ localSeconds seconds offset)
    (hhigh : localSeconds seconds offset < daysBeforeYear (lastYear + 1) * 86400) :
    ∃ here : DateTime, here.offset = offset ∧ here.instant = epochInstant seconds := by
  obtain ⟨second, hsecond⟩ := Int.eq_ofNat_of_zero_le hlow
  rw [hsecond] at hhigh
  have hday : second / 86400 < daysBeforeYear (lastYear + 1) := by omega
  obtain ⟨date, -, hnumber⟩ := Date.exists_ofDayNumber? hday
  have hclock : second % 86400 / 3600 < 24 ∧ second % 86400 / 60 % 60 < 60 ∧
      second % 86400 % 60 < 60 ∧ 0 < 1000000 := by omega
  refine ⟨⟨date, ⟨_, _, _, _, hclock⟩, offset, hoffset⟩, rfl, ?_⟩
  rw [localSeconds] at hsecond
  simp only [instant, epochInstant, hnumber, Clock.seconds]
  omega

theorem microsecond_eq_zero {t : DateTime} {seconds : Nat} (h : t.instant = epochInstant seconds) :
    t.clock.microsecond = 0 := by
  have hbound := t.clock.valid.2.2.2
  rw [instant, epochInstant] at h
  omega

theorem instant_withFraction {t : DateTime} (hzero : t.clock.microsecond = 0) {fraction : List Char}
    (hfraction : ∀ c ∈ fraction, c.isDigit = true) :
    (t.withFraction fraction hfraction).instant = t.instant + microsecondsOf fraction := by
  simp [instant, withFraction, Clock.seconds, hzero]

end DateTime

namespace Timestamp

open DateTime

-- The seconds since 1970 of an instant and its date-time at any offset read as that instant, the
-- date-time with its own date, clock and offset, whatever its letters. A fraction behind its seconds
-- adds microseconds, by its first six digits, and nothing else. And a timestamp, whatever text it was
-- read from, reads back from its own text.
theorem spellings_agree :
    (∀ n : Nat, 10 ^ 9 < n → n ≤ 253402300799 →
      (∃ utc, ofText? (Nat.toDigits 10 n) = some utc ∧ utc.instant = epochInstant n) ∧
      (∀ offset : Int, -1440 < offset ∧ offset < 1440 → 0 ≤ localSeconds n offset →
        localSeconds n offset < daysBeforeYear (lastYear + 1) * 86400 →
          ∃ here : DateTime, here.offset = offset ∧ here.instant = epochInstant n) ∧
      ∀ here : DateTime, here.instant = epochInstant n →
        ∀ mark zone, mark = 'T' ∨ mark = 't' → IsZone here.offset zone →
          ofText? (here.written mark [] zone) = some here ∧
          ∀ (fraction : List Char) (hfraction : ∀ c ∈ fraction, c.isDigit = true), fraction ≠ [] →
            ofText? (here.written mark fraction zone) = some (here.withFraction fraction hfraction) ∧
            (here.withFraction fraction hfraction).instant =
              here.instant + microsecondsOf fraction) ∧
    ∀ raw t, ofText? raw = some t → ofText? t.text = some t := by
  refine ⟨fun n hlow hhigh => ⟨?_, fun offset => exists_atOffset, ?_⟩, fun raw t _ => t.ofText?_text⟩
  · obtain ⟨utc, hutc, hinstant⟩ :=
      exists_ofEpochSeconds? (show n < epochEnd from Nat.lt_succ_of_le hhigh)
    rw [ofText?_toDigits hlow (by omega)]
    exact ⟨utc, hutc, hinstant⟩
  · intro here hinstant mark zone hmark hzone
    -- Whole seconds leave no microseconds for a fraction to add to.
    have hzero := microsecond_eq_zero hinstant
    have hnone : ∀ c ∈ ([] : List Char), c.isDigit = true := by simp
    have hread := here.ofText?_written hmark hnone hzone
    rw [withFraction_eq_self hnone (hzero ▸ by decide)] at hread
    exact ⟨hread, fun fraction hfraction _ =>
      ⟨here.ofText?_written hmark hfraction hzone, instant_withFraction hzero hfraction⟩⟩

-- Before four in the morning at five and a half hours ahead, and a fraction of seven digits.
theorem spellings_agree_aheadOfUtc :
    let here : DateTime := ⟨⟨2023, 11, 15, by decide, by decide, by decide⟩,
      ⟨3, 43, 20, 0, by decide⟩, 330, by decide⟩
    here.instant = epochInstant 1700000000 ∧
    (∃ utc, ofText? "1700000000".toList = some utc ∧ utc.instant = here.instant) ∧
    ofText? "2023-11-15t03:43:20+05:30".toList = some here ∧
    (∃ t, ofText? "2023-11-15t03:43:20.1234567+05:30".toList = some t ∧
      t.instant = here.instant + 123456 ∧ t.offset = 330 ∧
      t.text = "2023-11-15T03:43:20.123456+05:30".toList ∧ ofText? t.text = some t) := by
  intro here
  have hinstant : here.instant = epochInstant 1700000000 := by decide +kernel
  have hdigits : Nat.toDigits 10 1700000000 = "1700000000".toList := by decide
  have hplainText : here.written 't' [] "+05:30".toList = "2023-11-15t03:43:20+05:30".toList := by
    decide
  have hfineText : here.written 't' "1234567".toList "+05:30".toList =
      "2023-11-15t03:43:20.1234567+05:30".toList := by
    decide
  have hfraction : ∀ c ∈ "1234567".toList, c.isDigit = true := List.all_eq_true.mp (by decide)
  have hmicroseconds : microsecondsOf "1234567".toList = 123456 := by decide
  have htext : (here.withFraction _ hfraction).text =
      "2023-11-15T03:43:20.123456+05:30".toList := by
    simp only [text, clockText, fractionText, withFraction, hmicroseconds]
    decide
  obtain ⟨hseconds, hagain⟩ := spellings_agree
  obtain ⟨hutc, -, hwritten⟩ := hseconds 1700000000 (by decide) (by decide)
  obtain ⟨hplain, hmore⟩ := hwritten here hinstant 't' "+05:30".toList (.inr rfl) (.inl (by decide))
  obtain ⟨hfine, hlater⟩ := hmore "1234567".toList hfraction (by decide)
  rw [hplainText] at hplain
  rw [hfineText] at hfine
  rw [hmicroseconds] at hlater
  rw [hdigits, ← hinstant] at hutc
  exact ⟨hinstant, hutc, hplain, _, hfine, hlater, rfl, htext, hagain _ _ hfine⟩

end Timestamp

end LogSieve
