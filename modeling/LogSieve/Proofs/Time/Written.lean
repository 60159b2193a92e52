import LogSieve.Proofs.Text.Blank
import LogSieve.Time.Timestamp
import Mathlib.Data.List.TakeDrop
import Mathlib.Data.List.TakeWhile

namespace LogSieve

namespace Timestamp

def IsRow (count : Nat) (row : List Char) : Prop :=
  row.length = count ∧ ∀ c ∈ row, isDigit c = true

theorem digitRow?_eq_some_iff {count : Nat} {text row rest : List Char} :
    digitRow? count text = some (row, rest) ↔ IsRow count row ∧ text = row ++ rest := by
  induction count generalizing text row with
  | zero =>
    constructor
    · intro h
      cases h
      exact ⟨⟨rfl, by simp⟩, rfl⟩
    · rintro ⟨⟨hlength, -⟩, rfl⟩
      rw [List.length_eq_zero_iff.mp hlength]
      rfl
  | succ count ih =>
    constructor
    · intro h
      cases text with
      | nil => cases h
      | cons c text =>
        rw [digitRow?] at h
        split at h
        · rename_i hc
          obtain ⟨⟨more, behind⟩, hmore, heq⟩ := Option.map_eq_some_iff.mp h
          cases heq
          obtain ⟨⟨hlength, hdigits⟩, rfl⟩ := ih.mp hmore
          exact ⟨⟨congrArg (· + 1) hlength, List.forall_mem_cons.mpr ⟨hc, hdigits⟩⟩, rfl⟩
        · cases h
    · rintro ⟨⟨hlength, hdigits⟩, rfl⟩
      cases row with
      | nil => cases hlength
      | cons c row =>
        obtain ⟨hc, hmore⟩ := List.forall_mem_cons.mp hdigits
        have hrow := ih.mpr ⟨⟨Nat.succ.inj hlength, hmore⟩, rfl⟩
        rw [List.cons_append, digitRow?, if_pos hc, hrow]
        rfl

theorem behind?_eq_some_iff {mark : Char → Bool} {text rest : List Char} :
    behind? mark text = some rest ↔ ∃ c, mark c = true ∧ text = c :: rest := by
  cases text with
  | nil => simp [behind?]
  | cons c text =>
    rw [behind?]
    constructor
    · intro h
      split at h
      · rename_i hc
        cases h
        exact ⟨c, hc, rfl⟩
      · cases h
    · rintro ⟨d, hd, heq⟩
      cases heq
      rw [if_pos hd]

def pointed (fraction : List Char) : List Char :=
  if fraction = [] then [] else '.' :: fraction

theorem of_fractionShape? {text row rest : List Char}
    (h : fractionShape? text = some (row, rest)) :
    (∀ c ∈ row, isDigit c = true) ∧ text = pointed row ++ rest := by
  unfold fractionShape? at h
  split at h
  · rename_i behind
    simp only [List.span_eq_takeWhile_dropWhile] at h
    split at h
    · cases h
    · rename_i hne
      cases h
      refine ⟨fun c hc => List.mem_takeWhile_imp hc, ?_⟩
      rw [pointed, if_neg hne, List.cons_append, List.takeWhile_append_dropWhile]
  · cases h
    exact ⟨by simp, rfl⟩

-- A fraction ends where neither a digit nor a point follows.
theorem fractionShape?_pointed {row : List Char} (hrow : ∀ c ∈ row, isDigit c = true) {c : Char}
    (hdigit : isDigit c = false) (hpoint : c ≠ '.') (rest : List Char) :
    fractionShape? (pointed row ++ c :: rest) = some (row, c :: rest) := by
  by_cases hne : row = []
  · subst hne
    rw [pointed, if_pos rfl, List.nil_append, fractionShape?]
    intro behind heq
    exact hpoint (List.cons.inj heq).1
  · have hstop : ∀ d ∈ (c :: rest).head?, isDigit d = false := by
      rintro _ ⟨⟩
      exact hdigit
    obtain ⟨htake, hdrop⟩ := span_append hrow hstop
    rw [pointed, if_neg hne, List.cons_append, fractionShape?]
    simp only [List.span_eq_takeWhile_dropWhile, htake, hdrop, hne, if_false]

-- An offset as it is written: `Z`, or a sign, hours and minutes.
inductive IsOffset : List Char → Bool → List Char → List Char → Prop
  | zulu {c : Char} (hc : c = 'Z' ∨ c = 'z') : IsOffset [c] false ['0'] ['0']
  | numeric (negative : Bool) {hour minute : List Char} (hhour : IsRow 2 hour)
    (hminute : IsRow 2 minute) :
    IsOffset ((if negative then '-' else '+') :: (hour ++ ':' :: minute)) negative hour minute

-- What may follow a date-time: nothing, or one line break.
def IsEnd (text : List Char) : Prop :=
  text = [] ∨ text = ['\n']

theorem offsetShape?_eq_some_iff {text hour minute : List Char} {negative : Bool} :
    offsetShape? text = some (negative, hour, minute) ↔
      ∃ offset ends, IsOffset offset negative hour minute ∧ IsEnd ends ∧ text = offset ++ ends := by
  constructor
  · intro h
    cases text with
    | nil => cases h
    | cons c rest =>
      simp only [offsetShape?] at h
      split at h
      · rename_i hc
        split at h
        · rename_i hends
          cases h
          exact ⟨[c], rest, .zulu hc, by simpa [IsEnd] using hends, rfl⟩
        · cases h
      · split at h
        · rename_i hsign
          simp only [Option.bind_eq_bind, Option.bind_eq_some_iff, Prod.exists,
            digitRow?_eq_some_iff, behind?_eq_some_iff] at h
          obtain ⟨hour', rest₁, ⟨hhour, rfl⟩, rest₂, ⟨c', hc', rfl⟩, minute', rest₃,
            ⟨hminute, rfl⟩, h⟩ := h
          have hcolon : c' = ':' := by simpa using hc'
          subst hcolon
          split at h
          · rename_i hends
            cases h
            refine ⟨_, rest₃, .numeric (c == '-') hhour hminute, by simpa [IsEnd] using hends, ?_⟩
            rcases hsign with rfl | rfl <;> simp
          · cases h
        · cases h
  · rintro ⟨offset, ends, hoffset, hends, rfl⟩
    have hend : ¬ends = [] → ends = ['\n'] := hends.resolve_left
    cases hoffset with
    | zulu hc => simpa [offsetShape?, hc] using hend
    | numeric negative hhour hminute =>
      have hhours : digitRow? 2 (hour ++ ':' :: (minute ++ ends)) =
          some (hour, ':' :: (minute ++ ends)) := digitRow?_eq_some_iff.mpr ⟨hhour, rfl⟩
      have hminutes : digitRow? 2 (minute ++ ends) = some (minute, ends) :=
        digitRow?_eq_some_iff.mpr ⟨hminute, rfl⟩
      cases negative <;>
        simpa [offsetShape?, hhours, hminutes, behind?] using hend

-- A date-time as it is written, with its rows of digits. The mark between date and time is a letter
-- in either case.
structure Shape.IsWritten (shape : Shape) (text : List Char) : Prop where
  year : IsRow 4 shape.year
  month : IsRow 2 shape.month
  day : IsRow 2 shape.day
  hour : IsRow 2 shape.hour
  minute : IsRow 2 shape.minute
  second : IsRow 2 shape.second
  fraction : ∀ c ∈ shape.fraction, isDigit c = true
  text_eq : ∃ mark offset ends, (mark = 'T' ∨ mark = 't') ∧
    IsOffset offset shape.negative shape.offsetHour shape.offsetMinute ∧ IsEnd ends ∧
    text = shape.year ++ '-' :: (shape.month ++ '-' :: (shape.day ++ mark :: (shape.hour ++
      ':' :: (shape.minute ++ ':' :: (shape.second ++ (pointed shape.fraction ++
        (offset ++ ends)))))))

theorem isOffset_lead {offset hour minute : List Char} {negative : Bool}
    (h : IsOffset offset negative hour minute) :
    ∃ c rest, offset = c :: rest ∧ isDigit c = false ∧ c ≠ '.' := by
  cases h with
  | zulu hc => rcases hc with rfl | rfl <;> exact ⟨_, _, rfl, by decide, by decide⟩
  | numeric negative hhour hminute => cases negative <;> exact ⟨_, _, rfl, by decide, by decide⟩

theorem shape?_eq_some_iff {text : List Char} {shape : Shape} :
    shape? text = some shape ↔ shape.IsWritten text := by
  constructor
  · intro h
    simp only [shape?, Option.bind_eq_bind, Option.bind_eq_some_iff, Prod.exists,
      digitRow?_eq_some_iff, behind?_eq_some_iff, offsetShape?_eq_some_iff, Option.some.injEq] at h
    obtain ⟨year, rest₁, ⟨hyear, rfl⟩, rest₂, ⟨dash, hdash, rfl⟩, month, rest₃, ⟨hmonth, rfl⟩,
      rest₄, ⟨dash', hdash', rfl⟩, day, rest₅, ⟨hday, rfl⟩, rest₆, ⟨mark, hmark, rfl⟩, hour, rest₇,
      ⟨hhour, rfl⟩, rest₈, ⟨colon, hcolon, rfl⟩, minute, rest₉, ⟨hminute, rfl⟩, rest₁₀,
      ⟨colon', hcolon', rfl⟩, second, rest₁₁, ⟨hsecond, rfl⟩, fraction, rest₁₂, hfraction, negative,
      offsetHour, offsetMinute, ⟨offset, ends, hoffset, hends, rfl⟩, rfl⟩ := h
    obtain ⟨hdigits, rfl⟩ := of_fractionShape? hfraction
    simp only [beq_iff_eq, Bool.or_eq_true] at hdash hdash' hmark hcolon hcolon'
    subst hdash hdash' hcolon hcolon'
    exact ⟨hyear, hmonth, hday, hhour, hminute, hsecond, hdigits, mark, offset, ends, hmark, hoffset,
      hends, rfl⟩
  · rintro ⟨hyear, hmonth, hday, hhour, hminute, hsecond, hdigits, mark, offset, ends, hmark, hoffset,
      hends, rfl⟩
    have hbehind := offsetShape?_eq_some_iff.mpr ⟨offset, ends, hoffset, hends, rfl⟩
    obtain ⟨c, rest, rfl, hc, hpoint⟩ := isOffset_lead hoffset
    have hfraction := fractionShape?_pointed hdigits hc hpoint (rest ++ ends)
    have hrow {count : Nat} {row : List Char} (h : IsRow count row) (rest : List Char) :
        digitRow? count (row ++ rest) = some (row, rest) := digitRow?_eq_some_iff.mpr ⟨h, rfl⟩
    have hmarks : (mark == 'T' || mark == 't') = true := by simpa using hmark
    simp only [shape?, Option.bind_eq_bind, hrow hyear, hrow hmonth, hrow hday, hrow hhour,
      hrow hminute, hrow hsecond, Option.bind_some, behind?, beq_self_eq_true, if_true, hmarks]
    simp only [List.cons_append, hfraction, Option.bind_some]
    rw [← List.cons_append, hbehind, Option.bind_some]

end Timestamp

end LogSieve
