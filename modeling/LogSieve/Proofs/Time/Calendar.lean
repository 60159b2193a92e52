import LogSieve.Time.DateTime
import Mathlib.Data.Nat.ModEq

namespace LogSieve

def yearLength (year : Nat) : Nat :=
  if isLeapYear year then 366 else 365

theorem sum_monthLengths (year : Nat) : (monthLengths year).sum = yearLength year := by
  unfold yearLength monthLengths
  cases isLeapYear year <;> rfl

-- Every fourth year has a day more, every hundredth of them not, every four hundredth all the same.
theorem daysBeforeYear_succ (past : Nat) :
    daysBeforeYear (past + 2) = daysBeforeYear (past + 1) + yearLength (past + 1) := by
  have hcentury : past / 100 ≤ past := Nat.div_le_self _ _
  have hmore : 400 ∣ past + 1 → 100 ∣ past + 1 := (show 100 ∣ 400 by decide).trans
  have hfour : 100 ∣ past + 1 → 4 ∣ past + 1 := (show 4 ∣ 100 by decide).trans
  simp only [daysBeforeYear, Nat.add_sub_cancel, show past + 2 - 1 = past + 1 from rfl,
    Nat.succ_div, yearLength, isLeapYear, Bool.and_eq_true, Bool.or_eq_true, beq_iff_eq, bne_iff_ne,
    ne_eq, ← Nat.dvd_iff_mod_eq_zero]
  by_cases h4 : 4 ∣ past + 1
  · by_cases h100 : 100 ∣ past + 1
    · by_cases h400 : 400 ∣ past + 1 <;> simp only [h4, h100, h400] <;> simp <;> omega
    · have h400 : ¬400 ∣ past + 1 := fun h => h100 (hmore h)
      simp only [h4, h100, h400]
      simp
      omega
  · have h100 : ¬100 ∣ past + 1 := fun h => h4 (hfour h)
    have h400 : ¬400 ∣ past + 1 := fun h => h100 (hmore h)
    simp only [h4, h100, h400]
    simp
    omega

-- Four hundred years have 146097 days, and shorter spans keep close to that.
theorem daysBeforeYear_bounds (past : Nat) :
    146097 * past ≤ 400 * daysBeforeYear (past + 1) + 699 ∧
      400 * daysBeforeYear (past + 1) ≤ 146097 * past + 396 := by
  simp only [daysBeforeYear, Nat.add_sub_cancel]
  omega

namespace Date

theorem yearOf_spec (number : Nat) :
    ∃ past, yearOf number = past + 1 ∧ daysBeforeYear (past + 1) ≤ number ∧
      number < daysBeforeYear (past + 2) := by
  have hguess := Nat.div_add_mod (number * 400) 146097
  have hrest : number * 400 % 146097 < 146097 := Nat.mod_lt _ (by decide)
  simp only [yearOf]
  generalize number * 400 / 146097 = past at hguess ⊢
  by_cases hlow : number < daysBeforeYear (past + 1)
  · have hpast : 1 ≤ past := by
      rcases Nat.eq_zero_or_pos past with rfl | h
      · simp [daysBeforeYear] at hlow
      · exact h
    obtain ⟨before, rfl⟩ : ∃ before, past = before + 1 := ⟨past - 1, by omega⟩
    have hbounds := daysBeforeYear_bounds before
    refine ⟨before, by simp [hlow], by omega, hlow⟩
  · by_cases hhigh : daysBeforeYear (past + 2) ≤ number
    · have hbounds := daysBeforeYear_bounds (past + 2)
      refine ⟨past + 1, by simp [hlow, hhigh], hhigh, ?_⟩
      show number < daysBeforeYear (past + 2 + 1)
      omega
    · exact ⟨past, by simp [hlow, hhigh], by omega, by omega⟩

theorem monthAndDay_spec {lengths : List Nat} {day : Nat} (h : day < lengths.sum) :
    ∃ before inMonth, monthAndDay lengths day = (before + 1, inMonth + 1) ∧
      before < lengths.length ∧ inMonth < lengths.getD before 0 ∧
      (lengths.take before).sum + inMonth = day := by
  induction lengths generalizing day with
  | nil => simp at h
  | cons length rest ih =>
    rw [monthAndDay]
    by_cases hday : day < length
    · exact ⟨0, day, by simp [hday], by simp, by simpa using hday, by simp⟩
    · rw [List.sum_cons] at h
      obtain ⟨before, inMonth, hfound, hbefore, hmonth, hsum⟩ :=
        ih (show day - length < rest.sum by omega)
      refine ⟨before + 1, inMonth, by simp [hday, hfound], ?_, by simpa using hmonth, ?_⟩
      · rw [List.length_cons]
        omega
      · rw [List.take_succ_cons, List.sum_cons]
        omega

theorem daysBeforeYear_end : daysBeforeYear (lastYear + 1) = 3652059 := rfl

theorem exists_ofDayNumber? {number : Nat} (h : number < daysBeforeYear (lastYear + 1)) :
    ∃ date, ofDayNumber? number = some date ∧ date.dayNumber = number := by
  obtain ⟨past, hyear, hlow, hhigh⟩ := yearOf_spec number
  have hin : number - daysBeforeYear (past + 1) < (monthLengths (past + 1)).sum := by
    rw [sum_monthLengths]
    have hsucc := daysBeforeYear_succ past
    omega
  obtain ⟨before, inMonth, hfound, hmonth, hday, hsum⟩ := monthAndDay_spec hin
  have hlast : past + 1 ≤ lastYear := by
    by_contra hbeyond
    have hbounds := daysBeforeYear_bounds past
    rw [daysBeforeYear_end] at h
    unfold lastYear at hbeyond
    omega
  have hmonths : before + 1 ≤ 12 := hmonth
  refine ⟨⟨past + 1, before + 1, inMonth + 1, ⟨by omega, hlast⟩, ⟨by omega, hmonths⟩,
    ⟨by omega, hday⟩⟩, ?_, ?_⟩
  · simp only [ofDayNumber?, hyear, hfound]
    rw [ofParts?, dif_pos ⟨by omega, hlast⟩, dif_pos ⟨by omega, hmonths⟩, dif_pos ⟨by omega, hday⟩]
  · simp only [dayNumber, daysBeforeMonth, Nat.add_sub_cancel, ← List.sum_eq_foldl]
    omega

theorem lt_of_ofDayNumber? {number : Nat} {date : Date} (h : ofDayNumber? number = some date) :
    number < daysBeforeYear (lastYear + 1) := by
  obtain ⟨past, hyear, hlow, hhigh⟩ := yearOf_spec number
  have hlast : past + 1 ≤ lastYear := by
    by_contra hbeyond
    have hnone : ¬(1 ≤ yearOf number ∧ yearOf number ≤ lastYear) := by omega
    simp only [ofDayNumber?, ofParts?, dif_neg hnone] at h
    cases h
  by_contra hbeyond
  have hbound : 400 * daysBeforeYear (past + 2) ≤ 146097 * (past + 1) + 396 :=
    (daysBeforeYear_bounds (past + 1)).2
  rw [daysBeforeYear_end] at hbeyond
  have hyears : past + 1 = 9999 := by
    unfold lastYear at hlast
    omega
  rw [show past + 2 = lastYear + 1 by unfold lastYear; omega, daysBeforeYear_end] at hhigh
  omega

end Date

namespace DateTime

def epochEnd : Nat := 253402300800

theorem exists_ofEpochSeconds? {seconds : Nat} (h : seconds < epochEnd) :
    ∃ t, ofEpochSeconds? seconds = some t ∧
      t.instant = ((epochDay * 86400 + seconds : Nat) : Int) * 1000000 := by
  have hday : epochDay + seconds / 86400 < daysBeforeYear (lastYear + 1) := by
    rw [Date.daysBeforeYear_end]
    unfold epochDay
    unfold epochEnd at h
    omega
  obtain ⟨date, hdate, hnumber⟩ := Date.exists_ofDayNumber? hday
  have hclock : seconds % 86400 / 3600 < 24 ∧ seconds % 86400 / 60 % 60 < 60 ∧
      seconds % 86400 % 60 < 60 ∧ 0 < 1000000 := by omega
  refine ⟨⟨date, ⟨_, _, _, _, hclock⟩, 0, by decide⟩, ?_, ?_⟩
  · simp only [ofEpochSeconds?, hdate, Clock.ofParts?, dif_pos hclock]
    rfl
  · simp only [instant, hnumber, Clock.seconds]
    omega

-- The seconds are counted from the first day of 1970.
example : Date.dayNumber ⟨1970, 1, 1, by decide, by decide, by decide⟩ = epochDay := rfl

theorem lt_of_ofEpochSeconds? {seconds : Nat} {t : DateTime}
    (h : ofEpochSeconds? seconds = some t) : seconds < epochEnd := by
  simp only [ofEpochSeconds?, Option.bind_eq_bind, Option.bind_eq_some_iff] at h
  obtain ⟨date, hdate, -⟩ := h
  have hday := Date.lt_of_ofDayNumber? hdate
  rw [Date.daysBeforeYear_end] at hday
  unfold epochDay at hday
  unfold epochEnd
  omega

end DateTime

end LogSieve
