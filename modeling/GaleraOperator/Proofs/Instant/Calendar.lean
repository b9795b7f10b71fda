import GaleraOperator.Instant.Calendar
import Mathlib

/-!
# Days and dates

The date of a day is one of the calendar, and its day is the day again. The mean length of a year gives a year that is
off by one at most, which `yearOfDay_spec` turns into the year that the day lies in.
-/

namespace GaleraOperator.Calendar

/-- A year is as long as its months. -/
theorem daysBeforeYear_succ (year : Int) :
    daysBeforeYear (year + 1) = daysBeforeYear year + ((monthLengths year).sum : Nat) := by
  have hsum : (monthLengths year).sum = if isLeapYear year then 366 else 365 := by
    unfold monthLengths
    split <;> rfl
  rw [hsum]
  unfold daysBeforeYear isLeapYear
  by_cases h4 : year % 4 = 0 <;> by_cases h100 : year % 100 = 0 <;> by_cases h400 : year % 400 = 0 <;>
    simp [h4, h100, h400] <;> omega

/-- A day lies in its year. -/
theorem yearOfDay_spec (day : Int) :
    daysBeforeYear (yearOfDay day) ≤ day ∧ day < daysBeforeYear (yearOfDay day + 1) := by
  have hbefore : daysBeforeYear (day * 400 / 146097 - 1) ≤ day := by
    unfold daysBeforeYear
    omega
  have hafter : day < daysBeforeYear (day * 400 / 146097 + 2) := by
    unfold daysBeforeYear
    omega
  simp only [yearOfDay]
  split
  · next h => exact ⟨hbefore, by simpa using h⟩
  · split
    · next h => exact ⟨h, by simpa [Int.add_assoc] using hafter⟩
    · exact ⟨by omega, by omega⟩

/-- The month and the day of the month add up to the days since the first month. -/
theorem splitMonths_spec (month : Nat) {lengths : List Nat} {rest : Nat} (h : rest < lengths.sum) :
    ∃ i, ∃ hi : i < lengths.length, (splitMonths month lengths rest).1 = month + i ∧
      1 ≤ (splitMonths month lengths rest).2 ∧ (splitMonths month lengths rest).2 ≤ lengths[i] ∧
      (lengths.take i).sum + ((splitMonths month lengths rest).2 - 1) = rest := by
  induction lengths generalizing month rest with
  | nil => simp at h
  | cons length lengths ih =>
    unfold splitMonths
    split
    · exact ⟨0, by simp, by simp, by simp, by simp; omega, by simp⟩
    · next hge =>
      obtain ⟨i, hi, hmonth, hpos, hle, hsum⟩ := ih (month + 1)
        (show rest - length < lengths.sum by simp only [List.sum_cons] at h; omega)
      refine ⟨i + 1, by simpa using hi, by omega, hpos, by simpa using hle, ?_⟩
      simp only [List.take_succ_cons, List.sum_cons]
      omega

theorem daysBeforeMonth_eq_sum (year : Int) (month : Nat) :
    daysBeforeMonth year month = ((monthLengths year).take (month - 1)).sum := rfl

/-- The date of a day is one of the calendar. -/
theorem ofDay_isValid (day : Int) : (Date.ofDay day).isValid = true := by
  obtain ⟨hle, hlt⟩ := yearOfDay_spec day
  rw [daysBeforeYear_succ] at hlt
  obtain ⟨i, hi, hmonth, hpos, hday, -⟩ := splitMonths_spec 1
    (show (day - daysBeforeYear (yearOfDay day)).toNat < (monthLengths (yearOfDay day)).sum by omega)
  simp only [Date.ofDay, Date.isValid, hmonth, Nat.add_sub_cancel_left, List.getElem?_eq_getElem hi]
  simp only [Bool.and_eq_true, decide_eq_true_eq]
  exact ⟨⟨by omega, hpos⟩, hday⟩

/-- The day of the date of a day is the day. -/
theorem toDay_ofDay (day : Int) : (Date.ofDay day).toDay = day := by
  obtain ⟨hle, hlt⟩ := yearOfDay_spec day
  rw [daysBeforeYear_succ] at hlt
  obtain ⟨i, hi, hmonth, hpos, -, hsum⟩ := splitMonths_spec 1
    (show (day - daysBeforeYear (yearOfDay day)).toNat < (monthLengths (yearOfDay day)).sum by omega)
  simp only [Date.ofDay, Date.toDay, daysBeforeMonth_eq_sum, hmonth, Nat.add_sub_cancel_left]
  omega

theorem le_of_mem_monthLengths {year : Int} {n : Nat} (h : n ∈ monthLengths year) : n ≤ 31 := by
  unfold monthLengths at h
  split at h <;> simp at h <;> omega

/-- Months and days of dates have two digits. -/
theorem lt_of_isValid {d : Date} (h : d.isValid = true) : d.month < 100 ∧ d.day < 100 := by
  unfold Date.isValid at h
  simp only [Bool.and_eq_true, decide_eq_true_eq] at h
  obtain ⟨⟨hmonth, hday⟩, hlength⟩ := h
  split at hlength
  · next length hget =>
    obtain ⟨hi, hget⟩ := List.getElem?_eq_some_iff.1 hget
    have hle : length ≤ 31 := le_of_mem_monthLengths (hget ▸ List.getElem_mem hi)
    have hlt : d.month - 1 < 12 := hi
    simp only [decide_eq_true_eq] at hlength
    omega
  · cases hlength

end GaleraOperator.Calendar
