import Sluice.Calendar
/-!
# Dates and days

Every day has a date that exists, and the date says which day it is. Years are counted from March
here, so that a leap day is the last day of its year.

* `year_bounds`: the year that a day of a cycle of 400 years lies in.
* `exists_parts`: a day as a cycle, a year of the cycle, a month and a day of the month.
* `toDays_ofDays`: the date of a day is the date of that day.
* `valid_ofDays`: the date of a day exists, if its year can be handled.
* `year_mem_iff`: the days of the years with four digits.
-/
namespace Sluice.Date

/-- The year that a day of a cycle lies in, and the day of this year. Only a year that ends in the
February of a leap year has a day 365. -/
theorem year_bounds {d : Int} (nonneg : 0 ≤ d) (lt : d < 146097) :
    ∃ y day, y = (d - d / 1460 + d / 36524 - d / 146096) / 365 ∧
      day = d - (365 * y + y / 4 - y / 100) ∧ 0 ≤ y ∧ y < 400 ∧ 0 ≤ day ∧ day ≤ 365 ∧
      (day = 365 → (y + 1) % 4 = 0 ∧ ((y + 1) % 100 ≠ 0 ∨ y = 399)) := by
  rcases Int.lt_or_eq_of_le (show d ≤ 146096 by omega) with lt | rfl
  · -- the day in centuries, four-year spans and years, but for the last day of the cycle
    obtain ⟨g, hg⟩ : ∃ g, g = d / 36524 := ⟨_, rfl⟩
    obtain ⟨k, hk⟩ : ∃ k, k = d % 36524 / 1461 := ⟨_, rfl⟩
    obtain ⟨s, hs⟩ : ∃ s, s = d % 36524 % 1461 := ⟨_, rfl⟩
    obtain ⟨t, ht⟩ : ∃ t, t = if s = 1460 then 3 else s / 365 := ⟨_, rfl⟩
    have hd : d = 36524 * g + 1461 * k + s := by omega
    have spans : d / 1460 = 25 * g + k + (24 * g + k + s) / 1460 := by omega
    have cycle : d / 146096 = 0 := by omega
    have bounds : 0 ≤ g ∧ g ≤ 3 ∧ 0 ≤ k ∧ k ≤ 24 ∧ 0 ≤ s ∧ s ≤ 1460 ∧ (k = 24 → s < 1460) := by
      omega
    have year : (d - d / 1460 + d / 36524 - d / 146096) / 365 = 100 * g + 4 * k + t := by
      rw [spans, cycle, ← hg]
      split at ht <;> omega
    have fours : (100 * g + 4 * k + t) / 4 = 25 * g + k := by split at ht <;> omega
    have hundreds : (100 * g + 4 * k + t) / 100 = g := by split at ht <;> omega
    refine ⟨100 * g + 4 * k + t, s - 365 * t, year.symm, ?_⟩
    split at ht <;> omega
  · exact ⟨399, 365, by decide⟩

/-- A day as a cycle of 400 years, a year of the cycle, a month and a day of the month. -/
theorem exists_parts (days : Int) : ∃ cycle y m day : Int,
    ofDays days = ⟨cycle * 400 + y + (if m < 10 then 0 else 1),
      (if m < 10 then m + 3 else m - 9).toNat, day.toNat⟩ ∧
    days = cycle * 146097 + (365 * y + y / 4 - y / 100 + ((153 * m + 2) / 5 + day - 1)) - 719468 ∧
    0 ≤ y ∧ y < 400 ∧ 0 ≤ m ∧ m < 12 ∧ 1 ≤ day ∧
    (153 * m + 2) / 5 + day ≤ (153 * (m + 1) + 2) / 5 ∧ (153 * m + 2) / 5 + day ≤ 366 ∧
    ((153 * m + 2) / 5 + day = 366 → (y + 1) % 4 = 0 ∧ ((y + 1) % 100 ≠ 0 ∨ y = 399)) := by
  obtain ⟨y, doy, hy, hdoy, y_nonneg, y_lt, doy_nonneg, doy_le, last⟩ :=
    year_bounds (d := (days + 719468) % 146097) (by omega) (by omega)
  obtain ⟨m, hm⟩ : ∃ m, m = (5 * doy + 2) / 153 := ⟨_, rfl⟩
  refine ⟨(days + 719468) / 146097, y, m, doy - (153 * m + 2) / 5 + 1, ?_, by omega, y_nonneg, y_lt,
    by omega, by omega, by omega, by omega, by omega, fun h => last (by omega)⟩
  unfold ofDays
  simp only [← hy, ← hdoy, ← hm]
  by_cases spring : m < 10
  · have later : ¬m + 3 ≤ 2 := by omega
    simp only [if_pos spring, if_neg later]
  · have early : m - 9 ≤ 2 := by omega
    simp only [if_neg spring, if_pos early]

/-- The date of a day is the date of that day. -/
theorem toDays_ofDays (days : Int) : (ofDays days).toDays = days := by
  obtain ⟨cycle, y, m, day, date, sum, bounds⟩ := exists_parts days
  obtain ⟨y_nonneg, y_lt, m_nonneg, m_lt, day_pos, -⟩ := bounds
  have in_cycle : (cycle * 400 + y) / 400 = cycle ∧ (cycle * 400 + y) % 400 = y := by omega
  have day_cast : (day.toNat : Int) = day := Int.toNat_of_nonneg (by omega)
  rw [date, toDays]
  simp only [Int.ofNat_eq_natCast, day_cast]
  by_cases spring : m < 10
  · have month_cast : ((m + 3).toNat : Int) = m + 3 := Int.toNat_of_nonneg (by omega)
    have month : (m + 3 + 9) % 12 = m := by omega
    simp only [if_pos spring, month_cast, month, Int.add_zero]
    rw [if_neg (by omega), in_cycle.1, in_cycle.2]
    omega
  · have month_cast : ((m - 9).toNat : Int) = m - 9 := Int.toNat_of_nonneg (by omega)
    have month : (m - 9 + 9) % 12 = m := by omega
    simp only [if_neg spring, month_cast, month]
    rw [if_pos (by omega), Int.add_sub_cancel, in_cycle.1, in_cycle.2]
    omega

/-- Day 0 is 1970-01-01. -/
example : toDays ⟨1970, 1, 1⟩ = 0 := by decide

theorem isLeap_iff (year : Int) :
    isLeap year = true ↔ year % 4 = 0 ∧ (year % 100 ≠ 0 ∨ year % 400 = 0) := by
  simp only [isLeap, Bool.and_eq_true, Bool.or_eq_true, beq_iff_eq, bne_iff_ne, ne_eq]

/-- A day lies within its month. -/
theorem day_le_daysIn {cycle y m day : Int} (m_bounds : 0 ≤ m ∧ m < 12)
    (month : (153 * m + 2) / 5 + day ≤ (153 * (m + 1) + 2) / 5)
    (year : (153 * m + 2) / 5 + day ≤ 366)
    (last : (153 * m + 2) / 5 + day = 366 → (y + 1) % 4 = 0 ∧ ((y + 1) % 100 ≠ 0 ∨ y = 399)) :
    day ≤ daysIn (cycle * 400 + y + (if m < 10 then 0 else 1))
      (if m < 10 then m + 3 else m - 9).toNat := by
  obtain rfl | rfl | rfl | rfl | rfl | rfl | rfl | rfl | rfl | rfl | rfl | rfl :
      m = 0 ∨ m = 1 ∨ m = 2 ∨ m = 3 ∨ m = 4 ∨ m = 5 ∨ m = 6 ∨ m = 7 ∨ m = 8 ∨ m = 9 ∨ m = 10 ∨
        m = 11 := by omega
  case inr.inr.inr.inr.inr.inr.inr.inr.inr.inr.inr =>
    show day ≤ ((if isLeap (cycle * 400 + y + 1) then 29 else 28 : Nat) : Int)
    split
    · omega
    · next common =>
      rw [isLeap_iff] at common
      omega
  all_goals
    simp [daysIn]
    omega

/-- The date of a day exists, if its year can be handled. -/
theorem valid_ofDays {days : Int} (low : minYear ≤ (ofDays days).year)
    (high : (ofDays days).year ≤ maxYear) : (ofDays days).valid = true := by
  obtain ⟨cycle, y, m, day, date, -, y_nonneg, y_lt, m_nonneg, m_lt, day_pos, month, year, last⟩ :=
    exists_parts days
  have days_in : day ≤ daysIn (cycle * 400 + y + _) _ := day_le_daysIn ⟨m_nonneg, m_lt⟩ month year last
  simp only [valid, Bool.and_eq_true, decide_eq_true_iff, low, high, true_and]
  rw [date]
  simp only
  refine ⟨⟨⟨?_, ?_⟩, by omega⟩, by omega⟩ <;> split <;> omega

/-- The days of the years with four digits. -/
theorem year_mem_iff (days : Int) : 0 ≤ (ofDays days).year ∧ (ofDays days).year ≤ 9999 ↔
    -719528 ≤ days ∧ days < 2932897 := by
  obtain ⟨cycle, y, m, day, date, sum, bounds⟩ := exists_parts days
  obtain ⟨doy, hdoy⟩ : ∃ doy, doy = (153 * m + 2) / 5 + day - 1 := ⟨_, rfl⟩
  obtain ⟨d, hd⟩ : ∃ d, d = 365 * y + y / 4 - y / 100 := ⟨_, rfl⟩
  have spring : m < 10 → 0 ≤ doy ∧ doy < 306 := by omega
  have winter : 10 ≤ m → 306 ≤ doy ∧ doy ≤ 365 := by omega
  have start : 0 ≤ d ∧ d ≤ 145731 := by omega
  have middle : y ≤ 398 → d ≤ 145366 := by omega
  have last : y = 399 → d = 145731 := by omega
  have sum : days = cycle * 146097 + d + doy - 719468 := by omega
  have y_bounds : 0 ≤ y ∧ y < 400 := by omega
  have year : (ofDays days).year = cycle * 400 + y + if m < 10 then 0 else 1 := by rw [date]
  rw [year]
  clear date year hd hdoy bounds
  -- the cycles in which the years of four digits begin and end stand apart
  obtain below | first | inside | final | above :
      cycle ≤ -2 ∨ cycle = -1 ∨ 0 ≤ cycle ∧ cycle < 24 ∨ cycle = 24 ∨ 24 < cycle := by omega
  all_goals split <;> omega

end Sluice.Date
