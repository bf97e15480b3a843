import MachineProvisioning.Time.Instant

/-! # Days and civil dates

The date of a day lies in the era and the year that hold the day, so that the day is found again from
the date.
-/

namespace MachineProvisioning.CivilDate

section

variable {day fours centuries last year : Int}

/-- The days of the years before the year of a day of an era are no more than the day. -/
theorem dayOfYear_nonneg (first : 0 ≤ day) (before : day < 146097) (hf : fours = day / 1460)
    (hc : centuries = day / 36524) (hl : last = day / 146096)
    (hy : year = (day - fours + centuries - last) / 365) :
    0 ≤ day - (365 * year + year / 4 - year / 100) := by
  -- The fifth century is that of the last day of the era alone.
  have century : centuries = 0 ∨ centuries = 1 ∨ centuries = 2 ∨ centuries = 3 ∨ centuries = 4 := by
    omega
  have leaps : year / 4 ≤ fours := by omega
  have skipped : centuries - last ≤ year / 100 := by
    rcases century with h | h | h | h | h <;> omega
  omega

theorem isLeapYear_iff (year : Int) :
    isLeapYear year = true ↔ year % 4 = 0 ∧ (year % 100 ≠ 0 ∨ year % 400 = 0) := by
  simp [isLeapYear]

/-- A year has no more days than it should. It ends with the February of the next civil year, which
    decides whether it has a leap day. -/
theorem dayOfYear_le (first : 0 ≤ day) (before : day < 146097) (hf : fours = day / 1460)
    (hc : centuries = day / 36524) (hl : last = day / 146096)
    (hy : year = (day - fours + centuries - last) / 365) :
    day - (365 * year + year / 4 - year / 100) ≤ 364 + if isLeapYear (year + 1) then 1 else 0 := by
  have century : centuries = 0 ∨ centuries = 1 ∨ centuries = 2 ∨ centuries = 3 ∨ centuries = 4 := by
    omega
  have inFour : year % 4 = 0 ∨ year % 4 = 1 ∨ year % 4 = 2 ∨ year % 4 = 3 := by omega
  have leaps : year / 4 = fours ∨ year / 4 = fours - 1 := by
    rcases century with h | h | h | h | h <;> omega
  simp only [isLeapYear_iff]
  split
  · rcases century with h | h | h | h | h <;> omega
  · rcases century with h | h | h | h | h <;> rcases inFour with i | i | i | i <;> omega

end

/-- The era, the year of the era, the day of the year and the month that a date is made of. -/
theorem ofDays_parts (days : Int) : ∃ era year day month : Int,
    (0 ≤ year ∧ year < 400) ∧ (0 ≤ day ∧ day ≤ 364 + if isLeapYear (year + 1) then 1 else 0) ∧
    month = (5 * day + 2) / 153 ∧
    days = era * 146097 + (365 * year + year / 4 - year / 100 + day) - 719468 ∧
    ofDays days =
      ⟨year + era * 400 + (if month < 10 then 0 else 1),
        (if month < 10 then month + 3 else month - 9).toNat,
        (day - (153 * month + 2) / 5 + 1).toNat⟩ := by
  unfold ofDays
  extract_lets shifted era dayOfEra yearOfEra dayOfYear monthFromMarch day month year
  have era_eq : era = shifted / 146097 := Int.fdiv_eq_ediv_of_nonneg _ (by decide)
  have years : 0 ≤ yearOfEra ∧ yearOfEra < 400 := by omega
  have lower : 0 ≤ dayOfYear := dayOfYear_nonneg (by omega) (by omega) rfl rfl rfl rfl
  have upper : dayOfYear ≤ 364 + if isLeapYear (yearOfEra + 1) then 1 else 0 :=
    dayOfYear_le (by omega) (by omega) rfl rfl rfl rfl
  have ends : month ≤ 2 ↔ ¬monthFromMarch < 10 := by grind
  refine ⟨era, yearOfEra, dayOfYear, monthFromMarch, years, ⟨lower, upper⟩, rfl, by omega, ?_⟩
  simp only [year, ends, ite_not]
  rfl

/-- Days are counted from dates as dates are found from days. -/
theorem toDays_ofDays (days : Int) : (ofDays days).toDays = days := by
  obtain ⟨era, year, day, month, years, within, month_eq, days_eq, date⟩ := ofDays_parts days
  rw [date]
  unfold toDays
  extract_lets year' era' yearOfEra monthFromMarch dayOfYear dayOfEra
  have year'_eq : year' = year + era * 400 := by grind
  have era'_eq : era' = year' / 400 := Int.fdiv_eq_ediv_of_nonneg _ (by decide)
  have sameEra : era' = era := by omega
  have sameYear : yearOfEra = year := by grind
  have sameMonth : monthFromMarch = month := by grind
  have sameDay : dayOfYear = day := by grind
  have same : dayOfEra = year * 365 + year / 4 - year / 100 + day := by
    rw [← sameYear, ← sameDay]
  rw [sameEra, same, days_eq]
  omega

/-- Leap years come again every 400 years. -/
theorem isLeapYear_add (year era : Int) : isLeapYear (year + era * 400) = isLeapYear year := by
  rw [Bool.eq_iff_iff, isLeapYear_iff, isLeapYear_iff]
  omega

/-- The date of a day exists. -/
theorem isValid_ofDays (days : Int) : (ofDays days).isValid = true := by
  obtain ⟨era, year, day, month, -, within, month_eq, -, date⟩ := ofDays_parts days
  have february : isLeapYear (year + era * 400 + 1) = isLeapYear (year + 1) := by
    rw [← isLeapYear_add (year + 1) era]
    congr 1
    omega
  have months : month = 0 ∨ month = 1 ∨ month = 2 ∨ month = 3 ∨ month = 4 ∨ month = 5 ∨ month = 6 ∨
      month = 7 ∨ month = 8 ∨ month = 9 ∨ month = 10 ∨ month = 11 := by
    split at within <;> omega
  rw [date]
  rcases months with rfl | rfl | rfl | rfl | rfl | rfl | rfl | rfl | rfl | rfl | rfl | rfl
  case inr.inr.inr.inr.inr.inr.inr.inr.inr.inr.inr =>
    -- February is as long as the year that it ends.
    cases leap : isLeapYear (year + 1)
    all_goals
      simp [leap] at within
      simp [isValid, daysInMonth, february, leap]
      omega
  all_goals
    simp [isValid, daysInMonth]
    omega

theorem ofDays_month_le (days : Int) : (ofDays days).month ≤ 12 := by
  obtain ⟨era, year, day, month, -, within, month_eq, -, date⟩ := ofDays_parts days
  rw [date]
  grind

theorem ofDays_day_le (days : Int) : (ofDays days).day ≤ 31 := by
  obtain ⟨era, year, day, month, -, within, month_eq, -, date⟩ := ofDays_parts days
  rw [date]
  grind

end MachineProvisioning.CivilDate
