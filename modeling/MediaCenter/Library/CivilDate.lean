import Mathlib.Data.Rat.Defs
import Mathlib.Tactic.Common

/-!
# Civil dates

A day is counted from 1970-01-01.  The Gregorian calendar repeats every 400 years, an era of
146097 days that begins on 1 March, so that a leap day is the last day of its year.
-/

set_option autoImplicit false

namespace MediaCenter.Library

namespace CivilDate

/-- The year of a day of the era, from 0 to 399. -/
def yearOfEra (dayOfEra : ℤ) : ℤ :=
  (dayOfEra - dayOfEra / 1460 + dayOfEra / 36524 - dayOfEra / 146096) / 365

/-- The day of its year, counted from 1 March. -/
def dayOfYear (dayOfEra : ℤ) : ℤ :=
  dayOfEra - (365 * yearOfEra dayOfEra + yearOfEra dayOfEra / 4 - yearOfEra dayOfEra / 100)

/-- The month, counted from March. -/
def monthFromMarch (dayOfEra : ℤ) : ℤ := (5 * dayOfYear dayOfEra + 2) / 153

/-- Year, month and day. -/
def ofDays (days : ℤ) : ℤ × ℤ × ℤ :=
  let z := days + 719468
  let month := if monthFromMarch (z % 146097) < 10 then monthFromMarch (z % 146097) + 3
    else monthFromMarch (z % 146097) - 9
  (yearOfEra (z % 146097) + z / 146097 * 400 + if month ≤ 2 then 1 else 0, month,
    dayOfYear (z % 146097) - (153 * monthFromMarch (z % 146097) + 2) / 5 + 1)

/-- The number of days of a date. -/
def toDays (year month day : ℤ) : ℤ :=
  let marchYear := if month ≤ 2 then year - 1 else year
  let fromMarch := if 2 < month then month - 3 else month + 9
  let yearOfEra := marchYear % 400
  marchYear / 400 * 146097 + (365 * yearOfEra + yearOfEra / 4 - yearOfEra / 100) +
    ((153 * fromMarch + 2) / 5 + day - 1) - 719468

section Era

variable {n : ℤ} (h0 : 0 ≤ n) (h : n < 146097)

include h0 h

theorem yearOfEra_nonneg : 0 ≤ yearOfEra n := by
  unfold yearOfEra
  omega

theorem yearOfEra_le : yearOfEra n ≤ 399 := by
  unfold yearOfEra
  omega

/-- INTERNAL: within a century the leap years are one in four; the century is that of the day. -/
theorem dayOfYear_bounds : 0 ≤ dayOfYear n ∧ dayOfYear n ≤ 366 := by
  obtain ⟨y, hy⟩ : ∃ y, y = yearOfEra n := ⟨_, rfl⟩
  have hyear : y = (n - n / 1460 + n / 36524 - n / 146096) / 365 := hy
  have hcentury : n / 36524 = 0 ∨ n / 36524 = 1 ∨ n / 36524 = 2 ∨ n / 36524 = 3 ∨
      n = 146096 := by omega
  unfold dayOfYear
  rw [← hy]
  rcases hcentury with hc | hc | hc | hc | rfl
  · have hcentury : y / 100 = 0 := by omega
    omega
  · have hcentury : y / 100 = 1 := by omega
    omega
  · have hcentury : y / 100 = 2 := by omega
    omega
  · have hcentury : y / 100 = 3 := by omega
    omega
  · omega

theorem monthFromMarch_bounds : 0 ≤ monthFromMarch n ∧ monthFromMarch n ≤ 11 := by
  have hday := dayOfYear_bounds h0 h
  unfold monthFromMarch
  omega

end Era

theorem emod_bounds (z : ℤ) : 0 ≤ z % 146097 ∧ z % 146097 < 146097 := by
  omega

theorem month_bounds (days : ℤ) : 1 ≤ (ofDays days).2.1 ∧ (ofDays days).2.1 ≤ 12 := by
  obtain ⟨h0, h⟩ := emod_bounds (days + 719468)
  have hmonth := monthFromMarch_bounds h0 h
  unfold ofDays
  simp only
  split
  · omega
  · omega

theorem day_bounds (days : ℤ) : 1 ≤ (ofDays days).2.2 ∧ (ofDays days).2.2 ≤ 31 := by
  obtain ⟨h0, h⟩ := emod_bounds (days + 719468)
  have hday := dayOfYear_bounds h0 h
  show 1 ≤ dayOfYear _ - (153 * monthFromMarch _ + 2) / 5 + 1 ∧
    dayOfYear _ - (153 * monthFromMarch _ + 2) / 5 + 1 ≤ 31
  unfold monthFromMarch
  omega

/-- INTERNAL: the days of the years 1 to 9999. -/
theorem year_bounds {days : ℤ} (hlo : -719162 ≤ days) (hhi : days ≤ 2932896) :
    1 ≤ (ofDays days).1 ∧ (ofDays days).1 ≤ 9999 := by
  obtain ⟨h0, h⟩ := emod_bounds (days + 719468)
  have hyear := yearOfEra_nonneg h0 h
  have hyear' := yearOfEra_le h0 h
  have hday := dayOfYear_bounds h0 h
  have hdef : dayOfYear ((days + 719468) % 146097) = (days + 719468) % 146097 -
      (365 * yearOfEra ((days + 719468) % 146097) + yearOfEra ((days + 719468) % 146097) / 4 -
        yearOfEra ((days + 719468) % 146097) / 100) := rfl
  have hbounds := monthFromMarch_bounds h0 h
  have hmonth : monthFromMarch ((days + 719468) % 146097) =
      (5 * dayOfYear ((days + 719468) % 146097) + 2) / 153 := rfl
  unfold ofDays
  simp only
  generalize yearOfEra ((days + 719468) % 146097) = y at *
  generalize dayOfYear ((days + 719468) % 146097) = d at *
  generalize monthFromMarch ((days + 719468) % 146097) = m at *
  by_cases hm : m < 10
  · have hlate : ¬ m + 3 ≤ 2 := by omega
    simp only [if_pos hm, if_neg hlate]
    omega
  · have hearly : m - 9 ≤ 2 := by omega
    simp only [if_neg hm, if_pos hearly]
    omega

theorem toDays_ofDays (days : ℤ) :
    toDays (ofDays days).1 (ofDays days).2.1 (ofDays days).2.2 = days := by
  obtain ⟨h0, h⟩ := emod_bounds (days + 719468)
  have hyear := yearOfEra_nonneg h0 h
  have hyear' := yearOfEra_le h0 h
  have hmonth := monthFromMarch_bounds h0 h
  have hdef : dayOfYear ((days + 719468) % 146097) = (days + 719468) % 146097 -
      (365 * yearOfEra ((days + 719468) % 146097) + yearOfEra ((days + 719468) % 146097) / 4 -
        yearOfEra ((days + 719468) % 146097) / 100) := rfl
  unfold toDays ofDays
  simp only
  generalize yearOfEra ((days + 719468) % 146097) = y at *
  generalize dayOfYear ((days + 719468) % 146097) = d at *
  generalize monthFromMarch ((days + 719468) % 146097) = m at *
  by_cases hm : m < 10
  · have hlate : ¬ m + 3 ≤ 2 := by omega
    have hlate' : 2 < m + 3 := by omega
    simp only [if_pos hm, if_neg hlate, if_pos hlate']
    omega
  · have hearly : m - 9 ≤ 2 := by omega
    have hearly' : ¬ 2 < m - 9 := by omega
    simp only [if_neg hm, if_pos hearly, if_neg hearly']
    omega

end CivilDate

end MediaCenter.Library
