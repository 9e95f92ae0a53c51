import Mathlib.Data.Int.Basic
import Mathlib.Tactic.Common

/-!
# The UTC calendar

`gmtime` and `timegm` on the proleptic Gregorian calendar, with whole seconds
since 1970-01-01 00:00.  Years are counted from 1 March, so that the leap day
ends a year, and in eras of 400 years, after which the calendar repeats.
`timegm` accepts a day, hour, minute or second outside its range, as the C
function does.
-/

namespace Datafeed.Calendar

/-- The fields of `struct tm` that are read; January is month 1, Sunday is
week day 0. -/
structure Tm where
  year : ℤ
  month : ℤ
  mday : ℤ
  hour : ℤ
  min : ℤ
  sec : ℤ
  wday : ℤ
  deriving DecidableEq

def secondsPerDay : ℤ := 86400

def daysPerEra : ℤ := 146097

/-- Days from 0000-03-01 to 1970-01-01. -/
def epochDay : ℤ := 719468

/-- Days of an era before the given year of it. -/
def daysBeforeYear (yearOfEra : ℤ) : ℤ :=
  365 * yearOfEra + yearOfEra / 4 - yearOfEra / 100

/-- Days of a year before the given month, counted from March. -/
def daysBeforeMonth (monthFromMarch : ℤ) : ℤ := (153 * monthFromMarch + 2) / 5

/-- Days since the epoch of a date; the day of the month may lie outside the
month. -/
def daysFromCivil (year month mday : ℤ) : ℤ :=
  let marchYear := if month ≤ 2 then year - 1 else year
  marchYear / 400 * daysPerEra + daysBeforeYear (marchYear % 400) +
    daysBeforeMonth ((month + 9) % 12) + mday - 1 - epochDay

/-- The year of an era that a day of it falls in. -/
def yearOfEra (dayOfEra : ℤ) : ℤ :=
  let century := min (dayOfEra / 36524) 3
  let dayOfCentury := dayOfEra - 36524 * century
  let cycle := dayOfCentury / 1461
  100 * century + 4 * cycle + min ((dayOfCentury - 1461 * cycle) / 365) 3

/-- The month, counted from March, that a day of a year falls in. -/
def monthOfYear (dayOfYear : ℤ) : ℤ := (5 * dayOfYear + 2) / 153

/-- Year, month and day of the month of a day since the epoch. -/
def civilFromDays (days : ℤ) : ℤ × ℤ × ℤ :=
  let dayOfEra := (days + epochDay) % daysPerEra
  let year := yearOfEra dayOfEra
  let dayOfYear := dayOfEra - daysBeforeYear year
  let month := monthOfYear dayOfYear
  let marchYear := (days + epochDay) / daysPerEra * 400 + year
  (if month < 10 then marchYear else marchYear + 1,
    if month < 10 then month + 3 else month - 9,
    dayOfYear - daysBeforeMonth month + 1)

/-- The epoch was a Thursday. -/
def weekdayOfDays (days : ℤ) : ℤ := (days + 4) % 7

def IsLeap (year : ℤ) : Prop :=
  year % 4 = 0 ∧ year % 100 ≠ 0 ∨ year % 400 = 0

instance (year : ℤ) : Decidable (IsLeap year) :=
  inferInstanceAs (Decidable (year % 4 = 0 ∧ year % 100 ≠ 0 ∨ year % 400 = 0))

def daysInMonth (year month : ℤ) : ℤ :=
  if month = 2 then if IsLeap year then 29 else 28
  else if month = 4 ∨ month = 6 ∨ month = 9 ∨ month = 11 then 30
  else 31

def gmtime (seconds : ℤ) : Tm :=
  let days := seconds / secondsPerDay
  let rest := seconds % secondsPerDay
  let date := civilFromDays days
  { year := date.1
    month := date.2.1
    mday := date.2.2
    hour := rest / 3600
    min := rest % 3600 / 60
    sec := rest % 60
    wday := weekdayOfDays days }

def timegm (tm : Tm) : ℤ :=
  daysFromCivil tm.year tm.month tm.mday * secondsPerDay + tm.hour * 3600 +
    tm.min * 60 + tm.sec

/-! ## Civil dates -/

/-- A year of an era is made of centuries, four-year cycles and single years;
the last century and the last year of a cycle are a day longer. -/
theorem exists_year_parts {dayOfEra : ℤ} (hnonneg : 0 ≤ dayOfEra)
    (hlt : dayOfEra < daysPerEra) :
    ∃ century cycle year rest : ℤ,
      (0 ≤ century ∧ century ≤ 3) ∧ (0 ≤ cycle ∧ cycle ≤ 24) ∧
      (0 ≤ year ∧ year ≤ 3) ∧ (0 ≤ rest ∧ rest ≤ 365) ∧
      yearOfEra dayOfEra = 100 * century + 4 * cycle + year ∧
      dayOfEra = 36524 * century + 1461 * cycle + 365 * year + rest := by
  rw [daysPerEra] at hlt
  have hcentury : 0 ≤ min (dayOfEra / 36524) 3 ∧
      min (dayOfEra / 36524) 3 ≤ 3 ∧
      0 ≤ dayOfEra - 36524 * min (dayOfEra / 36524) 3 ∧
      dayOfEra - 36524 * min (dayOfEra / 36524) 3 ≤ 36524 := by omega
  rw [yearOfEra]
  generalize min (dayOfEra / 36524) 3 = century at *
  generalize hdayOf : dayOfEra - 36524 * century = dayOfCentury at *
  refine ⟨century, dayOfCentury / 1461,
    min ((dayOfCentury - 1461 * (dayOfCentury / 1461)) / 365) 3,
    dayOfCentury - 1461 * (dayOfCentury / 1461) -
      365 * min ((dayOfCentury - 1461 * (dayOfCentury / 1461)) / 365) 3,
    ⟨hcentury.1, hcentury.2.1⟩, ?_, ?_, ?_, rfl, ?_⟩
  all_goals omega

theorem daysBeforeYear_parts {century cycle year : ℤ}
    (hcycle : 0 ≤ cycle ∧ cycle ≤ 24) (hyear : 0 ≤ year ∧ year ≤ 3) :
    daysBeforeYear (100 * century + 4 * cycle + year) =
      36524 * century + 1461 * cycle + 365 * year := by
  rw [daysBeforeYear]
  omega

theorem yearOfEra_bounds {dayOfEra : ℤ} (hnonneg : 0 ≤ dayOfEra)
    (hlt : dayOfEra < daysPerEra) :
    (0 ≤ yearOfEra dayOfEra ∧ yearOfEra dayOfEra < 400) ∧
      0 ≤ dayOfEra - daysBeforeYear (yearOfEra dayOfEra) ∧
      dayOfEra - daysBeforeYear (yearOfEra dayOfEra) ≤ 365 := by
  rcases exists_year_parts hnonneg hlt with
    ⟨century, cycle, year, rest, hcentury, hcycle, hyear, hrest, hof, hday⟩
  rw [hof, daysBeforeYear_parts hcycle hyear]
  omega

theorem monthOfYear_bounds {dayOfYear : ℤ} (hnonneg : 0 ≤ dayOfYear)
    (hle : dayOfYear ≤ 365) :
    0 ≤ monthOfYear dayOfYear ∧ monthOfYear dayOfYear < 12 := by
  rw [monthOfYear]
  omega

/-- The date of a day is the date that day is computed from. -/
theorem daysFromCivil_civilFromDays (days : ℤ) :
    daysFromCivil (civilFromDays days).1 (civilFromDays days).2.1
      (civilFromDays days).2.2 = days := by
  have hera : daysPerEra ≠ 0 := by decide
  have hnonneg := Int.emod_nonneg (days + epochDay) hera
  have hlt := Int.emod_lt_of_pos (days + epochDay)
    (show 0 < daysPerEra by decide)
  have hdivide := Int.mul_ediv_add_emod (days + epochDay) daysPerEra
  have hbounds := yearOfEra_bounds hnonneg hlt
  have hyear := hbounds.1
  have hday := hbounds.2
  have hmonth := monthOfYear_bounds hday.1 hday.2
  simp only [civilFromDays]
  generalize (days + epochDay) % daysPerEra = dayOfEra at *
  generalize (days + epochDay) / daysPerEra = era at *
  generalize hyearOf : yearOfEra dayOfEra = year at *
  generalize hdayOf : dayOfEra - daysBeforeYear year = dayOfYear at *
  generalize monthOfYear dayOfYear = month at *
  have hmarchYear : (if (if month < 10 then month + 3 else month - 9) ≤ 2 then
      (if month < 10 then era * 400 + year else era * 400 + year + 1) - 1
      else if month < 10 then era * 400 + year else era * 400 + year + 1) =
        era * 400 + year := by
    split <;> split <;> omega
  have hmarchMonth :
      ((if month < 10 then month + 3 else month - 9) + 9) % 12 = month := by
    split <;> omega
  have hquotient : (era * 400 + year) / 400 = era := by omega
  have hremainder : (era * 400 + year) % 400 = year := by omega
  rw [daysFromCivil, hmarchMonth]
  simp only [hmarchYear, hquotient, hremainder]
  rw [Int.mul_comm era]
  omega

/-- The date of a day is one of a calendar. -/
theorem civilFromDays_bounds (days : ℤ) :
    (1 ≤ (civilFromDays days).2.1 ∧ (civilFromDays days).2.1 ≤ 12) ∧
      1 ≤ (civilFromDays days).2.2 ∧ (civilFromDays days).2.2 ≤ 31 := by
  have hnonneg := Int.emod_nonneg (days + epochDay)
    (show daysPerEra ≠ 0 by decide)
  have hlt := Int.emod_lt_of_pos (days + epochDay)
    (show 0 < daysPerEra by decide)
  have hday := (yearOfEra_bounds hnonneg hlt).2
  simp only [civilFromDays]
  generalize (days + epochDay) % daysPerEra = dayOfEra at *
  generalize dayOfEra - daysBeforeYear (yearOfEra dayOfEra) = dayOfYear at *
  have hmonth := monthOfYear_bounds hday.1 hday.2
  have hdayOfMonth : 1 ≤ dayOfYear - daysBeforeMonth (monthOfYear dayOfYear) +
      1 ∧ dayOfYear - daysBeforeMonth (monthOfYear dayOfYear) + 1 ≤ 31 := by
    rw [daysBeforeMonth, monthOfYear]
    omega
  refine ⟨?_, hdayOfMonth⟩
  split <;> omega

/-- The years of 400 years from the epoch on have four digits. -/
theorem civilFromDays_year_bounds {days : ℤ} (hnonneg : 0 ≤ days)
    (hlt : days < daysPerEra) :
    0 ≤ (civilFromDays days).1 ∧ (civilFromDays days).1 ≤ 9999 := by
  have hyear := (yearOfEra_bounds (Int.emod_nonneg (days + epochDay)
    (show daysPerEra ≠ 0 by decide)) (Int.emod_lt_of_pos (days + epochDay)
      (show 0 < daysPerEra by decide))).1
  simp only [civilFromDays]
  generalize yearOfEra ((days + epochDay) % daysPerEra) = year at *
  have hera : 0 ≤ (days + epochDay) / daysPerEra ∧
      (days + epochDay) / daysPerEra ≤ 5 := by
    rw [daysPerEra] at hlt ⊢
    rw [epochDay]
    omega
  generalize (days + epochDay) / daysPerEra = era at *
  split <;> omega

/-- The year that a day is in, from the parts of its year and the day of it. -/
theorem yearOfEra_parts {century cycle year rest : ℤ}
    (hcentury : 0 ≤ century ∧ century ≤ 3) (hcycle : 0 ≤ cycle ∧ cycle ≤ 24)
    (hyear : 0 ≤ year ∧ year ≤ 3) (hrest : 0 ≤ rest ∧ rest ≤ 365)
    (hlast : rest = 365 → year = 3 ∧ (cycle = 24 → century = 3)) :
    yearOfEra (36524 * century + 1461 * cycle + 365 * year + rest) =
      100 * century + 4 * cycle + year := by
  have hcenturyOf : min ((36524 * century + 1461 * cycle + 365 * year + rest) /
      36524) 3 = century := by omega
  have hcycleOf : (36524 * century + 1461 * cycle + 365 * year + rest -
      36524 * century) / 1461 = cycle := by omega
  rw [yearOfEra, hcenturyOf, hcycleOf]
  omega

/-- The year of the era of a year that begins in March, from a day of it.  It has
a 366th day only if the February that ends it is one of a leap year. -/
theorem yearOfEra_marchYear {marchYear rest : ℤ} (hrest : 0 ≤ rest ∧ rest ≤ 365)
    (hlast : rest = 365 → (marchYear + 1) % 4 = 0 ∧
      ((marchYear + 1) % 100 = 0 → (marchYear + 1) % 400 = 0)) :
    yearOfEra (daysBeforeYear (marchYear % 400) + rest) = marchYear % 400 ∧
      0 ≤ daysBeforeYear (marchYear % 400) + rest ∧
        daysBeforeYear (marchYear % 400) + rest < daysPerEra := by
  obtain ⟨century, cycle, single, hcentury, hcycle, hsingle, hparts, hlong⟩ :
      ∃ century cycle single : ℤ, (0 ≤ century ∧ century ≤ 3) ∧
        (0 ≤ cycle ∧ cycle ≤ 24) ∧ (0 ≤ single ∧ single ≤ 3) ∧
        marchYear % 400 = 100 * century + 4 * cycle + single ∧
        (rest = 365 → single = 3 ∧ (cycle = 24 → century = 3)) :=
    ⟨marchYear % 400 / 100, marchYear % 100 / 4, marchYear % 4, by omega,
      by omega, by omega, by omega, by omega⟩
  have hbefore : daysBeforeYear (100 * century + 4 * cycle + single) = _ :=
    daysBeforeYear_parts hcycle hsingle
  rw [hparts, hbefore]
  refine ⟨yearOfEra_parts hcentury hcycle hsingle hrest hlong, ?_⟩
  rw [daysPerEra]
  omega

theorem monthOfYear_of_bounds {month mday : ℤ} (hday : 1 ≤ mday)
    (hlast : mday ≤ daysBeforeMonth (month + 1) - daysBeforeMonth month) :
    monthOfYear (daysBeforeMonth month + mday - 1) = month := by
  simp only [monthOfYear, daysBeforeMonth] at *
  omega

/-- A month is no longer than the distance to the next one, and a year that has
a 366th day is followed by a leap year. -/
theorem daysInMonth_bounds {year month mday : ℤ}
    (hmonth : 1 ≤ month ∧ month ≤ 12)
    (hday : 1 ≤ mday ∧ mday ≤ daysInMonth year month) :
    (0 ≤ (month + 9) % 12 ∧ (month + 9) % 12 ≤ 11) ∧
      mday ≤ daysBeforeMonth ((month + 9) % 12 + 1) -
        daysBeforeMonth ((month + 9) % 12) ∧
      daysBeforeMonth ((month + 9) % 12) + mday - 1 ≤ 365 ∧
      (daysBeforeMonth ((month + 9) % 12) + mday - 1 = 365 →
        month = 2 ∧ IsLeap year) := by
  have hlast := hday.2
  rw [daysInMonth] at hlast
  have hcases : month = 1 ∨ month = 2 ∨ month = 3 ∨ month = 4 ∨ month = 5 ∨
      month = 6 ∨ month = 7 ∨ month = 8 ∨ month = 9 ∨ month = 10 ∨
      month = 11 ∨ month = 12 := by omega
  simp only [daysBeforeMonth]
  by_cases hleap : IsLeap year
  · rcases hcases with rfl | rfl | rfl | rfl | rfl | rfl | rfl | rfl | rfl |
      rfl | rfl | rfl <;> simp [hleap] at hlast ⊢ <;> omega
  · rcases hcases with rfl | rfl | rfl | rfl | rfl | rfl | rfl | rfl | rfl |
      rfl | rfl | rfl <;> simp [hleap] at hlast ⊢ <;> omega

/-- The date of the day that a valid date is converted to. -/
theorem civilFromDays_daysFromCivil {year month mday : ℤ}
    (hmonth : 1 ≤ month ∧ month ≤ 12)
    (hday : 1 ≤ mday ∧ mday ≤ daysInMonth year month) :
    civilFromDays (daysFromCivil year month mday) = (year, month, mday) := by
  obtain ⟨hindex, hlength, hrest, hleap⟩ := daysInMonth_bounds hmonth hday
  have hfirst : 0 ≤ daysBeforeMonth ((month + 9) % 12) := by
    rw [daysBeforeMonth]
    omega
  have hmonthOf := monthOfYear_of_bounds hday.1 hlength
  rw [daysFromCivil]
  generalize hmarch : (if month ≤ 2 then year - 1 else year) = marchYear
  have hnonneg : 0 ≤ daysBeforeMonth ((month + 9) % 12) + mday - 1 := by omega
  have hmonthBack : (if (month + 9) % 12 < 10 then (month + 9) % 12 + 3
      else (month + 9) % 12 - 9) = month := by
    split <;> omega
  have hyearBack : (if (month + 9) % 12 < 10 then marchYear
      else marchYear + 1) = year := by
    split at hmarch <;> split <;> omega
  have hlastDay : daysBeforeMonth ((month + 9) % 12) + mday - 1 = 365 →
      (marchYear + 1) % 4 = 0 ∧
        ((marchYear + 1) % 100 = 0 → (marchYear + 1) % 400 = 0) := by
    intro h365
    obtain ⟨hfebruary, hleapYear⟩ := hleap h365
    rw [if_pos (by omega)] at hmarch
    rw [IsLeap] at hleapYear
    omega
  generalize hbeforeOf : daysBeforeMonth ((month + 9) % 12) = before at *
  generalize hrestOf : before + mday - 1 = rest at *
  obtain ⟨hyearOf, hera⟩ := yearOfEra_marchYear ⟨hnonneg, by omega⟩ hlastDay
  have hsum : marchYear / 400 * daysPerEra + daysBeforeYear (marchYear % 400) +
      before + mday - 1 - epochDay + epochDay =
        daysBeforeYear (marchYear % 400) + rest +
          daysPerEra * (marchYear / 400) := by
    rw [Int.mul_comm]
    omega
  have hdayOfEra : (marchYear / 400 * daysPerEra +
      daysBeforeYear (marchYear % 400) + before + mday - 1 - epochDay +
        epochDay) % daysPerEra = daysBeforeYear (marchYear % 400) + rest := by
    rw [hsum, Int.add_mul_emod_self_left, Int.emod_eq_of_lt hera.1 hera.2]
  have heraOf : (marchYear / 400 * daysPerEra +
      daysBeforeYear (marchYear % 400) + before + mday - 1 - epochDay +
        epochDay) / daysPerEra = marchYear / 400 := by
    rw [hsum, Int.add_mul_ediv_left _ _ (by decide),
      Int.ediv_eq_zero_of_lt hera.1 hera.2, Int.zero_add]
  have hrestBack : daysBeforeYear (marchYear % 400) + rest -
      daysBeforeYear (marchYear % 400) = rest := by omega
  have hyearSum : marchYear / 400 * 400 + marchYear % 400 = marchYear := by omega
  simp only [civilFromDays, hdayOfEra, heraOf, hyearOf, hrestBack, hmonthOf,
    hyearSum, hmonthBack, hyearBack, hbeforeOf]
  rw [Prod.mk.injEq, Prod.mk.injEq]
  exact ⟨rfl, rfl, by omega⟩

theorem timegm_gmtime (seconds : ℤ) : timegm (gmtime seconds) = seconds := by
  rw [timegm, gmtime]
  simp only [daysFromCivil_civilFromDays, secondsPerDay]
  omega

/-! ## Weeks -/

def secondsPerWeek : ℤ := 604800

/-- 1970-01-05 00:00, the first Monday. -/
def firstMonday : ℤ := 345600

/-- Midnight at the beginning of a Monday. -/
def IsMonday (seconds : ℤ) : Prop :=
  (seconds - firstMonday) % secondsPerWeek = 0

instance (seconds : ℤ) : Decidable (IsMonday seconds) :=
  inferInstanceAs (Decidable ((seconds - firstMonday) % secondsPerWeek = 0))

/-- The last Monday midnight up to a time. -/
def mondayOf (seconds : ℤ) : ℤ :=
  seconds - (seconds - firstMonday) % secondsPerWeek

theorem isMonday_mondayOf (seconds : ℤ) : IsMonday (mondayOf seconds) := by
  simp only [IsMonday, mondayOf, firstMonday, secondsPerWeek]
  omega

theorem mondayOf_le (seconds : ℤ) : mondayOf seconds ≤ seconds := by
  simp only [mondayOf, firstMonday, secondsPerWeek]
  omega

theorem lt_mondayOf_add (seconds : ℤ) :
    seconds < mondayOf seconds + secondsPerWeek := by
  simp only [mondayOf, firstMonday, secondsPerWeek]
  omega

theorem mondayOf_mono {earlier later : ℤ} (hle : earlier ≤ later) :
    mondayOf earlier ≤ mondayOf later := by
  simp only [mondayOf, firstMonday, secondsPerWeek]
  omega

theorem IsMonday.le_mondayOf {monday seconds : ℤ} (hmonday : IsMonday monday)
    (hle : monday ≤ seconds) : monday ≤ mondayOf seconds := by
  simp only [IsMonday, mondayOf, firstMonday, secondsPerWeek] at *
  omega

end Datafeed.Calendar
