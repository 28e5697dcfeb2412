import Legality.Time.Timestamp
import Mathlib.Order.Monotone.Basic
import Mathlib.Tactic.IntervalCases

/-!
The calendar. A day has the date that it is the number of, and a year lasts from its first day to the first day of the
next. Within an era of 400 years a day is found by its century, its cycle of four years and its year.
-/
namespace Legality.Instant

/-- A day of an era by century, cycle, year and day. The last year of a cycle has a leap day, but not at the end of a
century other than the last. -/
structure Place (dayOfEra century cycle year day : Int) : Prop where
  century_bounds : 0 ≤ century ∧ century ≤ 3
  cycle_bounds : 0 ≤ cycle ∧ cycle ≤ 24
  year_bounds : 0 ≤ year ∧ year ≤ 3
  day_bounds : 0 ≤ day ∧ day ≤ 365
  leap : day = 365 → year = 3 ∧ (cycle = 24 → century = 3)
  sum : dayOfEra = 36524 * century + 1461 * cycle + 365 * year + day

structure InEra (dayOfEra yearOfEra day : Int) : Prop where
  year_bounds : 0 ≤ yearOfEra ∧ yearOfEra ≤ 399
  day_bounds : 0 ≤ day ∧ day ≤ 365
  leap : day = 365 → yearOfEra % 4 = 3 ∧ (yearOfEra % 100 = 99 → yearOfEra = 399)
  sum : dayOfEra = 365 * yearOfEra + yearOfEra / 4 - yearOfEra / 100 + day
  year_eq : (dayOfEra - dayOfEra / 1460 + dayOfEra / 36524 - dayOfEra / 146096) / 365 = yearOfEra

variable {dayOfEra century cycle year day : Int}

theorem Place.exists_of_day (start : 0 ≤ dayOfEra) (stop : dayOfEra < 146097) :
    ∃ century cycle year day, Place dayOfEra century cycle year day := by
  obtain ⟨century, centuryIs⟩ : ∃ century, century = min (dayOfEra / 36524) 3 := ⟨_, rfl⟩
  obtain ⟨cycle, cycleIs⟩ : ∃ cycle, cycle = (dayOfEra - 36524 * century) / 1461 := ⟨_, rfl⟩
  obtain ⟨year, yearIs⟩ : ∃ year, year = min ((dayOfEra - 36524 * century - 1461 * cycle) / 365) 3 := ⟨_, rfl⟩
  obtain ⟨day, dayIs⟩ : ∃ day, day = dayOfEra - 36524 * century - 1461 * cycle - 365 * year := ⟨_, rfl⟩
  refine ⟨century, cycle, year, day, ?_⟩
  constructor <;> omega

theorem Place.inEra (place : Place dayOfEra century cycle year day) :
    InEra dayOfEra (100 * century + 4 * cycle + year) day := by
  obtain ⟨centuries, cycles, years, days, leap, sum⟩ := place
  have centuriesOver : dayOfEra / 36524 - dayOfEra / 146096 = century := by
    obtain rfl | rfl | rfl | rfl : century = 0 ∨ century = 1 ∨ century = 2 ∨ century = 3 := by omega
    all_goals omega
  -- 1460 is a day short of a cycle, so that the last days of a year can count as days of the next cycle.
  have cyclesOver : dayOfEra / 1460 = 25 * century + cycle ∧ day ≤ 364 ∨
      dayOfEra / 1460 = 25 * century + cycle + 1 ∧ 0 < day := by
    by_cases within : 24 * century + cycle + 365 * year + day < 1460
    · left
      omega
    · right
      omega
  have quarters : (100 * century + 4 * cycle + year) / 4 = 25 * century + cycle := by omega
  have hundreds : (100 * century + 4 * cycle + year) / 100 = century := by omega
  constructor <;> omega

theorem dayNumber_eq (year : Int) (month day : Nat) :
    let marchYear := if month ≤ 2 then year - 1 else year
    dayNumber year month day = 365 * marchYear + marchYear / 4 - marchYear / 100 + marchYear / 400 +
      (153 * ((month + 9) % 12) + 2) / 5 + day - 719469 := by
  intro marchYear
  have eras : Int.fdiv marchYear 400 = marchYear / 400 := Int.fdiv_eq_ediv_of_nonneg _ (by decide)
  simp only [dayNumber, eras, marchYear] at *
  omega

theorem dateOfDay_of_inEra {yearOfEra : Int} (era : Int) (place : InEra dayOfEra yearOfEra day) :
    let marchYear := yearOfEra + era * 400
    let monthIndex := (5 * day + 2) / 153
    let month := if monthIndex < 10 then monthIndex + 3 else monthIndex - 9
    dateOfDay (era * 146097 + dayOfEra - 719468) =
      (if month ≤ 2 then marchYear + 1 else marchYear, month.toNat, (day - (153 * monthIndex + 2) / 5 + 1).toNat) := by
  obtain ⟨years, days, leap, sum, yearIs⟩ := place
  have eras : Int.fdiv (era * 146097 + dayOfEra) 146097 = era := by
    rw [Int.fdiv_eq_ediv_of_nonneg _ (by decide)]
    omega
  have inEra : era * 146097 + dayOfEra - era * 146097 = dayOfEra := by omega
  have inYear : dayOfEra - (365 * yearOfEra + yearOfEra / 4 - yearOfEra / 100) = day := by omega
  simp only [dateOfDay, Int.sub_add_cancel, eras, inEra, yearIs, inYear]

structure IsDate (number year : Int) (month day : Nat) : Prop where
  number_eq : dayNumber year month day = number
  month_bounds : 1 ≤ month ∧ month ≤ 12
  day_bounds : 1 ≤ day ∧ day ≤ daysInMonth year month

/-- The date of a day is in the calendar, and it is the date of no other day. -/
theorem isDate_dateOfDay (number : Int) :
    IsDate number (dateOfDay number).1 (dateOfDay number).2.1 (dateOfDay number).2.2 := by
  obtain ⟨era, dayOfEra, start, stop, rfl⟩ : ∃ era dayOfEra, 0 ≤ dayOfEra ∧ dayOfEra < 146097 ∧
      number = era * 146097 + dayOfEra - 719468 :=
    ⟨(number + 719468) / 146097, (number + 719468) % 146097, by omega, by omega, by omega⟩
  obtain ⟨century, cycle, year, day, place⟩ := Place.exists_of_day start stop
  have inEra := place.inEra
  generalize 100 * century + 4 * cycle + year = yearOfEra at inEra
  rw [dateOfDay_of_inEra era inEra]
  obtain ⟨years, days, leap, sum, -⟩ := inEra
  have quarters : (yearOfEra + era * 400) / 4 = yearOfEra / 4 + era * 100 := by omega
  have centuries : (yearOfEra + era * 400) / 100 = yearOfEra / 100 + era * 4 := by omega
  have eras : (yearOfEra + era * 400) / 400 = era := by omega
  -- From here on all is arithmetic for each month, with the lengths of the months in (153 * monthIndex + 2) / 5.
  generalize monthIs : (5 * day + 2) / 153 = monthIndex
  obtain ⟨first, last⟩ : 0 ≤ monthIndex ∧ monthIndex ≤ 11 := by omega
  constructor
  · rw [dayNumber_eq]
    interval_cases monthIndex
    all_goals simp [quarters, centuries, eras]
    all_goals omega
  · dsimp only
    split <;> omega
  · interval_cases monthIndex
    all_goals simp [daysInMonth, isLeapYear]
    all_goals omega

theorem dayNumber_year (year : Int) : dayNumber year 1 1 < dayNumber (year + 1) 1 1 := by
  rw [dayNumber_eq, dayNumber_eq]
  simp
  omega

theorem daysInMonth_le (year : Int) (month : Nat) : daysInMonth year month ≤ 31 := by
  rw [daysInMonth]
  split_ifs <;> decide

theorem IsDate.in_year {number year : Int} {month day : Nat} (date : IsDate number year month day) :
    dayNumber year 1 1 ≤ number ∧ number < dayNumber (year + 1) 1 1 := by
  obtain ⟨rfl, ⟨first, last⟩, days⟩ := date
  have short := days.2.trans (daysInMonth_le year month)
  rw [dayNumber_eq, dayNumber_eq, dayNumber_eq]
  interval_cases month
  all_goals simp
  all_goals omega

theorem dateOfDay_year_bounds {number least greatest : Int} (start : dayNumber least 1 1 ≤ number)
    (stop : number < dayNumber (greatest + 1) 1 1) :
    least ≤ (dateOfDay number).1 ∧ (dateOfDay number).1 ≤ greatest := by
  have ascending : StrictMono fun year => dayNumber year 1 1 := strictMono_int_of_lt_succ dayNumber_year
  obtain ⟨after, before⟩ := (isDate_dateOfDay number).in_year
  constructor
  · exact Int.lt_add_one_iff.mp (ascending.lt_iff_lt.mp (start.trans_lt before))
  · exact Int.lt_add_one_iff.mp (ascending.lt_iff_lt.mp (after.trans_lt stop))

end Legality.Instant
