import Mathlib.Tactic.IntervalCases
import ResourcePaths.Proofs.Calendar.Writing

/-!
# The days of the calendar

Behind each day follows the one whose number is greater by one: in the same month, or on the first
of the next month.  From the first day of year zero on, every number up to that of the last day of
year 9999 is thus the number of a date.
-/

namespace ResourcePaths
namespace Calendar

theorem dayNumber_succ (year : Int) (month day : Nat) :
    dayNumber year month (day + 1) = dayNumber year month day + 1 := by
  simp only [dayNumber]
  push_cast
  omega

/-- The days from the first of March of year zero to that of another year. -/
def marchNumber (year : Int) : Int :=
  year / 400 * 146097 + year % 400 * 365 + year % 400 / 4 - year % 400 / 100

theorem dayNumber_eq (year : Int) (month day : Nat) :
    dayNumber year month day = marchNumber (if month ≤ 2 then year - 1 else year) +
      ((153 * ((month + 9) % 12) + 2) / 5 + day - 1 : Int) - 719468 :=
  rfl

/-- From one March to the next there is a 29th of February when the second year is a leap year. -/
theorem marchNumber_eq (year : Int) :
    marchNumber year = marchNumber (year - 1) + if isLeap year then 366 else 365 := by
  unfold marchNumber isLeap
  simp only [Bool.and_eq_true, Bool.or_eq_true, decide_eq_true_eq]
  split
  · omega
  · omega

/-- A month is followed by the next one of its year. -/
theorem dayNumber_nextMonth (year : Int) {month : Nat} (hfirst : 1 ≤ month) (hlast : month < 12) :
    dayNumber year (month + 1) 1 = dayNumber year month (daysInMonth year month) + 1 := by
  interval_cases month
  case «2» =>
    -- The count of years steps on between February and March.
    rw [dayNumber_eq, dayNumber_eq, if_neg (by decide), if_pos (by decide), marchNumber_eq year]
    simp only [daysInMonth]
    split
    · omega
    · omega
  all_goals
    simp only [dayNumber, daysInMonth]
    omega

/-- The last month of a year is followed by the first one of the next. -/
theorem dayNumber_nextYear (year : Int) :
    dayNumber (year + 1) 1 1 = dayNumber year 12 31 + 1 := by
  rw [dayNumber_eq, dayNumber_eq, if_pos (by decide), if_neg (by decide), Int.add_sub_cancel]
  omega

theorem daysInMonth_pos (year : Int) {month : Nat} (hfirst : 1 ≤ month) (hlast : month ≤ 12) :
    0 < daysInMonth year month := by
  interval_cases month
  case «2» =>
    simp only [daysInMonth]
    split
    · decide
    · decide
  all_goals exact Nat.zero_lt_succ _

end Calendar

namespace Date

/-- Each day of a four-digit year but the last one is followed by a day of such a year. -/
theorem exists_next {date : Date} (hyear : date.HasShortYear) (hlast : date.number < 2932896) :
    ∃ next : Date, next.HasShortYear ∧ next.number = date.number + 1 := by
  obtain ⟨year, month, day, hday⟩ := date
  obtain ⟨hzero, hyears⟩ := hyear
  obtain ⟨hfirstYear, hlastYear, hfirst, hmonthEnd⟩ := Calendar.isDay_iff.1 hday
  obtain ⟨hmonth, hmonths⟩ := Calendar.month_of_daysInMonth_pos (Nat.lt_of_lt_of_le hfirst hmonthEnd)
  -- The next day is in the same month, or the first of the next month, or that of the next year.
  by_cases hsame : day < Calendar.daysInMonth year month
  · exact ⟨⟨year, month, day + 1,
      Calendar.isDay_iff.2 ⟨hfirstYear, hlastYear, Nat.le_add_left 1 day, hsame⟩⟩,
      ⟨hzero, hyears⟩, Calendar.dayNumber_succ year month day⟩
  obtain rfl : day = Calendar.daysInMonth year month := Nat.le_antisymm hmonthEnd (not_lt.1 hsame)
  by_cases hnext : month < 12
  · exact ⟨⟨year, month + 1, 1, Calendar.isDay_iff.2 ⟨hfirstYear, hlastYear, le_refl 1,
      Calendar.daysInMonth_pos year (Nat.le_add_left 1 month) hnext⟩⟩,
      ⟨hzero, hyears⟩, Calendar.dayNumber_nextMonth year hmonth hnext⟩
  obtain rfl : month = 12 := by omega
  have hshort : year ≠ 9999 := by
    rintro rfl
    have hnumber : Calendar.dayNumber 9999 12 31 = 2932896 := by decide
    exact absurd hlast (not_lt.2 hnumber.ge)
  simp only at hyears hzero
  have hcalendar : year + 1 ≤ Calendar.lastYear := by
    unfold Calendar.lastYear
    omega
  have hcalendar' : Calendar.firstYear ≤ year + 1 := by omega
  exact ⟨⟨year + 1, 1, 1, Calendar.isDay_iff.2 ⟨hcalendar', hcalendar, le_refl 1,
    Calendar.daysInMonth_pos (year + 1) (le_refl 1) (by decide)⟩⟩,
    ⟨by simp only; omega, by simp only; omega⟩, Calendar.dayNumber_nextYear year⟩

/-- Every number from that of the first day of year zero to that of the last day of year 9999 is
the number of a date between them. -/
theorem exists_number {n : Int} (hfirst : -719528 ≤ n) (hlast : n ≤ 2932896) :
    ∃ date : Date, date.HasShortYear ∧ date.number = n := by
  induction n, hfirst using Int.leInduction with
  | base => exact ⟨⟨0, 1, 1, by decide⟩, ⟨by decide, by decide⟩, by decide⟩
  | succ n _ ih =>
      obtain ⟨date, hyear, rfl⟩ := ih (by omega)
      exact exists_next hyear (by omega)

end Date

namespace Instant

/-- The instants that a clock shows in a year of four digits, without a leap second, at an offset
of whole minutes below a day. -/
structure IsCivil (instant : Instant) : Prop where
  offset : instant.HasClockOffset
  nanos : instant.nanos < Calendar.nanosPerSecond
  first_le : Calendar.dayNumber 0 1 1 * 86400 ≤ instant.timestamp + instant.offset
  lt_end : instant.timestamp + instant.offset < (Calendar.dayNumber 9999 12 31 + 1) * 86400

/-- The clock shows a date and a time. -/
theorem IsCivil.exists_shows {instant : Instant} (hcivil : instant.IsCivil) :
    ∃ date time, date.HasShortYear ∧ time.nanos < Calendar.nanosPerSecond ∧
      instant.Shows date time := by
  obtain ⟨-, hnanos, hfirst, hlast⟩ := hcivil
  have hfirstDay : Calendar.dayNumber 0 1 1 = -719528 := by decide
  have hlastDay : Calendar.dayNumber 9999 12 31 = 2932896 := by decide
  obtain ⟨date, hyear, hnumber⟩ : ∃ date : Date, date.HasShortYear ∧
      date.number = (instant.timestamp + instant.offset) / 86400 :=
    Date.exists_number (by omega) (by omega)
  have hseconds : ((instant.timestamp + instant.offset) % 86400).toNat < 86400 := by omega
  have htime : Calendar.isTime ((instant.timestamp + instant.offset) % 86400).toNat
      instant.nanos = true := by
    have htwice : instant.nanos < 2 * Calendar.nanosPerSecond := by omega
    simp [Calendar.isTime, hseconds, hnanos, htwice]
  exact ⟨date, ⟨_, instant.nanos, htime⟩, hyear, hnanos, ⟨by simp only; omega, rfl⟩⟩

end Instant
end ResourcePaths
