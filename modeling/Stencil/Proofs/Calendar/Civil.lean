import Mathlib.Tactic.IntervalCases
import Stencil.Calendar.Day

/-!
The calendar there and back. A number of days falls on a day of an era; the leap days counted before it
give its year, and the day of the year lies in one of twelve months. So the date of a number of days is a
date that exists, and it counts as many days.
-/
namespace Stencil.Calendar

/-- The first day of a year of an era. Years begin in March. -/
def yearStart (year : Int) : Int := 365 * year + year / 4 - year / 100

/-- The whole centuries before a day of an era. The last century has one day more than the others. -/
def centuriesBefore (day : Int) : Int := day / 36524 - day / 146096

def leapDaysBefore (day : Int) : Int := day / 1460 - centuriesBefore day

/-- The year in which a day of an era lies. -/
def yearAt (day : Int) : Int := (day - leapDaysBefore day) / 365

/-- The first day of a month of a year, zero for March. -/
def monthStart (month : Int) : Int := (153 * month + 2) / 5

/-- The month in which a day of a year lies. -/
def monthAt (day : Int) : Int := (5 * day + 2) / 153

theorem centuriesBefore_spec {day : Int} (h : 0 ≤ day) (h' : day < 146097) :
    0 ≤ centuriesBefore day ∧ centuriesBefore day ≤ 3 ∧ 36524 * centuriesBefore day ≤ day ∧
      (centuriesBefore day < 3 → day < 36524 * (centuriesBefore day + 1)) := by
  unfold centuriesBefore
  omega

theorem yearAt_bounds {day : Int} (h : 0 ≤ day) (h' : day < 146097) :
    0 ≤ yearAt day ∧ yearAt day < 400 := by
  unfold yearAt leapDaysBefore centuriesBefore
  omega

theorem yearAt_div_hundred {day : Int} (h : 0 ≤ day) (h' : day < 146097) :
    yearAt day / 100 = centuriesBefore day := by
  obtain ⟨hlow, hhigh, hfrom, hto⟩ := centuriesBefore_spec h h'
  unfold yearAt leapDaysBefore
  generalize centuriesBefore day = century at *
  have hcases : century = 0 ∨ century = 1 ∨ century = 2 ∨ century = 3 := by omega
  rcases hcases with rfl | rfl | rfl | rfl <;> omega

/-- Every 1460 days hold four years, less the leap day at their end. -/
theorem yearAt_div_four {day : Int} (h : 0 ≤ day) (h' : day < 146097) :
    yearAt day / 4 ≤ day / 1460 ∧ day / 1460 ≤ (yearAt day + 1) / 4 := by
  obtain ⟨hlow, hhigh, hfrom, -⟩ := centuriesBefore_spec h h'
  unfold yearAt leapDaysBefore
  generalize centuriesBefore day = century at *
  have hfours : century ≤ day / 1460 := by omega
  have hmost : day / 1460 ≤ 100 := by omega
  constructor <;> omega

theorem yearStart_yearAt_le {day : Int} (h : 0 ≤ day) (h' : day < 146097) :
    yearStart (yearAt day) ≤ day := by
  have hcentury := yearAt_div_hundred h h'
  have hfours := (yearAt_div_four h h').1
  have hdays : 365 * yearAt day ≤ day - leapDaysBefore day := by
    unfold yearAt
    omega
  unfold leapDaysBefore at hdays
  unfold yearStart
  omega

/-- Only the last year of an era ends with a leap day that `yearStart` does not count. -/
theorem lt_yearStart_succ {day : Int} (h : 0 ≤ day) (h' : day < 146097) :
    day < yearStart (yearAt day + 1) + (yearAt day + 1) / 400 := by
  have hcentury := yearAt_div_hundred h h'
  have hfours := (yearAt_div_four h h').2
  obtain ⟨hlow, hhigh, -, hto⟩ := centuriesBefore_spec h h'
  have hdays : day - leapDaysBefore day < 365 * (yearAt day + 1) := by
    unfold yearAt
    omega
  unfold leapDaysBefore at hdays
  unfold yearStart
  generalize yearAt day = year at *
  generalize centuriesBefore day = century at *
  by_cases hlast : (year + 1) % 100 = 0
  · have hnext : year + 1 = 100 * (century + 1) := by omega
    omega
  · have hsame : (year + 1) / 100 = century := by omega
    have hfirst : (year + 1) / 400 = 0 := by omega
    omega

theorem isLeap_add_era (year era : Int) : isLeap (year + era * 400) = isLeap year := by
  have hfour : (year + era * 400) % 4 = year % 4 := by omega
  have hhundred : (year + era * 400) % 100 = year % 100 := by omega
  have hera : (year + era * 400) % 400 = year % 400 := by omega
  simp only [isLeap, hfour, hhundred, hera]

/-- A year of an era has the leap day of the calendar year in which it ends. -/
theorem yearStart_succ {year : Int} (h : 0 ≤ year) (h' : year < 400) :
    yearStart (year + 1) + (year + 1) / 400
      = yearStart year + if isLeap (year + 1) then 366 else 365 := by
  unfold yearStart
  by_cases hfour : (year + 1) % 4 = 0
  · by_cases hhundred : (year + 1) % 100 = 0
    · by_cases hera : (year + 1) % 400 = 0
      · have hleap : isLeap (year + 1) = true := by simp [isLeap, hfour, hera]
        rw [if_pos hleap]
        omega
      · have hcommon : ¬ isLeap (year + 1) = true := by simp [isLeap, hhundred, hera]
        rw [if_neg hcommon]
        omega
    · have hleap : isLeap (year + 1) = true := by simp [isLeap, hfour, hhundred]
      rw [if_pos hleap]
      omega
  · have hcommon : ¬ isLeap (year + 1) = true := by simp [isLeap, hfour]
    rw [if_neg hcommon]
    omega

/-- The months in the order of a year that begins in March. -/
theorem monthAt_cases {day : Int} (h : 0 ≤ day) (h' : day < 366) :
    ∃ month : Nat, month < 12 ∧ monthAt day = month ∧ monthStart month ≤ day ∧
      day < monthStart (month + 1) := by
  refine ⟨(monthAt day).toNat, ?_⟩
  unfold monthAt monthStart
  omega

/-- A number of days, as a day of a month of a year of an era. -/
structure FallsOn (days era year : Int) (month day : Nat) : Prop where
  year_nonneg : 0 ≤ year
  year_lt : year < 400
  month_lt : month < 12
  day_pos : 0 < day
  day_le : monthStart month + day ≤ monthStart (month + 1)
  day_le_year : monthStart month + day ≤ if isLeap (year + 1) then 366 else 365
  counted : days + 719468 = era * 146097 + yearStart year + monthStart month + day - 1

/-- The date of a day of an era. January and February end a year that began in March. -/
def Date.inEra (era year : Int) (month day : Nat) : Date :=
  ⟨year + era * 400 + if month < 10 then 0 else 1, if month < 10 then month + 3 else month - 9, day⟩

theorem exists_fallsOn (days : Int) :
    ∃ era year month day, FallsOn days era year month day ∧
      Date.ofDays days = .inEra era year month day := by
  have hday : 0 ≤ (days + 719468) % 146097 ∧ (days + 719468) % 146097 < 146097 := by omega
  have hera : days + 719468
      = (days + 719468) / 146097 * 146097 + (days + 719468) % 146097 := by omega
  unfold Date.ofDays
  generalize (days + 719468) / 146097 = era at *
  generalize (days + 719468) % 146097 = day at *
  obtain ⟨hday, hday'⟩ := hday
  have hyear := yearAt_bounds hday hday'
  have hfrom := yearStart_yearAt_le hday hday'
  have hto := lt_yearStart_succ hday hday'
  rw [yearStart_succ hyear.1 hyear.2] at hto
  have hyearEq : (day - day / 1460 + day / 36524 - day / 146096) / 365 = yearAt day := by
    unfold yearAt leapDaysBefore centuriesBefore
    omega
  simp only [hyearEq]
  generalize yearAt day = year at *
  have hlength : (if isLeap (year + 1) then 366 else 365 : Int) ≤ 366 := by split <;> omega
  have hofYear : 0 ≤ day - yearStart year := by omega
  obtain ⟨month, hmonth, hmonthEq, hstart, hend⟩ := monthAt_cases hofYear (by omega)
  refine ⟨era, year, month, (day - yearStart year - monthStart month + 1).toNat, ?_, ?_⟩
  · exact
      { year_nonneg := hyear.1
        year_lt := hyear.2
        month_lt := hmonth
        day_pos := by omega
        day_le := by omega
        day_le_year := by omega
        counted := by omega }
  · have hmonthAt : (5 * (day - yearStart year) + 2) / 153 = month := hmonthEq
    unfold yearStart at hmonthAt ⊢
    simp only [hmonthAt, Date.inEra, Date.mk.injEq]
    unfold monthStart
    refine ⟨?_, ?_, by omega⟩
    · split <;> split <;> omega
    · split <;> split <;> omega

theorem FallsOn.toDays_eq {days era year : Int} {month day : Nat}
    (h : FallsOn days era year month day) : (Date.inEra era year month day).toDays = days := by
  obtain ⟨hyear, hyear', hmonth, hday, -, -, hcounted⟩ := h
  unfold yearStart monthStart at hcounted
  unfold Date.inEra Date.toDays
  by_cases hspring : month < 10
  · simp only [if_pos hspring, Int.add_zero]
    rw [if_neg (by omega), if_neg (by omega)]
    have hera : (year + era * 400) / 400 = era := by omega
    have hofEra : (year + era * 400) % 400 = year := by omega
    rw [hera, hofEra]
    omega
  · simp only [if_neg hspring]
    rw [if_pos (by omega), if_pos (by omega)]
    have hera : (year + era * 400 + 1 - 1) / 400 = era := by omega
    have hofEra : (year + era * 400 + 1 - 1) % 400 = year := by omega
    rw [hera, hofEra]
    omega

theorem FallsOn.day_le_daysInMonth {days era year : Int} {month day : Nat}
    (h : FallsOn days era year month day) :
    day ≤ daysInMonth (Date.inEra era year month day).year (Date.inEra era year month day).month := by
  obtain ⟨-, -, hmonth, -, hday, hyear, -⟩ := h
  have hleap : isLeap (year + era * 400 + 1) = isLeap (year + 1) := by
    rw [Int.add_right_comm]
    exact isLeap_add_era (year + 1) era
  unfold monthStart at hday hyear
  by_cases hfebruary : month = 11
  · subst hfebruary
    have hlast : day ≤ if isLeap (year + 1) then 29 else 28 := by
      cases hcase : isLeap (year + 1) <;> simp [hcase] at hyear ⊢ <;> omega
    simpa [Date.inEra, daysInMonth, hleap] using hlast
  · interval_cases month <;> simp [Date.inEra, daysInMonth] at hfebruary ⊢ <;> omega

namespace Date

@[simp] theorem toDays_ofDays (days : Int) : (ofDays days).toDays = days := by
  obtain ⟨era, year, month, day, hfalls, hdate⟩ := exists_fallsOn days
  rw [hdate]
  exact hfalls.toDays_eq

theorem month_ofDays (days : Int) : 1 ≤ (ofDays days).month ∧ (ofDays days).month ≤ 12 := by
  obtain ⟨era, year, month, day, hfalls, hdate⟩ := exists_fallsOn days
  have hmonth := hfalls.month_lt
  rw [hdate]
  change 1 ≤ (if month < 10 then month + 3 else month - 9)
    ∧ (if month < 10 then month + 3 else month - 9) ≤ 12
  split <;> omega

theorem day_ofDays (days : Int) :
    1 ≤ (ofDays days).day ∧
      (ofDays days).day ≤ daysInMonth (ofDays days).year (ofDays days).month := by
  obtain ⟨era, year, month, day, hfalls, hdate⟩ := exists_fallsOn days
  rw [hdate]
  exact ⟨hfalls.day_pos, hfalls.day_le_daysInMonth⟩

theorem daysInMonth_le (year : Int) (month : Nat) : daysInMonth year month ≤ 31 := by
  unfold daysInMonth
  split
  · split <;> decide
  · split <;> decide

theorem isValid_ofDays {days : Int} (h : leastYear ≤ (ofDays days).year)
    (h' : (ofDays days).year ≤ greatestYear) : (ofDays days).isValid = true := by
  simp [isValid, h, h', month_ofDays, day_ofDays]

end Date

end Stencil.Calendar
