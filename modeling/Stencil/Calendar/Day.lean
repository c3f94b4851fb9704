/-!
The proleptic Gregorian calendar. Days are counted from 1970-01-01. Years are taken to begin in March,
so that the leap day comes last and the months before it follow one pattern of lengths; four hundred
years make one era of 146097 days.
-/
namespace Stencil.Calendar

structure Date where
  year : Int
  month : Nat
  day : Nat
deriving DecidableEq, Repr

def isLeap (year : Int) : Bool := year % 4 = 0 && (year % 100 ≠ 0 || year % 400 = 0)

def daysInMonth (year : Int) (month : Nat) : Nat :=
  if month = 2 then if isLeap year then 29 else 28
  else if month = 4 || month = 6 || month = 9 || month = 11 then 30
  else 31

def leastYear : Int := -262143

def greatestYear : Int := 262142

namespace Date

/-- Whether the date exists and lies in the range of years that is kept. -/
def isValid (date : Date) : Bool :=
  leastYear ≤ date.year && date.year ≤ greatestYear && 1 ≤ date.month && date.month ≤ 12
    && 1 ≤ date.day && date.day ≤ daysInMonth date.year date.month

/-- Days from 1970-01-01 to the date. -/
def toDays (date : Date) : Int :=
  let year := if date.month ≤ 2 then date.year - 1 else date.year
  let month : Int := if date.month ≤ 2 then date.month + 9 else date.month - 3
  let era := year / 400
  let yearOfEra := year % 400
  let dayOfYear := (153 * month + 2) / 5 + date.day - 1
  era * 146097 + yearOfEra * 365 + yearOfEra / 4 - yearOfEra / 100 + dayOfYear - 719468

def ofDays (days : Int) : Date :=
  let era := (days + 719468) / 146097
  let dayOfEra := (days + 719468) % 146097
  let yearOfEra := (dayOfEra - dayOfEra / 1460 + dayOfEra / 36524 - dayOfEra / 146096) / 365
  let dayOfYear := dayOfEra - (365 * yearOfEra + yearOfEra / 4 - yearOfEra / 100)
  let shifted := (5 * dayOfYear + 2) / 153
  let day := dayOfYear - (153 * shifted + 2) / 5 + 1
  let month := if shifted < 10 then shifted + 3 else shifted - 9
  let year := yearOfEra + era * 400 + if month ≤ 2 then 1 else 0
  ⟨year, month.toNat, day.toNat⟩

end Date

/-- Zero for Monday up to six for Sunday. -/
def weekday (days : Int) : Nat := ((days + 3) % 7).toNat

/-- Zero for the first of January. -/
def dayOfYear (days : Int) : Nat := (days - Date.toDays ⟨(Date.ofDays days).year, 1, 1⟩).toNat

/-- A week belongs to the year in which its Thursday lies. -/
def thursday (days : Int) : Int := days - weekday days + 3

def weekYear (days : Int) : Int := (Date.ofDays (thursday days)).year

def weekNumber (days : Int) : Nat := dayOfYear (thursday days) / 7 + 1

end Stencil.Calendar
