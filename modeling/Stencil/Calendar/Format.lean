import Stencil.Calendar.Instant

/-!
Instants written by a format of one-letter codes. Other characters stand for themselves, and a
backslash takes the character after it as it is. The codes `U` and `B` speak of the instant, all others
of what calendar and clock show in the zone.
-/
namespace Stencil.Calendar

def dayNames : List String :=
  ["Monday", "Tuesday", "Wednesday", "Thursday", "Friday", "Saturday", "Sunday"]

def monthNames : List String :=
  ["January", "February", "March", "April", "May", "June", "July", "August", "September", "October",
    "November", "December"]

/-- The decimal digits, with zeros in front up to a width. -/
def padded (width n : Nat) : List Char :=
  let digits := Nat.toDigits 10 n
  List.replicate (width - digits.length) '0' ++ digits

def signed (n : Int) : List Char :=
  if n < 0 then '-' :: Nat.toDigits 10 n.natAbs else Nat.toDigits 10 n.toNat

/-- Four digits for the years 0 to 9999, otherwise a sign and at least four digits. -/
def fullYear (year : Int) : List Char :=
  if 0 ≤ year && year ≤ 9999 then padded 4 year.toNat
  else (if year < 0 then '-' else '+') :: padded 4 year.natAbs

def ordinalEnding (day : Nat) : List Char :=
  if 11 ≤ day % 100 && day % 100 ≤ 13 then ['t', 'h']
  else match day % 10 with
    | 1 => ['s', 't']
    | 2 => ['n', 'd']
    | 3 => ['r', 'd']
    | _ => ['t', 'h']

/-- Thousandths of a day on the clock of UTC+1. The quotient is taken in doubles, so that a whole number
of beats may come out as the one before. -/
def beat (instant : Instant) : Nat :=
  let seconds := (instant.seconds % 86400).toNat
  (Float.ofNat ((seconds + 3600) % 86400) / 86.4).toUInt64.toNat

namespace Local

def dayName (clock : Local) : List Char := (dayNames.getD (weekday clock.days) "").toList

def monthName (clock : Local) : List Char := (monthNames.getD (clock.date.month - 1) "").toList

/-- Sign, hours and minutes of the zone. -/
def zoneText (clock : Local) (separator : List Char) : List Char :=
  let minutes := clock.zone.natAbs / 60
  (if clock.zone < 0 then '-' else '+') :: padded 2 (minutes / 60) ++ separator
    ++ padded 2 (minutes % 60)

/-- A leap second shows as 60 here. -/
def timeText (clock : Local) : List Char :=
  padded 2 clock.hour ++ ':' :: padded 2 clock.minute ++ ':'
    :: padded 2 (clock.second + clock.nanos / 1000000000)

/-- Years outside the range that is kept have no leap day. -/
def leapDay (clock : Local) : Bool :=
  let year := clock.date.year
  isLeap year && leastYear ≤ year && year ≤ greatestYear

def isMorning (clock : Local) : Bool := clock.hour < 12

def zoneName (clock : Local) : Option String → List Char
  | some name => name.toList
  | none => if clock.zone = 0 then ['U', 'T', 'C'] else 'G' :: 'M' :: 'T' :: clock.zoneText []

end Local

/-- What a code stands for, if the character is one. -/
def codeText (instant : Instant) (clock : Local) (zoneName : Option String) (code : Char) :
    Option (List Char) :=
  let date := clock.date
  let weekday := weekday clock.days
  match code with
  | 'd' => some (padded 2 date.day)
  | 'D' => some (clock.dayName.take 3)
  | 'j' => some (padded 1 date.day)
  | 'l' => some clock.dayName
  | 'N' => some (padded 1 (weekday + 1))
  | 'S' => some (ordinalEnding date.day)
  | 'w' => some (padded 1 ((weekday + 1) % 7))
  | 'z' => some (padded 1 (dayOfYear clock.days))
  | 'W' => some (padded 1 (weekNumber clock.days))
  | 'F' => some clock.monthName
  | 'm' => some (padded 2 date.month)
  | 'M' => some (clock.monthName.take 3)
  | 'n' => some (padded 1 date.month)
  | 't' => some (padded 1 (daysInMonth date.year date.month))
  | 'L' => some (if clock.leapDay then ['1'] else ['0'])
  | 'o' => some (signed (weekYear clock.days))
  | 'Y' => some (signed date.year)
  | 'y' => some (padded 2 (date.year % 100).toNat)
  | 'a' => some (if clock.isMorning then ['a', 'm'] else ['p', 'm'])
  | 'A' => some (if clock.isMorning then ['A', 'M'] else ['P', 'M'])
  | 'B' => some (padded 3 (beat instant))
  | 'g' => some (padded 1 clock.hour12)
  | 'G' => some (padded 1 clock.hour)
  | 'h' => some (padded 2 clock.hour12)
  | 'H' => some (padded 2 clock.hour)
  | 'i' => some (padded 2 clock.minute)
  | 's' => some (padded 2 clock.second)
  | 'u' => some (padded 3 (clock.nanos / 1000000 % 1000))
  | 'O' => some (clock.zoneText [])
  | 'P' => some (clock.zoneText [':'])
  | 'T' => some (clock.zoneName zoneName)
  | 'Z' => some (signed clock.zone)
  | 'c' => some (fullYear date.year ++ '-' :: padded 2 date.month ++ '-' :: padded 2 date.day ++ 'T'
      :: clock.timeText ++ clock.zoneText [':'])
  | 'r' => some (clock.dayName.take 3 ++ ',' :: ' ' :: padded 2 date.day ++ ' '
      :: clock.monthName.take 3 ++ ' ' :: fullYear date.year ++ ' ' :: clock.timeText ++ ' '
      :: clock.zoneText [])
  | 'U' => some (signed instant.seconds)
  | _ => none

def formatChars (instant : Instant) (clock : Local) (zoneName : Option String) :
    List Char → List Char
  | [] => []
  | '\\' :: c :: rest => c :: formatChars instant clock zoneName rest
  | ['\\'] => []
  | c :: rest =>
      (codeText instant clock zoneName c).getD [c] ++ formatChars instant clock zoneName rest

/-- The instant in the form of the format, in the zone that is so many minutes behind UTC. -/
def Instant.format (instant : Instant) (format : String) (minutesBehind : Int)
    (zoneName : Option String) : String :=
  String.ofList (formatChars instant (Local.ofInstant instant minutesBehind) zoneName format.toList)

end Stencil.Calendar
