import Stencil.Calendar.Instant
import Stencil.Value.Basic
import Stencil.Text.Blank

/-!
Instants read from values. A number counts milliseconds. A text is a date and time with an offset, or a
date, with or without a time, that is taken as UTC. The first form has fixed widths; the others allow
short fields, blanks before a field and a sign before the year.

The readers follow the calendar library `chrono`, and what they assume of it is this. Its reader of RFC 3339
takes `T`, `t` or a blank between date and time, `Z` or `z` or a signed offset of less than a day, a
fraction of which nine digits count, and second 60 as a leap second. In its reader by format `%Y` is up to
four digits, or any number behind a sign, the other codes are one or two digits, each code passes over
blanks before it, and a blank in the format stands for any blanks. Both refuse a day that the calendar does
not have, and a rest of the text.
-/
namespace Stencil.Calendar

namespace Reading

/-- At most `most` digits, and at least `least` of them. -/
def digits (least most : Nat) (text : List Char) : Option (List Char × List Char) :=
  let taken := (text.take most).takeWhile Char.isDigit
  if taken.length < least then none else some (taken, text.drop taken.length)

def natOf (digits : List Char) : Nat :=
  digits.foldl (fun acc c => 10 * acc + (c.toNat - '0'.toNat)) 0

def number (least most : Nat) (text : List Char) : Option (Nat × List Char) :=
  (digits least most text).map fun (taken, rest) => (natOf taken, rest)

def literal (c : Char) : List Char → Option (List Char)
  | first :: rest => if first = c then some rest else none
  | [] => none

/-- The fraction's first nine digits, as nanoseconds. -/
def fraction : List Char → Option (Nat × List Char)
  | '.' :: rest =>
      let (taken, tail) := rest.span Char.isDigit
      if taken.isEmpty then none
      else some (natOf ((taken ++ List.replicate 9 '0').take 9), tail)
  | text => some (0, text)

structure Clock where
  hour : Nat
  minute : Nat
  second : Nat
  nanos : Nat

/-- The instant of a date and time in a zone that is so many seconds east. Second 60 runs on from 59. -/
def instantOf? (date : Date) (clock : Clock) (zone : Int) : Option Instant :=
  if date.isValid && clock.hour < 24 && clock.minute < 60 && clock.second ≤ 60 then
    let second := min clock.second 59
    let leap := if clock.second = 60 then 1000000000 else 0
    some ⟨date.toDays * 86400 + clock.hour * 3600 + clock.minute * 60 + second - zone,
      clock.nanos + leap⟩
  else none

/-- `Z`, or a sign with hours and minutes; the sign may be the typographic minus. -/
def zone : List Char → Option (Int × List Char)
  | [] => none
  | c :: rest =>
      if c = 'Z' || c = 'z' then some (0, rest)
      else if c = '+' || c = '-' || c = '\u2212' then do
        let (hours, rest) ← number 2 2 rest
        let rest ← literal ':' rest
        let (minutes, rest) ← number 2 2 rest
        if hours < 24 && minutes < 60 then
          let seconds : Int := hours * 3600 + minutes * 60
          some (if c = '+' then seconds else -seconds, rest)
        else none
      else none

/-- A date, a time and an offset, each field of its full width. -/
def stamped (text : List Char) : Option Instant := do
  let (year, text) ← number 4 4 text
  let text ← literal '-' text
  let (month, text) ← number 2 2 text
  let text ← literal '-' text
  let (day, text) ← number 2 2 text
  let text ← (literal 'T' text).or ((literal 't' text).or (literal ' ' text))
  let (hour, text) ← number 2 2 text
  let text ← literal ':' text
  let (minute, text) ← number 2 2 text
  let text ← literal ':' text
  let (second, text) ← number 2 2 text
  let (nanos, text) ← fraction text
  let (offset, text) ← zone text
  if text.isEmpty then instantOf? ⟨year, month, day⟩ ⟨hour, minute, second, nanos⟩ offset else none

/-- One or two digits after any blanks. -/
def field (text : List Char) : Option (Nat × List Char) := number 1 2 (Text.trimStart text)

/-- Up to four digits, or any number of them after a sign. -/
def year (text : List Char) : Option (Int × List Char) :=
  match Text.trimStart text with
  | '-' :: rest => (number 1 rest.length rest).map fun (n, rest) => (-n, rest)
  | '+' :: rest => (number 1 rest.length rest).map fun (n, rest) => (n, rest)
  | rest => (number 1 4 rest).map fun (n, rest) => (n, rest)

def date (text : List Char) : Option (Date × List Char) := do
  let (y, text) ← year text
  let text ← literal '-' text
  let (m, text) ← field text
  let text ← literal '-' text
  let (d, text) ← field text
  some (⟨y, m, d⟩, text)

def clock (text : List Char) : Option (Clock × List Char) := do
  let (hour, text) ← field text
  let text ← literal ':' text
  let (minute, text) ← field text
  let text ← literal ':' text
  let (second, text) ← field text
  some (⟨hour, minute, second, 0⟩, text)

/-- A date and a time in UTC; what stands between them is read by the first argument. -/
def dateTime (between : List Char → Option (List Char)) (text : List Char) : Option Instant := do
  let (date, text) ← date text
  let text ← between text
  let (clock, text) ← clock text
  if text.isEmpty then instantOf? date clock 0 else none

def midnight (text : List Char) : Option Instant := do
  let (date, text) ← date text
  if text.isEmpty then instantOf? date ⟨0, 0, 0, 0⟩ 0 else none

def ofText (text : List Char) : Option Instant :=
  (stamped text).or <| (dateTime (some ∘ Text.trimStart) text).or <|
    (dateTime (literal 'T') text).or (midnight text)

end Reading

/-- The instant that a value stands for. Fractions of a millisecond are dropped. -/
def Instant.ofValue? : Value → Option Instant
  | .number (.integer value) =>
      if value < 0x8000000000000000 then Instant.ofMillis? value
      else Instant.ofMillis? (Float.ofInt value).toInt64.toInt
  | .number (.real value) => Instant.ofMillis? value.toInt64.toInt
  | .string text => Reading.ofText (Text.trim text.toList)
  | _ => none

end Stencil.Calendar
