import Mathlib.Data.List.TakeWhile
import Stencil.Calendar.Format
import Stencil.Calendar.Reading
import Stencil.Proofs.Calendar.Civil
import Stencil.Proofs.Source.ExtendsTag

/-!
Instants written and read again. A number with zeros in front is read back by the readers of fields, and
calendar and clock of a zone, less the offset of the zone, give the instant that they were taken from.
-/
namespace Stencil.Calendar

section Digits

variable {width n : Nat}

theorem length_padded (hwidth : 0 < width) (h : n < 10 ^ width) : (padded width n).length = width := by
  have hdigits : (Nat.toDigits 10 n).length ≤ width :=
    (Nat.length_toDigits_le_iff (by decide) hwidth).mpr h
  simp only [padded, List.length_append, List.length_replicate]
  omega

theorem isDigit_of_mem_padded {c : Char} (h : c ∈ padded width n) : c.isDigit = true := by
  rcases List.mem_append.mp h with hzero | hdigit
  · rw [List.eq_of_mem_replicate hzero]
    decide
  · exact Nat.isDigit_of_mem_toDigits (by decide) (by decide) hdigit

theorem isBlank_of_isDigit {c : Char} (h : c.isDigit = true) : Text.isBlank c = false := by
  simp only [Char.isDigit, Bool.and_eq_true, decide_eq_true_eq] at h
  obtain ⟨hlow, hhigh⟩ := h
  have hlow' : 48 ≤ c.toNat := hlow
  have hhigh' : c.toNat ≤ 57 := hhigh
  simp [Text.isBlank]
  omega

theorem natOf_eq_ofDigitChars (digits : List Char) :
    Reading.natOf digits = Nat.ofDigitChars 10 digits 0 := rfl

@[simp] theorem natOf_padded : Reading.natOf (padded width n) = n := by
  rw [natOf_eq_ofDigitChars, padded, Nat.ofDigitChars_append, Nat.ofDigitChars_replicate_zero,
    Nat.mul_zero, Nat.ofDigitChars_toDigits (by decide) (by decide)]

/-- A number in decimal digits has a first one, which is no blank and no sign. -/
theorem exists_padded_eq_cons (width n : Nat) :
    ∃ c rest, padded width n = c :: rest ∧ c.isDigit = true := by
  cases hdigits : padded width n with
  | nil =>
    have hnone : Nat.toDigits 10 n = [] := (List.append_eq_nil_iff.mp hdigits).2
    exact absurd hnone Nat.toDigits_ne_nil
  | cons c rest =>
    exact ⟨c, rest, rfl, isDigit_of_mem_padded (hdigits ▸ List.mem_cons_self)⟩

@[simp] theorem trimStart_padded (width n : Nat) (rest : List Char) :
    Text.trimStart (padded width n ++ rest) = padded width n ++ rest := by
  obtain ⟨c, digits, hdigits, hc⟩ := exists_padded_eq_cons width n
  rw [hdigits]
  exact Source.trimStart_of_head rfl (isBlank_of_isDigit hc)

end Digits

namespace Reading

variable {least width n : Nat} {rest : List Char}

theorem number_padded (hleast : least ≤ width) (hwidth : 0 < width) (h : n < 10 ^ width) :
    number least width (padded width n ++ rest) = some (n, rest) := by
  have hlength := length_padded hwidth h
  have htake : (padded width n ++ rest).take width = padded width n := by
    rw [List.take_append_of_le_length hlength.ge, List.take_of_length_le hlength.le]
  have hdigits : (padded width n).takeWhile Char.isDigit = padded width n :=
    List.takeWhile_eq_self_iff.mpr fun _ => isDigit_of_mem_padded
  simp only [number, digits, htake, hdigits, hlength, if_neg (Nat.not_lt.mpr hleast),
    Option.map_some, natOf_padded, List.drop_left' hlength]

theorem number_two (h : n < 100) : number 2 2 (padded 2 n ++ rest) = some (n, rest) :=
  number_padded (by decide) (by decide) h

theorem number_four (h : n < 10000) : number 4 4 (padded 4 n ++ rest) = some (n, rest) :=
  number_padded (by decide) (by decide) h

theorem field_padded (h : n < 100) : field (padded 2 n ++ rest) = some (n, rest) := by
  rw [field, trimStart_padded]
  exact number_padded (by decide) (by decide) h

theorem year_padded (h : n < 10000) : year (padded 4 n ++ rest) = some ((n : Int), rest) := by
  have hnumber : number 1 4 (padded 4 n ++ rest) = some (n, rest) :=
    number_padded (by decide) (by decide) h
  obtain ⟨c, digits, hdigits, hc⟩ := exists_padded_eq_cons 4 n
  rw [year, trimStart_padded]
  rw [hdigits, List.cons_append] at hnumber ⊢
  split
  · next heq =>
    cases heq
    cases hc
  · next heq =>
    cases heq
    cases hc
  · rw [hnumber]
    rfl

@[simp] theorem literal_cons (c : Char) (text : List Char) : literal c (c :: text) = some text :=
  if_pos rfl

end Reading

namespace Local

theorem month_lt (clock : Local) : clock.date.month < 100 := by
  have hmonth := Date.month_ofDays clock.days
  change (Date.ofDays clock.days).month < 100
  omega

theorem day_lt (clock : Local) : clock.date.day < 100 := by
  have hday := Date.day_ofDays clock.days
  have hlength := Date.daysInMonth_le (Date.ofDays clock.days).year (Date.ofDays clock.days).month
  change (Date.ofDays clock.days).day < 100
  omega

theorem hour_lt (clock : Local) (h : clock.secondOfDay < 86400) : clock.hour < 24 := by
  unfold hour
  omega

theorem minute_lt (clock : Local) : clock.minute < 60 := by
  unfold minute
  omega

theorem second_lt (clock : Local) : clock.second < 60 := by
  unfold second
  omega

theorem secondOfDay_ofInstant (instant : Instant) (minutesBehind : Int) :
    (ofInstant instant minutesBehind).secondOfDay < 86400 := by
  change ((instant.seconds + zoneSeconds minutesBehind) % 86400).toNat < 86400
  omega

theorem timeText_eq (clock : Local) (h : clock.nanos < 1000000000) :
    clock.timeText = padded 2 clock.hour ++ ':' :: padded 2 clock.minute ++ ':' :: padded 2 clock.second := by
  rw [timeText, Nat.div_eq_of_lt h, Nat.add_zero]

/-- Date and time with a character between them. -/
def dateTimeText (clock : Local) (between : Char) (after : List Char) : List Char :=
  padded 4 clock.date.year.toNat ++ '-' :: (padded 2 clock.date.month ++ '-' ::
    (padded 2 clock.date.day ++ between :: (padded 2 clock.hour ++ ':' ::
      (padded 2 clock.minute ++ ':' :: (padded 2 clock.second ++ after)))))

/-- What calendar and clock show in a zone gives the instant back. -/
theorem instantOf_shown {instant : Instant} {minutesBehind : Int}
    (hleast : leastYear ≤ (ofInstant instant minutesBehind).date.year)
    (hgreatest : (ofInstant instant minutesBehind).date.year ≤ greatestYear) :
    let clock := ofInstant instant minutesBehind
    Reading.instantOf? clock.date ⟨clock.hour, clock.minute, clock.second, 0⟩ clock.zone
      = some ⟨instant.seconds, 0⟩ := by
  intro clock
  have hvalid : clock.date.isValid = true := Date.isValid_ofDays hleast hgreatest
  have hday : clock.secondOfDay < 86400 := secondOfDay_ofInstant instant minutesBehind
  have hhour := clock.hour_lt hday
  have hminute := clock.minute_lt
  have hsecond := clock.second_lt
  have hdays : clock.date.toDays = clock.days := Date.toDays_ofDays clock.days
  have hshown : clock.days * 86400 + clock.secondOfDay = instant.seconds + clock.zone := by
    change (instant.seconds + zoneSeconds minutesBehind) / 86400 * 86400
      + (((instant.seconds + zoneSeconds minutesBehind) % 86400).toNat : Int)
      = instant.seconds + zoneSeconds minutesBehind
    omega
  have hparts : clock.hour * 3600 + clock.minute * 60 + clock.second = clock.secondOfDay := by
    unfold hour minute second
    omega
  have hwhole : min clock.second 59 = clock.second := by omega
  have hleap : ¬ clock.second = 60 := by omega
  simp only [Reading.instantOf?, hvalid, hhour, hminute, decide_true, Bool.true_and,
    Nat.le_of_lt hsecond, if_true, hdays, hwhole, if_neg hleap]
  congr
  omega

end Local

namespace Reading

theorem zone_signed {minutes : Nat} (h : minutes < 1440) {sign : Char} (hsign : sign = '+' ∨ sign = '-') :
    zone (sign :: (padded 2 (minutes / 60) ++ ':' :: padded 2 (minutes % 60)))
      = some (if sign = '+' then 60 * (minutes : Int) else -(60 * minutes), []) := by
  have hhours : minutes / 60 < 24 := by omega
  have hrest : minutes % 60 < 60 := by omega
  have hreadRest : number 2 2 (padded 2 (minutes % 60)) = some (minutes % 60, []) := by
    have hread : number 2 2 (padded 2 (minutes % 60) ++ []) = some (minutes % 60, []) :=
      number_two (by omega)
    rwa [List.append_nil] at hread
  have hletter : ¬ (sign = 'Z' || sign = 'z') = true := by
    rcases hsign with rfl | rfl <;> decide
  have hsigned : (sign = '+' || sign = '-' || sign = '\u2212') = true := by
    rcases hsign with rfl | rfl <;> decide
  have hseconds : ((minutes / 60 : Nat) : Int) * 3600 + ((minutes % 60 : Nat) : Int) * 60 = 60 * minutes := by
    omega
  simp only [zone, hletter, hsigned, if_true, Option.bind_eq_bind,
    number_two (show minutes / 60 < 100 by omega), Option.bind_some, literal_cons, hreadRest,
    hhours, hrest, hseconds]
  rfl

/-- The zone is read from its sign, hours and minutes. -/
theorem zone_zoneText {clock : Local} {minutesBehind : Int} (hzone : clock.zone = -60 * minutesBehind)
    (hlow : -1440 < minutesBehind) (hhigh : minutesBehind < 1440) :
    zone (clock.zoneText [':']) = some (clock.zone, []) := by
  have hminutes : clock.zone.natAbs / 60 = minutesBehind.natAbs := by omega
  have hfew : minutesBehind.natAbs < 1440 := by omega
  rw [Local.zoneText, hminutes]
  simp only [List.append_assoc, List.cons_append, List.nil_append]
  split
  · next hwest =>
    rw [zone_signed hfew (.inr rfl), if_neg (by decide)]
    congr
    omega
  · next heast =>
    rw [zone_signed hfew (.inl rfl), if_pos rfl]
    congr
    omega

section Shown

variable {clock : Local} (hyear : 0 ≤ clock.date.year) (hyear' : clock.date.year ≤ 9999)
  (hday : clock.secondOfDay < 86400)

include hyear hyear' hday

/-- Behind date and time, a fraction of the second and an offset are read. -/
theorem stamped_eq {between : Char} (hbetween : between = 'T' ∨ between = ' ') (after : List Char) :
    stamped (clock.dateTimeText between after) = (fraction after).bind fun (nanos, rest) =>
      (zone rest).bind fun (offset, rest) =>
        if rest.isEmpty then
          instantOf? clock.date ⟨clock.hour, clock.minute, clock.second, nanos⟩ offset
        else none := by
  have hhour := clock.hour_lt hday
  have hminute := clock.minute_lt
  have hsecond := clock.second_lt
  have hyearEq : (clock.date.year.toNat : Int) = clock.date.year := Int.toNat_of_nonneg hyear
  have hliteral (rest : List Char) : (literal 'T' (between :: rest)).or
      ((literal 't' (between :: rest)).or (literal ' ' (between :: rest))) = some rest := by
    rcases hbetween with rfl | rfl <;> rfl
  simp only [stamped, Local.dateTimeText, Option.bind_eq_bind, Option.bind_some, literal_cons, hliteral,
    number_four (show clock.date.year.toNat < 10000 by omega), number_two clock.month_lt,
    number_two clock.day_lt, number_two (show clock.hour < 100 by omega),
    number_two (show clock.minute < 100 by omega), number_two (show clock.second < 100 by omega), hyearEq]

/-- A text with an offset is read as calendar and clock have it. -/
theorem stamped_dateTimeText (hzone : zone (clock.zoneText [':']) = some (clock.zone, [])) :
    stamped (clock.dateTimeText 'T' (clock.zoneText [':']))
      = instantOf? clock.date ⟨clock.hour, clock.minute, clock.second, 0⟩ clock.zone := by
  have hfraction : fraction (clock.zoneText [':']) = some (0, clock.zoneText [':']) := by
    unfold Local.zoneText
    split <;> rfl
  simp only [stamped_eq hyear hyear' hday (.inl rfl), hfraction, Option.bind_some, hzone, List.isEmpty_nil,
    if_true]

/-- The first form does not apply without an offset. -/
theorem stamped_without_zone : stamped (clock.dateTimeText ' ' []) = none :=
  stamped_eq hyear hyear' hday (.inr rfl) []

theorem dateTime_dateTimeText :
    dateTime (some ∘ Text.trimStart) (clock.dateTimeText ' ' [])
      = instantOf? clock.date ⟨clock.hour, clock.minute, clock.second, 0⟩ 0 := by
  have hhour := clock.hour_lt hday
  have hminute := clock.minute_lt
  have hsecond := clock.second_lt
  have hyearEq : (clock.date.year.toNat : Int) = clock.date.year := Int.toNat_of_nonneg hyear
  have hblank (rest) : Text.trimStart (' ' :: (padded 2 clock.hour ++ rest))
      = padded 2 clock.hour ++ rest :=
    trimStart_padded 2 clock.hour rest
  simp only [dateTime, date, Reading.clock, Local.dateTimeText, Option.bind_eq_bind,
    Option.bind_some, literal_cons, Function.comp_apply, hblank,
    year_padded (show clock.date.year.toNat < 10000 by omega), field_padded clock.month_lt,
    field_padded clock.day_lt, field_padded (show clock.hour < 100 by omega),
    field_padded (show clock.minute < 100 by omega), field_padded (show clock.second < 100 by omega),
    List.isEmpty_nil, if_true, hyearEq]

end Shown

end Reading

section Written

variable {instant : Instant} {minutesBehind : Int}

theorem signed_eq_padded {year : Int} (h : 1000 ≤ year) (h' : year ≤ 9999) :
    signed year = padded 4 year.toNat := by
  have hlength : ¬ (Nat.toDigits 10 year.toNat).length ≤ 3 := by
    rw [Nat.length_toDigits_le_iff (by decide) (by decide)]
    omega
  have hnone : 4 - (Nat.toDigits 10 year.toNat).length = 0 := by omega
  rw [signed, if_neg (by omega), padded, hnone]
  rfl

theorem zoneSeconds_eq (hlow : -1440 < minutesBehind) (hhigh : minutesBehind < 1440) :
    zoneSeconds minutesBehind = -60 * minutesBehind := by
  unfold zoneSeconds
  simp
  omega

/-- A text that a number begins and a number ends has no blanks around it. -/
theorem trim_of_padded {text : List Char} {width n width' n' : Nat}
    (hstarts : padded width n <+: text) (hends : padded width' n' <:+ text) :
    Text.trim text = text := by
  obtain ⟨back, rfl⟩ := hstarts
  obtain ⟨front, hfront⟩ := hends
  obtain ⟨first, rest, hfirst, hdigit⟩ := exists_padded_eq_cons width n
  obtain ⟨c, rest', hcons, -⟩ := exists_padded_eq_cons width' n'
  have hne : padded width' n' ≠ [] := by simp [hcons]
  have hdigit' : ((padded width' n').getLast hne).isDigit = true :=
    isDigit_of_mem_padded (List.getLast_mem hne)
  have hhead : (padded width n ++ back).head? = some first := by
    rw [hfirst]
    rfl
  have hend : (padded width n ++ back).getLast? = some ((padded width' n').getLast hne) := by
    rw [← hfront, List.getLast?_append, List.getLast?_eq_some_getLast hne]
    rfl
  exact Source.trim_of_ends hhead hend (isBlank_of_isDigit hdigit) (isBlank_of_isDigit hdigit')

theorem seconds_suffix_dateTimeText (clock : Local) (between : Char) (after : List Char) :
    padded 2 clock.second ++ after <:+ clock.dateTimeText between after := by
  refine ⟨padded 4 clock.date.year.toNat ++ '-' :: padded 2 clock.date.month ++ '-' ::
    padded 2 clock.date.day ++ between :: padded 2 clock.hour ++ ':' :: padded 2 clock.minute
    ++ [':'], ?_⟩
  simp [Local.dateTimeText]

theorem trim_dateTimeText {clock : Local} {between : Char} {after : List Char} {n : Nat}
    (h : padded 2 n <:+ padded 2 clock.second ++ after) :
    Text.trim (clock.dateTimeText between after) = clock.dateTimeText between after :=
  trim_of_padded (List.prefix_append _ _) (h.trans (seconds_suffix_dateTimeText clock between after))

/-- The code `c` in a zone, for the years of four digits. -/
theorem format_c (hleap : instant.nanos < 1000000000)
    (hyear : 0 ≤ (Local.ofInstant instant minutesBehind).date.year)
    (hyear' : (Local.ofInstant instant minutesBehind).date.year ≤ 9999) (zoneName : Option String) :
    (instant.format "c" minutesBehind zoneName).toList
      = (Local.ofInstant instant minutesBehind).dateTimeText 'T'
          ((Local.ofInstant instant minutesBehind).zoneText [':']) := by
  have htime := Local.timeText_eq (Local.ofInstant instant minutesBehind) hleap
  simp [Instant.format, formatChars, codeText, fullYear, hyear, hyear', htime, Local.dateTimeText]

theorem format_dateTime (hyear : 1000 ≤ (Local.ofInstant instant minutesBehind).date.year)
    (hyear' : (Local.ofInstant instant minutesBehind).date.year ≤ 9999) (zoneName : Option String) :
    (instant.format "Y-m-d H:i:s" minutesBehind zoneName).toList
      = (Local.ofInstant instant minutesBehind).dateTimeText ' ' [] := by
  simp [Instant.format, formatChars, codeText, signed_eq_padded hyear hyear', Local.dateTimeText]

/-- An instant that is written with its offset, or without one in UTC, is read back up to the second. -/
theorem ofValue_format (hleap : instant.nanos < 1000000000) (hlow : -1440 < minutesBehind)
    (hhigh : minutesBehind < 1440)
    (hyear : 1000 ≤ (Local.ofInstant instant minutesBehind).date.year)
    (hyear' : (Local.ofInstant instant minutesBehind).date.year ≤ 9999) (zoneName : Option String) :
    Instant.ofValue? (.string (instant.format "c" minutesBehind zoneName)) = some ⟨instant.seconds, 0⟩ ∧
      (minutesBehind = 0 →
        Instant.ofValue? (.string (instant.format "Y-m-d H:i:s" minutesBehind zoneName))
          = some ⟨instant.seconds, 0⟩) := by
  have hday := Local.secondOfDay_ofInstant instant minutesBehind
  have hleast : leastYear ≤ (Local.ofInstant instant minutesBehind).date.year := by
    unfold leastYear
    omega
  have hgreatest : (Local.ofInstant instant minutesBehind).date.year ≤ greatestYear := by
    unfold greatestYear
    omega
  have hnonneg : 0 ≤ (Local.ofInstant instant minutesBehind).date.year := by omega
  have hshown := Local.instantOf_shown hleast hgreatest
  have hzone : (Local.ofInstant instant minutesBehind).zone = -60 * minutesBehind :=
    zoneSeconds_eq hlow hhigh
  have hformat := format_c hleap hnonneg hyear' zoneName
  have hformat' := format_dateTime hyear hyear' zoneName
  generalize Local.ofInstant instant minutesBehind = clock at *
  constructor
  · have hread := Reading.stamped_dateTimeText hnonneg hyear' hday
      (Reading.zone_zoneText hzone hlow hhigh)
    have htrim : Text.trim (clock.dateTimeText 'T' (clock.zoneText [':']))
        = clock.dateTimeText 'T' (clock.zoneText [':']) :=
      trim_dateTimeText ((List.suffix_append _ _).trans (List.suffix_append _ _))
    change Reading.ofText (Text.trim _) = _
    rw [hformat, htrim, Reading.ofText, hread, hshown, Option.some_or]
  · intro hutc
    have hzero : clock.zone = 0 := by omega
    have hread := Reading.dateTime_dateTimeText hnonneg hyear' hday
    have hsuffix : padded 2 clock.second <:+ padded 2 clock.second ++ [] := by simp
    have htrim : Text.trim (clock.dateTimeText ' ' []) = clock.dateTimeText ' ' [] :=
      trim_dateTimeText hsuffix
    rw [← hzero, hshown] at hread
    change Reading.ofText (Text.trim _) = _
    rw [hformat', htrim, Reading.ofText, Reading.stamped_without_zone hnonneg hyear' hday,
      Option.none_or, hread, Option.some_or]

/-- The last second of 1969, from a clock in the new year and from one in UTC. -/
theorem ofValue_format_before_epoch :
    Instant.ofValue? (.string (Instant.format ⟨-1, 42000000⟩ "c" (-120) none)) = some ⟨-1, 0⟩ ∧
      Instant.ofValue? (.string (Instant.format ⟨-1, 42000000⟩ "Y-m-d H:i:s" 0 none))
        = some ⟨-1, 0⟩ :=
  ⟨(ofValue_format (by decide) (by decide) (by decide) (by decide) (by decide) none).1,
    (ofValue_format (by decide) (by decide) (by decide) (by decide) (by decide) none).2 rfl⟩

end Written

end Stencil.Calendar
