/-!
# Civil time

`CivilTime.ofMoment` turns seconds since the start of 1970 into a date of the Gregorian calendar and
a time of day, both as clocks show them where the moment is looked at: ahead of universal time by an
offset, or behind it.
-/

namespace InstantReplay

/-- How far clocks are ahead of universal time: less than a day. -/
structure ZoneOffset where
  seconds : Int
  lt_day : seconds.natAbs < 86400
  deriving DecidableEq

namespace ZoneOffset

/-- That of universal time itself. -/
def utc : ZoneOffset := ⟨0, Nat.zero_lt_succ _⟩

/-- Whole hours, without the direction. -/
def hours (offset : ZoneOffset) : Nat := offset.seconds.natAbs / 3600

/-- The minutes after the hours. -/
def minutes (offset : ZoneOffset) : Nat := offset.seconds.natAbs / 60 % 60

/-- The seconds after the minutes. -/
def restSeconds (offset : ZoneOffset) : Nat := offset.seconds.natAbs % 60

/-- All minutes, to the nearest one. -/
def nearMinutes (offset : ZoneOffset) : Nat := (offset.seconds.natAbs + 30) / 60

end ZoneOffset

/-- A moment: seconds since the start of 1970, a part of a second, and the offset of the clocks. -/
structure Moment where
  seconds : Int
  nanos : Nat
  offset : ZoneOffset
  deriving DecidableEq

/-- A date of the Gregorian calendar, continued before its introduction. -/
structure Date where
  year : Int
  /-- From 1 to 12. -/
  month : Nat
  /-- From 1 to 31. -/
  day : Nat
  /-- The day's place in its year, from 1. -/
  ordinal : Nat
  /-- Days after Sunday. -/
  weekday : Nat
  deriving DecidableEq

namespace Date

/-- Whether the year has a 29th of February. -/
def isLeap (year : Int) : Bool :=
  year.emod 4 == 0 && (year.emod 100 != 0 || year.emod 400 == 0)

/-- The days of the year before the first of each month. -/
def daysBefore (year : Int) (month : Nat) : Nat :=
  let plain := #[0, 31, 59, 90, 120, 151, 181, 212, 243, 273, 304, 334][month - 1]?.getD 0
  if month > 2 && isLeap year then plain + 1 else plain

/-- The days from the first of January of year 0 to that of `year`. -/
def daysToYear (year : Int) : Int :=
  let last := year - 1
  365 * year + last.fdiv 4 - last.fdiv 100 + last.fdiv 400 + 1

/-- The days from the start of year 0 to the start of 1970. -/
def epoch : Int := 719528

/-- The last month, counted down from `month`, that starts on or before day `ordinal`. -/
def monthOf (year : Int) (ordinal : Nat) : Nat → Nat
  | 0 => 1
  | month + 1 =>
    if daysBefore year (month + 1) < ordinal then month + 1 else monthOf year ordinal month

/-- The date `days` after the start of 1970. -/
def ofDays (days : Int) : Date :=
  let total := days + epoch
  let guess := (total * 400).fdiv 146097
  let year :=
    if total < daysToYear guess then guess - 1
    else if daysToYear (guess + 1) ≤ total then guess + 1
    else guess
  let ordinal := (total - daysToYear year).toNat + 1
  let month := monthOf year ordinal 12
  { year := year
    month := month
    day := ordinal - daysBefore year month
    ordinal := ordinal
    weekday := ((days + 4).emod 7).toNat }

/-- The weekday counted from Monday as 1. -/
def weekdayFromMonday (date : Date) : Nat := if date.weekday = 0 then 7 else date.weekday

/-- The week of the year when weeks begin on Sunday and the days before the first are week 0. -/
def sundayWeek (date : Date) : Nat := (date.ordinal + 6 - date.weekday) / 7

/-- The week of the year when weeks begin on Monday and the days before the first are week 0. -/
def mondayWeek (date : Date) : Nat := (date.ordinal + 7 - date.weekdayFromMonday) / 7

/-- The number of weeks of a year whose weeks belong to the year of their Thursday. -/
def weeksOf (year : Int) : Nat :=
  let firstWeekday := (daysToYear year - epoch + 4).emod 7
  if firstWeekday == 4 || (firstWeekday == 3 && isLeap year) then 53 else 52

/-- The year and number of the week, where a week belongs to the year of its Thursday. -/
def thursdayWeek (date : Date) : Int × Nat :=
  let week := (date.ordinal + 10 - date.weekdayFromMonday) / 7
  if week = 0 then (date.year - 1, weeksOf (date.year - 1))
  else if week > weeksOf date.year then (date.year + 1, 1)
  else (date.year, week)

/-- The quarter of the year, from 1. -/
def quarter (date : Date) : Nat := (date.month - 1) / 3 + 1

end Date

/-- A date and a time of day. -/
structure CivilTime where
  date : Date
  hour : Nat
  minute : Nat
  second : Nat
  nanos : Nat
  offset : ZoneOffset
  /-- The moment in seconds since the start of 1970. -/
  seconds : Int
  deriving DecidableEq

namespace CivilTime

/-- The date and time of day of a moment. -/
def ofMoment (moment : Moment) : CivilTime :=
  let shown := moment.seconds + moment.offset.seconds
  let inDay := (shown.emod 86400).toNat
  { date := Date.ofDays (shown.fdiv 86400)
    hour := inDay / 3600
    minute := inDay / 60 % 60
    second := inDay % 60
    nanos := moment.nanos
    offset := moment.offset
    seconds := moment.seconds }

/-- The hour on a clock face, from 1 to 12. -/
def hour12 (time : CivilTime) : Nat := if time.hour % 12 = 0 then 12 else time.hour % 12

/-- Whether the time is past noon. -/
def isAfternoon (time : CivilTime) : Bool := 12 ≤ time.hour

end CivilTime

end InstantReplay
