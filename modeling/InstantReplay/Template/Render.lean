import InstantReplay.Template.Basic
import InstantReplay.Text.Numeral

/-!
# Rendering time formats

`TimeFormat.render?` writes a moment in a time format, as the clocks show it. It gives nothing
exactly when the format holds the directive that can only be read.
-/

namespace InstantReplay

namespace CivilTime

/-- A single digit. -/
def oneDigit (value : Nat) : String := String.singleton (Char.ofNat (48 + value))

/-- Two digits of a value below 256. The tens go on into the characters after the digit nine. -/
def twoDigits (padding : Padding) (value : Nat) : String :=
  let tens := value / 10
  let first :=
    match padding with
    | .none => if tens = 0 then "" else oneDigit tens
    | .blank => if tens = 0 then " " else oneDigit tens
    | .zero => oneDigit tens
  first ++ oneDigit (value % 10)

/-- A number filled to `width`, with a sign if it is negative or `signed` asks for one. Zeros
stand after the sign, blanks before it. -/
def wide (padding : Padding) (width : Nat) (signed : Bool) (value : Int) : String :=
  let sign := if value < 0 then "-" else if signed then "+" else ""
  let digits := toString value.natAbs
  let missing := width - (sign.length + digits.length)
  match padding with
  | .none => sign ++ digits
  | .zero => sign ++ String.ofList (List.replicate missing '0') ++ digits
  | .blank => String.ofList (List.replicate missing ' ') ++ sign ++ digits

/-- A year of four digits; one that needs more or is negative carries a sign. -/
def yearText (padding : Padding) (year : Int) : String :=
  if 0 ≤ year ∧ year < 10000 then wide padding 4 false year else wide padding 5 true year

/-- A part of the time as a number. -/
def numberText (time : CivilTime) (padding : Padding) : NumberField → String
  | .year => yearText padding time.date.year
  | .century => twoDigits padding ((time.date.year.fdiv 100).emod 256).toNat
  | .yearOfCentury => twoDigits padding (time.date.year.emod 100).toNat
  | .weekYear => yearText padding time.date.thursdayWeek.1
  | .weekYearOfCentury => twoDigits padding (time.date.thursdayWeek.1.emod 100).toNat
  | .quarter => oneDigit time.date.quarter
  | .month => twoDigits padding time.date.month
  | .day => twoDigits padding time.date.day
  | .sundayWeek => twoDigits padding time.date.sundayWeek
  | .mondayWeek => twoDigits padding time.date.mondayWeek
  | .thursdayWeek => twoDigits padding time.date.thursdayWeek.2
  | .weekdayFromSunday => oneDigit time.date.weekday
  | .weekdayFromMonday => oneDigit time.date.weekdayFromMonday
  | .ordinal => wide padding 3 false time.date.ordinal
  | .hour => twoDigits padding time.hour
  | .hour12 => twoDigits padding time.hour12
  | .minute => twoDigits padding time.minute
  | .second => twoDigits padding (time.second + time.nanos / 1000000000)
  | .nanos => wide padding 9 false ((time.nanos % 1000000000 : Nat) : Int)
  | .timestamp => wide padding 9 false time.seconds

/-- The months' names. -/
def monthNames : Array String :=
  #["January", "February", "March", "April", "May", "June", "July", "August", "September",
    "October", "November", "December"]

/-- The weekdays' names, from Sunday. -/
def weekdayNames : Array String :=
  #["Sunday", "Monday", "Tuesday", "Wednesday", "Thursday", "Friday", "Saturday"]

/-- The first three letters of a name. -/
def shortName (name : String) : String := String.ofList (name.toList.take 3)

/-- The name of the month. -/
def monthName (time : CivilTime) : String := monthNames[time.date.month - 1]?.getD ""

/-- The name of the weekday. -/
def weekdayName (time : CivilTime) : String := weekdayNames[time.date.weekday]?.getD ""

/-- The first `digits` digits of the part of a second. -/
def fractionText (time : CivilTime) (digits : Nat) : String :=
  Numeral.padded '0' digits (time.nanos % 1000000000 / Nat.pow 10 (9 - digits))

/-- The part of a second after a point, in as many groups of three digits as it needs. -/
def shortFraction (time : CivilTime) : String :=
  let nanos := time.nanos % 1000000000
  if nanos = 0 then ""
  else if nanos % 1000000 = 0 then "." ++ time.fractionText 3
  else if nanos % 1000 = 0 then "." ++ time.fractionText 6
  else "." ++ time.fractionText 9

/-- The offset of the clocks: its direction, and `parts` with two digits each and `mark` between
them. -/
def offsetText (time : CivilTime) (mark : String) (parts : List Nat) : String :=
  (if time.offset.seconds < 0 then "-" else "+") ++
    mark.intercalate (parts.map (twoDigits .zero))

/-- The offset in hours and minutes, to the nearest minute. -/
def nearOffset (time : CivilTime) (mark : String) : String :=
  let minutes := time.offset.nearMinutes
  time.offsetText mark [minutes / 60, minutes % 60]

/-- The offset in hours, minutes and seconds. -/
def fullOffset (time : CivilTime) : String :=
  time.offsetText ":" [time.offset.hours, time.offset.minutes, time.offset.restSeconds]

/-- The name of the zone is its offset, without seconds if there are none. -/
def zoneName (time : CivilTime) : String :=
  if time.offset.restSeconds = 0 then time.offsetText ":" [time.offset.hours, time.offset.minutes]
  else time.fullOffset

/-- Date, time and offset in one. -/
def stampText (time : CivilTime) : String :=
  yearText .zero time.date.year ++ "-" ++ twoDigits .zero time.date.month ++ "-" ++
    twoDigits .zero time.date.day ++ "T" ++ twoDigits .zero time.hour ++ ":" ++
    twoDigits .zero time.minute ++ ":" ++
    twoDigits .zero (time.second + time.nanos / 1000000000) ++
    time.shortFraction ++ time.nearOffset ":"

/-- A part of the time in its own form. -/
def fixedText? (time : CivilTime) : FixedField → Option String
  | .shortMonth => shortName time.monthName
  | .longMonth => time.monthName
  | .shortWeekday => shortName time.weekdayName
  | .longWeekday => time.weekdayName
  | .lowerHalfDay => if time.isAfternoon then "pm" else "am"
  | .upperHalfDay => if time.isAfternoon then "PM" else "AM"
  | .fraction => time.shortFraction
  | .fractionDigits digits => "." ++ time.fractionText digits
  | .bareFractionDigits digits => time.fractionText digits
  | .zoneName => time.zoneName
  | .zoneOffset => time.nearOffset ""
  | .zoneOffsetColon => time.nearOffset ":"
  | .zoneOffsetSeconds => time.fullOffset
  | .zoneOffsetHours => time.offsetText "" [time.offset.hours]
  | .zoneOffsetAny => none
  | .stamp => time.stampText

/-- One item of a time format. -/
def itemText? (time : CivilTime) : TimeItem → Option String
  | .literal c => String.singleton c
  | .number field padding => time.numberText padding field
  | .fixed field => time.fixedText? field

end CivilTime

namespace TimeFormat

/-- A moment in a time format. -/
def render? (time : CivilTime) : List TimeItem → Option String
  | [] => some ""
  | item :: rest => do return (← time.itemText? item) ++ (← render? time rest)

end TimeFormat

end InstantReplay
