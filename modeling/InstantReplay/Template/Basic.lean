import InstantReplay.Calendar

/-!
# Time formats

A time format is a text in which a percent sign introduces a directive, such as `%Y` for the
year. `TimeFormat.parse?` reads it as a list of items, or refuses it. A numeric directive may
carry a padding mark: `-` for none, `0` for zeros, `_` for blanks.
-/

namespace InstantReplay

/-- How a number is filled up to its width. -/
inductive Padding
  | none
  | zero
  | blank
  deriving DecidableEq

/-- A part of a moment that is shown as a number. -/
inductive NumberField
  | year
  | century
  | yearOfCentury
  | weekYear
  | weekYearOfCentury
  | quarter
  | month
  | day
  | sundayWeek
  | mondayWeek
  | thursdayWeek
  | weekdayFromSunday
  | weekdayFromMonday
  | ordinal
  | hour
  | hour12
  | minute
  | second
  | nanos
  | timestamp
  deriving DecidableEq

/-- A part of a moment that is shown in a form of its own. -/
inductive FixedField
  | shortMonth
  | longMonth
  | shortWeekday
  | longWeekday
  | lowerHalfDay
  | upperHalfDay
  /-- The part of a second after a point, as many groups of three digits as it needs. -/
  | fraction
  /-- The part of a second after a point, with 3, 6 or 9 digits. -/
  | fractionDigits (digits : Nat)
  /-- The first 3, 6 or 9 digits of the part of a second, without a point. -/
  | bareFractionDigits (digits : Nat)
  | zoneName
  | zoneOffset
  | zoneOffsetColon
  | zoneOffsetSeconds
  | zoneOffsetHours
  /-- An offset in any of its forms. It can be read but not written. -/
  | zoneOffsetAny
  /-- Date, time and offset in one. -/
  | stamp
  deriving DecidableEq

/-- An item of a time format. -/
inductive TimeItem
  | literal (c : Char)
  | number (field : NumberField) (padding : Padding)
  | fixed (field : FixedField)
  deriving DecidableEq

namespace TimeFormat

/-- A literal text. -/
def literals (text : String) : List TimeItem := text.toList.map .literal

/-- A number filled with zeros. -/
def zeroed (field : NumberField) : TimeItem := .number field .zero

/-- A number filled with blanks. -/
def blanked (field : NumberField) : TimeItem := .number field .blank

/-- Numbers with a text between each two. -/
def joined (mark : String) : List NumberField → List TimeItem
  | [] => []
  | [field] => [zeroed field]
  | field :: rest => zeroed field :: literals mark ++ joined mark rest

/-- The hour, minute and second with colons. -/
def clock : List TimeItem := joined ":" [.hour, .minute, .second]

/-- What a directive of one character stands for. -/
def directive? : Char → Option (List TimeItem)
  | 'A' => some [.fixed .longWeekday]
  | 'B' => some [.fixed .longMonth]
  | 'C' => some [zeroed .century]
  | 'D' | 'x' => some (joined "/" [.month, .day, .yearOfCentury])
  | 'F' => some (joined "-" [.year, .month, .day])
  | 'G' => some [zeroed .weekYear]
  | 'H' => some [zeroed .hour]
  | 'I' => some [zeroed .hour12]
  | 'M' => some [zeroed .minute]
  | 'P' => some [.fixed .lowerHalfDay]
  | 'R' => some (joined ":" [.hour, .minute])
  | 'S' => some [zeroed .second]
  | 'T' | 'X' => some clock
  | 'U' => some [zeroed .sundayWeek]
  | 'V' => some [zeroed .thursdayWeek]
  | 'W' => some [zeroed .mondayWeek]
  | 'Y' => some [zeroed .year]
  | 'Z' => some [.fixed .zoneName]
  | 'a' => some [.fixed .shortWeekday]
  | 'b' | 'h' => some [.fixed .shortMonth]
  | 'c' => some ([.fixed .shortWeekday, .literal ' ', .fixed .shortMonth, .literal ' ',
      blanked .day, .literal ' '] ++ clock ++ [.literal ' ', zeroed .year])
  | 'd' => some [zeroed .day]
  | 'e' => some [blanked .day]
  | 'f' => some [zeroed .nanos]
  | 'g' => some [zeroed .weekYearOfCentury]
  | 'j' => some [zeroed .ordinal]
  | 'k' => some [blanked .hour]
  | 'l' => some [blanked .hour12]
  | 'm' => some [zeroed .month]
  | 'n' => some [.literal '\n']
  | 'p' => some [.fixed .upperHalfDay]
  | 'q' => some [.number .quarter .none]
  | 'r' => some (joined ":" [.hour12, .minute, .second] ++ [.literal ' ', .fixed .upperHalfDay])
  | 's' => some [.number .timestamp .none]
  | 't' => some [.literal '\t']
  | 'u' => some [.number .weekdayFromMonday .none]
  | 'v' => some [blanked .day, .literal '-', .fixed .shortMonth, .literal '-', zeroed .year]
  | 'w' => some [.number .weekdayFromSunday .none]
  | 'y' => some [zeroed .yearOfCentury]
  | 'z' => some [.fixed .zoneOffset]
  | '+' => some [.fixed .stamp]
  | '%' => some [.literal '%']
  | _ => none

/-- The padding that a mark stands for. -/
def padding? : Char → Option Padding
  | '-' => some .none
  | '0' => some .zero
  | '_' => some .blank
  | _ => none

/-- The item of a directive with a padding mark: only a single number can be padded. -/
def padded? (padding : Padding) : List TimeItem → Option TimeItem
  | [.number field _] => some (.number field padding)
  | _ => none

/-- Reads a time format. -/
def parse? : List Char → Option (List TimeItem)
  | [] => some []
  | '%' :: directive =>
    match directive with
    | '.' :: '3' :: 'f' :: rest => (parse? rest).map (.fixed (.fractionDigits 3) :: ·)
    | '.' :: '6' :: 'f' :: rest => (parse? rest).map (.fixed (.fractionDigits 6) :: ·)
    | '.' :: '9' :: 'f' :: rest => (parse? rest).map (.fixed (.fractionDigits 9) :: ·)
    | '.' :: 'f' :: rest => (parse? rest).map (.fixed .fraction :: ·)
    | '3' :: 'f' :: rest => (parse? rest).map (.fixed (.bareFractionDigits 3) :: ·)
    | '6' :: 'f' :: rest => (parse? rest).map (.fixed (.bareFractionDigits 6) :: ·)
    | '9' :: 'f' :: rest => (parse? rest).map (.fixed (.bareFractionDigits 9) :: ·)
    | ':' :: ':' :: ':' :: 'z' :: rest => (parse? rest).map (.fixed .zoneOffsetHours :: ·)
    | ':' :: ':' :: 'z' :: rest => (parse? rest).map (.fixed .zoneOffsetSeconds :: ·)
    | ':' :: 'z' :: rest => (parse? rest).map (.fixed .zoneOffsetColon :: ·)
    | '#' :: 'z' :: rest => (parse? rest).map (.fixed .zoneOffsetAny :: ·)
    | [] => none
    | [c] => directive? c
    | mark :: c :: rest =>
      match padding? mark with
      | some padding => do
        let item ← padded? padding (← directive? c)
        return item :: (← parse? rest)
      | none => do
        let items ← directive? mark
        return items ++ (← parse? (c :: rest))
  | c :: rest => (parse? rest).map (.literal c :: ·)

end TimeFormat

end InstantReplay
