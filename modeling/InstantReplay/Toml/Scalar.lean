import InstantReplay.Text.Numeral
import InstantReplay.Toml.Text
import InstantReplay.Toml.Value

/-!
# TOML numbers, dates and truth values

Readers of the values that are no strings and hold no others. Each gives a value and what follows
it. Numbers may have underscores between digits; a decimal integer does not start with a zero that
another digit follows.
-/

namespace InstantReplay.TomlScalar

/-- Whether a character is a decimal digit. -/
def isDigit (c : Char) : Bool := '0' ≤ c && c ≤ '9'

/-- The digits of a number: at least one, and single underscores between two of them. They are
given without the underscores, with what follows. -/
def digits? (isDigit : Char → Bool) : List Char → Option (List Char × List Char)
  | [] => none
  | c :: rest =>
    if isDigit c then
      match rest with
      | '_' :: more => do
        let (found, rest) ← digits? isDigit more
        return (c :: found, rest)
      | rest =>
        match digits? isDigit rest with
        | some (found, rest) => some (c :: found, rest)
        | none => if (rest.head?.map isDigit).getD false then none else some ([c], rest)
    else none

/-- The value of digits in a base. -/
def valueIn (base : Nat) (digits : List Char) : Nat :=
  digits.foldl (fun value c => value * base + (TomlText.hexValue? c).getD 0) 0

/-- An integer of 64 bits with a sign. -/
def integer? (value : Int) (rest : List Char) : Option (TomlValue × List Char) :=
  if -9223372036854775808 ≤ value ∧ value ≤ 9223372036854775807 then some (.integer value, rest)
  else none

/-- The digits of a number in another base than ten. -/
def based? (base : Nat) (isDigit : Char → Bool) (chars : List Char) :
    Option (TomlValue × List Char) := do
  let (digits, rest) ← digits? isDigit chars
  integer? (valueIn base digits) rest

/-- The whole digits of a decimal number. -/
def wholeDigits? : List Char → Option (List Char × List Char)
  | '0' :: rest => some (['0'], rest)
  | chars => digits? isDigit chars

/-- What follows a sign, and whether the sign is a minus. -/
def sign : List Char → Bool × List Char
  | '-' :: rest => (true, rest)
  | '+' :: rest => (false, rest)
  | chars => (false, chars)

/-- Whether digits times a power of ten round to more than the largest number of 64 bits in binary
floating point. -/
def isHuge (digits : List Char) (exponent : Int) : Bool :=
  let value := valueIn 10 digits
  let places : Int := (digits.dropWhile (· == '0')).length + exponent
  if value = 0 ∨ places ≤ 308 then false
  else if 310 ≤ places then true
  else
    let limit := Nat.pow 2 1024 - Nat.pow 2 970
    if 0 ≤ exponent then limit ≤ value * Nat.pow 10 exponent.toNat
    else limit * Nat.pow 10 (-exponent).toNat ≤ value

/-- The fraction of a number, if it has one: its digits, and what follows. -/
def fraction? : List Char → Option (List Char × List Char)
  | '.' :: rest => digits? isDigit rest
  | rest => some ([], rest)

/-- The exponent of a number, if it has one, and what follows. -/
def exponent? : List Char → Option (Int × List Char)
  | c :: rest =>
    if c == 'e' || c == 'E' then do
      let (minus, rest) := sign rest
      let (digits, rest) ← digits? isDigit rest
      let value : Int := valueIn 10 digits
      return (if minus then -value else value, rest)
    else some (0, c :: rest)
  | [] => some (0, [])

/-- Whether a fraction or an exponent starts here. -/
def continuesFloat : List Char → Bool
  | c :: _ => c == '.' || c == 'e' || c == 'E'
  | [] => false

/-- A decimal number. One with a fraction or an exponent is kept as written; it cannot be larger
than every number of 64 bits. -/
def decimal? (chars : List Char) : Option (TomlValue × List Char) := do
  let (minus, unsigned) := sign chars
  let (whole, rest) ← wholeDigits? unsigned
  if continuesFloat rest then
    let (fraction, rest) ← fraction? rest
    let (exponent, rest) ← exponent? rest
    if !minus && isHuge (whole ++ fraction) (exponent - fraction.length) then none
    else
      let written := chars.take (chars.length - rest.length)
      return (.float (String.ofList written), rest)
  else integer? (if minus then -(valueIn 10 whole : Int) else valueIn 10 whole) rest

/-- A fixed word and what follows it. -/
def word? (word : List Char) (chars : List Char) : Option (List Char) :=
  if word.isPrefixOf chars then some (chars.drop word.length) else none

/-- A number. -/
def number? (chars : List Char) : Option (TomlValue × List Char) :=
  match chars with
  | '0' :: 'x' :: rest => based? 16 (fun c => (TomlText.hexValue? c).isSome) rest
  | '0' :: 'o' :: rest => based? 8 (fun c => '0' ≤ c && c ≤ '7') rest
  | '0' :: 'b' :: rest => based? 2 (fun c => c == '0' || c == '1') rest
  | chars =>
    let (_, unsigned) := sign chars
    match word? ['i', 'n', 'f'] unsigned <|> word? ['n', 'a', 'n'] unsigned with
    | some rest => some (.float (String.ofList (chars.take (chars.length - rest.length))), rest)
    | none => decimal? chars

/-- The value of exactly `count` digits, and what follows. -/
def fixed? (count : Nat) (chars : List Char) : Option (Nat × List Char) :=
  let found := chars.take count
  if found.length = count ∧ found.all isDigit then some (valueIn 10 found, chars.drop count)
  else none

/-- Exactly two digits with a value in a range, and what follows. -/
def pair? (low high : Nat) (chars : List Char) : Option (Nat × List Char) := do
  let (value, rest) ← fixed? 2 chars
  if low ≤ value ∧ value ≤ high then return (value, rest) else none

/-- What follows a character. -/
def after? (c : Char) : List Char → Option (List Char)
  | d :: rest => if c = d then some rest else none
  | [] => none

/-- The number of days in a month. -/
def daysIn (year month : Nat) : Nat :=
  if month = 2 then
    if year % 4 = 0 ∧ (year % 100 ≠ 0 ∨ year % 400 = 0) then 29 else 28
  else if month = 4 ∨ month = 6 ∨ month = 9 ∨ month = 11 then 30
  else 31

/-- What follows a day written as year, month and day. -/
def afterDay? (chars : List Char) : Option (List Char) := do
  let (year, rest) ← fixed? 4 chars
  let (month, rest) ← pair? 1 12 (← after? '-' rest)
  let (_, rest) ← pair? 1 (daysIn year month) (← after? '-' rest)
  return rest

/-- What follows a time written as hour, minute, second and perhaps a fraction of a second. -/
def afterTime? (chars : List Char) : Option (List Char) := do
  let (_, rest) ← pair? 0 23 chars
  let (_, rest) ← pair? 0 59 (← after? ':' rest)
  let (_, rest) ← pair? 0 60 (← after? ':' rest)
  match rest with
  | '.' :: c :: more => if isDigit c then return more.dropWhile isDigit else return rest
  | rest => return rest

/-- What follows a distance from universal time. -/
def afterOffset? : List Char → Option (List Char)
  | c :: rest =>
    if c == 'Z' || c == 'z' then some rest
    else if c == '+' || c == '-' then do
      let (_, rest) ← pair? 0 23 rest
      let (_, rest) ← pair? 0 59 (← after? ':' rest)
      return rest
    else some (c :: rest)
  | [] => some []

/-- Whether the characters start like a day, which a number never does. -/
def startsDay (chars : List Char) : Bool :=
  (fixed? 4 chars).any fun (_, rest) => rest.head? == some '-'

/-- Whether the characters start like a time, which a number never does. -/
def startsTime (chars : List Char) : Bool :=
  (pair? 0 23 chars).any fun (_, rest) => rest.head? == some ':'

/-- What follows a day, with or without a time, or a time alone. -/
def afterDate? (chars : List Char) : Option (List Char) :=
  if startsDay chars then do
    let rest ← afterDay? chars
    match rest with
    | c :: more =>
      if (c == 'T' || c == 't' || c == ' ') && startsTime more then
        afterOffset? (← afterTime? more)
      else return rest
    | [] => return []
  else if startsTime chars then afterTime? chars
  else none

/-- A value that starts with a digit or a sign. -/
def numeric? (chars : List Char) : Option (TomlValue × List Char) :=
  if startsDay chars || startsTime chars then do
    let rest ← afterDate? chars
    return (.date (String.ofList (chars.take (chars.length - rest.length))), rest)
  else number? chars

/-- A truth value, a number or a date. -/
def read? (chars : List Char) : Option (TomlValue × List Char) :=
  match chars with
  | 't' :: _ => do return (.boolean true, ← word? ['t', 'r', 'u', 'e'] chars)
  | 'f' :: _ => do return (.boolean false, ← word? ['f', 'a', 'l', 's', 'e'] chars)
  | chars => numeric? chars

end InstantReplay.TomlScalar
