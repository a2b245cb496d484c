/-!
# Numerals

Decimal and hexadecimal numerals of natural numbers, as texts and back.
-/

namespace InstantReplay.Numeral

/-- The character of a hexadecimal digit, in lower case. -/
def hexDigit (n : Nat) : Char :=
  if n < 10 then Char.ofNat (48 + n) else Char.ofNat (87 + n)

/-- The lowest `count` hexadecimal digits of `n`, most significant first. -/
def hexDigits : Nat → Nat → List Char
  | 0, _ => []
  | count + 1, n => hexDigits count (n / 16) ++ [hexDigit (n % 16)]

/-- The number of hexadecimal digits of `n`, at least one. -/
def hexLength (n : Nat) : Nat := if n < 16 then 1 else hexLength (n / 16) + 1

/-- `n` in hexadecimal with as many digits as needed. -/
def hex (n : Nat) : String := String.ofList (hexDigits (hexLength n) n)

/-- `n` in hexadecimal, filled with zeros to `width` digits. -/
def hexPadded (width n : Nat) : String := String.ofList (hexDigits (max width (hexLength n)) n)

/-- The value of a decimal digit. -/
def digit? (c : Char) : Option Nat :=
  if '0' ≤ c ∧ c ≤ '9' then some (c.toNat - 48) else none

/-- The value of a sequence of decimal digits read after `value`. -/
def decimalFrom (value : Nat) : List Char → Option Nat
  | [] => some value
  | c :: rest => do decimalFrom (value * 10 + (← digit? c)) rest

/-- The value of a decimal numeral of at least one digit, which may carry a plus sign. -/
def decimal? (text : List Char) : Option Nat :=
  match text with
  | [] | ['+'] => none
  | '+' :: digits => decimalFrom 0 digits
  | digits => decimalFrom 0 digits

/-- A decimal numeral below `bound`. -/
def decimalBelow? (bound : Nat) (text : List Char) : Option Nat := do
  let value ← decimal? text
  if value < bound then some value else none

/-- A number of 32 bits. -/
def word32? (text : List Char) : Option UInt32 :=
  (decimalBelow? (Nat.pow 2 32) text).map UInt32.ofNat

/-- `n` in decimal, filled with `fill` to `width` characters. -/
def padded (fill : Char) (width n : Nat) : String :=
  let digits := toString n
  String.ofList (List.replicate (width - digits.length) fill) ++ digits

end InstantReplay.Numeral
