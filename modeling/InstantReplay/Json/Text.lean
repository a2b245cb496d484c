import InstantReplay.Json.Value

/-!
# JSON strings

How a text is written between quotes in JSON.
-/

namespace InstantReplay.JsonText

/-- A byte of a text inside quotes: quotes, backslashes and control characters are escaped. -/
def escapeByte (b : UInt8) : List UInt8 :=
  match b.toNat with
  | 34 => [92, 34]
  | 92 => [92, 92]
  | 8 => [92, 98]
  | 12 => [92, 102]
  | 10 => [92, 110]
  | 13 => [92, 114]
  | 9 => [92, 116]
  | n =>
    if n < 32 then
      [92, 117, 48, 48, UInt8.ofNat (Numeral.hexDigit (n / 16)).toNat,
        UInt8.ofNat (Numeral.hexDigit (n % 16)).toNat]
    else [b]

/-- A text between quotes. -/
def write (text : String) : List UInt8 := 34 :: text.toUTF8.toList.flatMap escapeByte ++ [34]

/-- The bytes of an ASCII text. -/
def ascii (text : String) : List UInt8 := text.toUTF8.toList

end InstantReplay.JsonText
