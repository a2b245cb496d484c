import InstantReplay.Text.Numeral

/-!
# JSON documents

`JsonValue.parse?` reads a JSON document from bytes. A string is kept as the bytes and codes that
were written; `unescape?` gives its text. A string that nobody asks for may hold codes that stand
for no character and bytes that are no text.
-/

namespace InstantReplay

/-- A number as it was written. -/
structure JsonNumber where
  negative : Bool
  /-- The value of the digits before the point. -/
  digits : Nat
  /-- Whether neither a fraction nor an exponent follows. -/
  isWhole : Bool
  deriving DecidableEq

/-- A character of a string. -/
inductive JsonChar
  /-- A byte that was written as it is or with a one-letter escape. -/
  | byte (b : UInt8)
  /-- A code of 16 bits that was written with four digits. -/
  | unit (code : Nat)
  deriving DecidableEq

/-- A JSON document. -/
inductive JsonValue
  | null
  | bool (value : Bool)
  | number (value : JsonNumber)
  | string (chars : List JsonChar)
  | array (items : List JsonValue)
  | object (fields : List (List JsonChar × JsonValue))

namespace JsonValue

/-- Bytes without the blanks at their start. -/
def skipBlanks (bytes : List UInt8) : List UInt8 :=
  bytes.dropWhile fun b => b == 32 || b == 10 || b == 9 || b == 13

/-- The value of a hexadecimal digit. -/
def hexValue? (b : UInt8) : Option Nat :=
  let n := b.toNat
  if 48 ≤ n ∧ n ≤ 57 then some (n - 48)
  else if 97 ≤ n ∧ n ≤ 102 then some (n - 87)
  else if 65 ≤ n ∧ n ≤ 70 then some (n - 55)
  else none

/-- The value of four hexadecimal digits. -/
def hex4? (a b c d : UInt8) : Option Nat := do
  return (((← hexValue? a) * 16 + (← hexValue? b)) * 16 + (← hexValue? c)) * 16 + (← hexValue? d)

/-- The byte that a one-letter escape stands for. -/
def escaped? (b : UInt8) : Option UInt8 :=
  match b.toNat with
  | 34 => some 34
  | 92 => some 92
  | 47 => some 47
  | 98 => some 8
  | 102 => some 12
  | 110 => some 10
  | 114 => some 13
  | 116 => some 9
  | _ => none

/-- The rest of a string up to its closing quote, and what follows. The part read before is given
backwards. -/
def scanString (before : List JsonChar) : List UInt8 → Option (List JsonChar × List UInt8)
  | [] => none
  | 34 :: rest => some (before.reverse, rest)
  | 92 :: 117 :: a :: b :: c :: d :: rest =>
    match hex4? a b c d with
    | some code => scanString (.unit code :: before) rest
    | none => none
  | 92 :: e :: rest =>
    match escaped? e with
    | some b => scanString (.byte b :: before) rest
    | none => none
  | b :: rest => if b < 32 || b == 92 then none else scanString (.byte b :: before) rest

/-- The bytes of a character. -/
def charBytes (code : Nat) : List UInt8 := (Char.ofNat code).toString.toUTF8.toList

/-- Whether a code is the first of a surrogate pair. -/
def isLead (code : Nat) : Bool := 0xd800 ≤ code && code ≤ 0xdbff

/-- Whether a code is the second of a surrogate pair. -/
def isTrail (code : Nat) : Bool := 0xdc00 ≤ code && code ≤ 0xdfff

/-- The bytes that the characters of a string stand for. A surrogate alone stands for none. The
part read before is given backwards. -/
def unescape (before : List UInt8) : List JsonChar → Option (List UInt8)
  | [] => some before.reverse
  | .byte b :: rest => unescape (b :: before) rest
  | .unit high :: .unit low :: rest =>
    if isLead high && isTrail low then
      let code := 0x10000 + (high - 0xd800) * 0x400 + (low - 0xdc00)
      unescape ((charBytes code).reverse ++ before) rest
    else if isLead high || isTrail high then none
    else unescape ((charBytes high).reverse ++ before) (.unit low :: rest)
  | .unit code :: rest =>
    if isLead code || isTrail code then none
    else unescape ((charBytes code).reverse ++ before) rest

/-- The text of a string. -/
def unescape? (chars : List JsonChar) : Option String := do
  String.fromUTF8? (ByteArray.mk (← unescape [] chars).toArray)

/-- Whether a byte is a decimal digit. -/
def isDigit (b : UInt8) : Bool := 48 ≤ b && b ≤ 57

/-- The digits at the start, at least one, and what follows. -/
def digits? (bytes : List UInt8) : Option (List UInt8 × List UInt8) :=
  match bytes.takeWhile isDigit with
  | [] => none
  | found => some (found, bytes.dropWhile isDigit)

/-- What follows a fraction, if one starts here; the flag says whether one did. -/
def fraction? (bytes : List UInt8) : Option (Bool × List UInt8) :=
  match bytes with
  | 46 :: rest => do return (true, (← digits? rest).2)
  | rest => some (false, rest)

/-- What follows an exponent, if one starts here; the flag says whether one did. -/
def exponent? (bytes : List UInt8) : Option (Bool × List UInt8) :=
  match bytes with
  | e :: rest =>
    if e == 101 || e == 69 then
      match rest with
      | 43 :: rest | 45 :: rest => do return (true, (← digits? rest).2)
      | rest => do return (true, (← digits? rest).2)
    else some (false, e :: rest)
  | [] => some (false, [])

/-- A number without its sign. A numeral does not start with a zero that another digit follows. -/
def number? (negative : Bool) (bytes : List UInt8) : Option (JsonValue × List UInt8) := do
  let (found, rest) ← digits? bytes
  if found.length > 1 ∧ found.head? = some 48 then none
  else
    let (hasFraction, rest) ← fraction? rest
    let (hasExponent, rest) ← exponent? rest
    let value := found.foldl (fun n b => n * 10 + (b.toNat - 48)) 0
    return (.number ⟨negative, value, !hasFraction && !hasExponent⟩, rest)

/-- What follows a fixed word, if the bytes start with it. -/
def word? (word : List UInt8) (bytes : List UInt8) : Option (List UInt8) :=
  if word.isPrefixOf bytes then some (bytes.drop word.length) else none

mutual

/-- A value and what follows it. The number bounds how many values are read. -/
def value? : Nat → List UInt8 → Option (JsonValue × List UInt8)
  | 0, _ => none
  | fuel + 1, bytes =>
    match skipBlanks bytes with
    | 110 :: rest => do return (.null, ← word? [117, 108, 108] rest)
    | 116 :: rest => do return (.bool true, ← word? [114, 117, 101] rest)
    | 102 :: rest => do return (.bool false, ← word? [97, 108, 115, 101] rest)
    | 34 :: rest => do
      let (chars, rest) ← scanString [] rest
      return (.string chars, rest)
    | 45 :: rest => number? true rest
    | 91 :: rest =>
      match skipBlanks rest with
      | 93 :: rest => some (.array [], rest)
      | rest => do
        let (items, rest) ← items? fuel rest
        return (.array items, rest)
    | 123 :: rest =>
      match skipBlanks rest with
      | 125 :: rest => some (.object [], rest)
      | rest => do
        let (fields, rest) ← fields? fuel rest
        return (.object fields, rest)
    | rest => number? false rest

/-- The items of an array up to its end. -/
def items? : Nat → List UInt8 → Option (List JsonValue × List UInt8)
  | 0, _ => none
  | fuel + 1, bytes => do
    let (item, rest) ← value? fuel bytes
    match skipBlanks rest with
    | 93 :: rest => return ([item], rest)
    | 44 :: rest =>
      let (items, rest) ← items? fuel rest
      return (item :: items, rest)
    | _ => none

/-- The fields of an object up to its end. -/
def fields? : Nat → List UInt8 → Option (List (List JsonChar × JsonValue) × List UInt8)
  | 0, _ => none
  | fuel + 1, bytes => do
    match skipBlanks bytes with
    | 34 :: rest =>
      let (name, rest) ← scanString [] rest
      match skipBlanks rest with
      | 58 :: rest =>
        let (field, rest) ← value? fuel rest
        match skipBlanks rest with
        | 125 :: rest => return ([(name, field)], rest)
        | 44 :: rest =>
          let (fields, rest) ← fields? fuel rest
          return ((name, field) :: fields, rest)
        | _ => none
      | _ => none
    | _ => none

end

/-- A document: one value with nothing but blanks around it. -/
def parse? (bytes : List UInt8) : Option JsonValue := do
  let (value, rest) ← value? (bytes.length + 1) bytes
  if (skipBlanks rest).isEmpty then return value else none

/-- The text of a string value. -/
def text? : JsonValue → Option String
  | .string chars => unescape? chars
  | _ => none

/-- A whole number from `low` up to, and without, `high`. A zero carries no sign. -/
def int? (low high : Int) : JsonValue → Option Int
  | .number ⟨negative, digits, true⟩ =>
    if negative ∧ digits = 0 then none
    else
      let value : Int := if negative then -(digits : Int) else digits
      if low ≤ value ∧ value < high then some value else none
  | _ => none

/-- A number of 32 bits. -/
def word32? (value : JsonValue) : Option UInt32 :=
  (value.int? 0 4294967296).map fun n => UInt32.ofNat n.toNat

/-- A number of 64 bits. -/
def word64? (value : JsonValue) : Option UInt64 :=
  (value.int? 0 18446744073709551616).map fun n => UInt64.ofNat n.toNat

/-- A signed number of 32 bits. -/
def int32? (value : JsonValue) : Option Int32 :=
  (value.int? (-2147483648) 2147483648).map Int32.ofInt

end JsonValue

end InstantReplay
