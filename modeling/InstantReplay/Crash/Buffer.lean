import InstantReplay.Crash

/-!
# Numbers in buffers

The numbers of a crash report are put into buffers on the stack. An access outside of a buffer would
be a fault inside the handler of a fault, so every access says whether it is inside: `Buffer.store?`
gives nothing outside of the buffer, and so does all that makes such a store.
-/

namespace InstantReplay.Crash

/-- A buffer of so many bytes. -/
abbrev Buffer (size : Nat) := Vector UInt8 size

namespace Buffer

variable {size : Nat}

/-- Stores a byte at an index inside of the buffer. -/
def store? (buffer : Buffer size) (index : Nat) (byte : UInt8) : Option (Buffer size) :=
  if inside : index < size then some (buffer.set index byte inside) else none

/-- The character of a byte. -/
def charOf (byte : UInt8) : Char := Char.ofNat byte.toNat

/-- The bytes from an index on, as text. -/
def textFrom (buffer : Buffer size) (start : Nat) : List Char :=
  (buffer.toList.drop start).map charOf

/-- The hexadecimal digits. -/
def digits : Buffer 16 := #v[48, 49, 50, 51, 52, 53, 54, 55, 56, 57, 97, 98, 99, 100, 101, 102]

/-- Stores one of the sixteen digits of a number, behind the two characters in front of them. -/
def storeHexDigit? (value : UInt64) (buffer : Buffer size) (index : Nat) :
    Option (Buffer size) := do
  let digit := (value >>> UInt64.ofNat ((15 - index) * 4)) &&& 0xF
  buffer.store? (2 + index) (← digits[digit.toNat]?)

/-- Stores `0x` and the digits of a number: the text in the buffer. -/
def formatHex? (value : UInt64) (buffer : Buffer 18) : Option (List Char) := do
  let buffer ← buffer.store? 0 48
  let buffer ← buffer.store? 1 120
  let buffer ← (List.range 16).foldlM (storeHexDigit? value) buffer
  return buffer.textFrom 0

/-- Stores the decimal digits of a number in front of an index, last digit first: where they begin.
An index that is moved in front of the buffer gives nothing. -/
def storeDecimal? (buffer : Buffer size) : Nat → UInt64 → Option (Nat × Buffer size)
  | 0, _ => none
  | start + 1, value => do
    let buffer ← buffer.store? start (48 + (value % 10).toUInt8)
    if value / 10 = 0 then return (start, buffer) else buffer.storeDecimal? start (value / 10)

/-- Stores a number in decimal at the end of the buffer: the text there. -/
def formatDecimal? (value : UInt64) (buffer : Buffer decimalRoom) : Option (List Char) := do
  let (start, buffer) ← buffer.storeDecimal? decimalRoom value
  return buffer.textFrom start

end Buffer

end InstantReplay.Crash
