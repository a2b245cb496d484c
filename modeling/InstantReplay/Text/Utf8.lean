/-!
# Bytes that are no text

Which byte of a sequence is the first that belongs to no character, and how many bytes there are
to blame.
-/

namespace InstantReplay

/-- Where bytes stop being a text. -/
inductive Utf8Fault
  /-- So many bytes from an index on are no beginning of a character. -/
  | invalid (count index : Nat)
  /-- The bytes end inside a character that begins at an index. -/
  | incomplete (index : Nat)
  deriving DecidableEq

namespace Utf8Fault

/-- The fault as it is shown. -/
def text : Utf8Fault → String
  | .invalid count index => s!"invalid utf-8 sequence of {count} bytes from index {index}"
  | .incomplete index => s!"incomplete utf-8 byte sequence from index {index}"

/-- The bytes that may follow a first byte, as ranges; nothing if none begins a character. -/
def followers? (first : UInt8) : Option (List (UInt8 × UInt8)) :=
  let rest := (0x80, 0xBF)
  if first < 0x80 then some []
  else if first < 0xC2 then none
  else if first < 0xE0 then some [rest]
  else if first = 0xE0 then some [(0xA0, 0xBF), rest]
  else if first = 0xED then some [(0x80, 0x9F), rest]
  else if first < 0xF0 then some [rest, rest]
  else if first = 0xF0 then some [(0x90, 0xBF), rest, rest]
  else if first < 0xF4 then some [rest, rest, rest]
  else if first = 0xF4 then some [(0x80, 0x8F), rest, rest]
  else none

/-- The fault among the bytes of one character, of which `count` have been read. -/
def inCharacter (index count : Nat) : List (UInt8 × UInt8) → List UInt8 → Option Utf8Fault
  | [], _ => none
  | _ :: _, [] => some (.incomplete index)
  | (low, high) :: ranges, byte :: rest =>
    if low ≤ byte ∧ byte ≤ high then inCharacter index (count + 1) ranges rest
    else some (.invalid count index)

/-- The first fault of bytes; `skip` of them belong to a character that was found good. -/
def find? (index skip : Nat) : List UInt8 → Option Utf8Fault
  | [] => none
  | byte :: rest =>
    match skip with
    | skip + 1 => find? (index + 1) skip rest
    | 0 =>
      match followers? byte with
      | none => some (.invalid 1 index)
      | some ranges =>
        match inCharacter index 1 ranges rest with
        | some fault => some fault
        | none => find? (index + 1) ranges.length rest

end Utf8Fault

end InstantReplay
