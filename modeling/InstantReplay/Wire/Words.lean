/-!
# Words as bytes

Numbers on the capture channel are written with their lowest byte first.
-/

namespace InstantReplay.Words

/-- The lowest `count` bytes of `n`, lowest first. -/
def bytes : Nat → Nat → List UInt8
  | 0, _ => []
  | count + 1, n => UInt8.ofNat n :: bytes count (n / 256)

/-- The number whose bytes are given, lowest first. -/
def ofBytes : List UInt8 → Nat
  | [] => 0
  | byte :: rest => byte.toNat + 256 * ofBytes rest

/-- The four bytes of a word. -/
def bytes32 (word : UInt32) : List UInt8 := bytes 4 word.toNat

/-- The eight bytes of a word. -/
def bytes64 (word : UInt64) : List UInt8 := bytes 8 word.toNat

/-- The word with the given four bytes. -/
def ofBytes32 (bytes : List UInt8) : UInt32 := UInt32.ofNat (ofBytes bytes)

/-- The word with the given eight bytes. -/
def ofBytes64 (bytes : List UInt8) : UInt64 := UInt64.ofNat (ofBytes bytes)

end InstantReplay.Words
