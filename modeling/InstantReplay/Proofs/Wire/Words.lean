import InstantReplay.Wire.Words
import Mathlib.Data.Nat.ModEq

/-!
# Words and their bytes

A number below `256 ^ count` can be read back from its lowest `count` bytes (`Words.ofBytes_bytes`),
and bytes can be written again from the number that they stand for (`Words.bytes_ofBytes`).
-/

namespace InstantReplay.Words

@[simp] theorem length_bytes (count n : Nat) : (bytes count n).length = count := by
  induction count generalizing n with
  | zero => rfl
  | succ count ih => rw [bytes, List.length_cons, ih]

@[simp] theorem length_bytes32 (word : UInt32) : (bytes32 word).length = 4 := length_bytes 4 _

@[simp] theorem length_bytes64 (word : UInt64) : (bytes64 word).length = 8 := length_bytes 8 _

theorem ofBytes_bytes (count n : Nat) : ofBytes (bytes count n) = n % 256 ^ count := by
  induction count generalizing n with
  | zero => simp [bytes, ofBytes, Nat.mod_one]
  | succ count ih =>
    have hbyte : (UInt8.ofNat n).toNat = n % 256 := UInt8.toNat_ofNat'
    rw [bytes, ofBytes, hbyte, ih, pow_succ', Nat.mod_mul]

theorem ofBytes_lt (bytes : List UInt8) : ofBytes bytes < 256 ^ bytes.length := by
  induction bytes with
  | nil => simp [ofBytes]
  | cons byte bytes ih =>
    have hbyte := byte.toNat_lt
    rw [ofBytes, List.length_cons, pow_succ']
    omega

theorem bytes_ofBytes (word : List UInt8) : bytes word.length (ofBytes word) = word := by
  induction word with
  | nil => rfl
  | cons byte word ih =>
    have hbyte := byte.toNat_lt
    have hfirst : UInt8.ofNat (byte.toNat + 256 * ofBytes word) = byte := by
      rw [← UInt8.toNat_inj, UInt8.toNat_ofNat']
      omega
    have hrest : (byte.toNat + 256 * ofBytes word) / 256 = ofBytes word := by omega
    rw [List.length_cons, ofBytes, bytes, hfirst, hrest, ih]

@[simp] theorem ofBytes32_bytes32 (word : UInt32) : ofBytes32 (bytes32 word) = word := by
  have hword := word.toNat_lt
  rw [ofBytes32, bytes32, ofBytes_bytes, Nat.mod_eq_of_lt (by omega), UInt32.ofNat_toNat]

@[simp] theorem ofBytes64_bytes64 (word : UInt64) : ofBytes64 (bytes64 word) = word := by
  have hword := word.toNat_lt
  rw [ofBytes64, bytes64, ofBytes_bytes, Nat.mod_eq_of_lt (by omega), UInt64.ofNat_toNat]

theorem bytes32_ofBytes32 {word : List UInt8} (h : word.length = 4) :
    bytes32 (ofBytes32 word) = word := by
  have hlt := ofBytes_lt word
  rw [h] at hlt
  have hnat : (UInt32.ofNat (ofBytes word)).toNat = ofBytes word := UInt32.toNat_ofNat_of_lt hlt
  rw [bytes32, ofBytes32, hnat, ← h, bytes_ofBytes]

end InstantReplay.Words
