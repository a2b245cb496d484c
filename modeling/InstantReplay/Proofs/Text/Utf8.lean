import Mathlib.Data.List.Basic

/-!
# Texts and their bytes

Bytes are read as a text exactly if they are the bytes of that text
(`Utf8.fromUTF8?_eq_some_iff`). The bytes of a decimal numeral are its digits, the last one behind
the others (`Utf8.repr_of_lt`, `Utf8.repr_of_le`).
-/

namespace InstantReplay.Utf8

theorem toList_loop (bytes : ByteArray) (place : Nat) (before : List UInt8) :
    ByteArray.toList.loop bytes place before = before.reverse ++ bytes.data.toList.drop place := by
  induction place, before using ByteArray.toList.loop.induct bytes with
  | case1 place before hplace ih =>
    have hlength : place < bytes.data.toList.length := by simpa using hplace
    have hbyte : bytes.get! place = bytes.data.toList[place] := by
      rw [Array.getElem_toList]
      exact getElem!_pos bytes.data place (by simpa using hplace)
    rw [ByteArray.toList.loop, if_pos hplace, ih, List.drop_eq_getElem_cons hlength, hbyte]
    simp
  | case2 place before hplace =>
    have hlength : bytes.data.toList.length ≤ place := by simpa using hplace
    rw [ByteArray.toList.loop, if_neg hplace, List.drop_eq_nil_of_le hlength, List.append_nil]

theorem toList_eq (bytes : ByteArray) : bytes.toList = bytes.data.toList := by
  rw [ByteArray.toList, toList_loop, List.reverse_nil, List.nil_append, List.drop_zero]

theorem toUTF8_append (front rest : String) :
    (front ++ rest).toUTF8.toList = front.toUTF8.toList ++ rest.toUTF8.toList := by
  simp only [String.toUTF8, String.toByteArray_append, toList_eq, ByteArray.data_append,
    Array.toList_append]

theorem toUTF8_ofList (chars : List Char) :
    (String.ofList chars).toUTF8.toList = chars.flatMap String.utf8EncodeChar := by
  rw [String.toUTF8, String.toByteArray_ofList, toList_eq, List.utf8Encode,
    List.toList_data_toByteArray]

theorem length_toUTF8 (text : String) : text.toUTF8.toList.length = text.utf8ByteSize := by
  rw [toList_eq]
  rfl

theorem mk_toUTF8 (text : String) :
    ByteArray.mk text.toUTF8.toList.toArray = text.toByteArray := by
  rw [toList_eq]
  rfl

/-- **Bytes are read as a text exactly if they are its bytes.** -/
theorem fromUTF8?_eq_some_iff {content : List UInt8} {text : String} :
    String.fromUTF8? ⟨content.toArray⟩ = some text ↔ content = text.toUTF8.toList := by
  rw [String.fromUTF8?]
  constructor
  · intro h
    split at h
    · rw [Option.some.injEq] at h
      rw [← h, toList_eq]
      rfl
    · cases h
  · rintro rfl
    have hvalid : (ByteArray.mk text.toUTF8.toList.toArray).IsValidUTF8 := by
      rw [mk_toUTF8]
      exact text.isValidUTF8
    rw [dif_pos hvalid, Option.some.injEq, ← String.toByteArray_inj]
    exact mk_toUTF8 text

/-! ## Numerals -/

theorem utf8EncodeChar_digitChar {digit : Nat} (h : digit < 10) :
    String.utf8EncodeChar digit.digitChar = [UInt8.ofNat (48 + digit)] :=
  (by decide : ∀ digit : Fin 10,
    String.utf8EncodeChar digit.val.digitChar = [UInt8.ofNat (48 + digit.val)]) ⟨digit, h⟩

variable {n : Nat}

theorem repr_of_lt (h : n < 10) : (Nat.repr n).toUTF8.toList = [UInt8.ofNat (48 + n)] := by
  rw [Nat.repr, Nat.toDigits_eq_if (by decide), if_pos h, toUTF8_ofList, List.flatMap_singleton,
    utf8EncodeChar_digitChar h]

theorem repr_of_le (h : 10 ≤ n) : (Nat.repr n).toUTF8.toList =
    (Nat.repr (n / 10)).toUTF8.toList ++ [UInt8.ofNat (48 + n % 10)] := by
  rw [Nat.repr, Nat.toDigits_of_base_le (by decide) h, toUTF8_ofList, List.flatMap_append,
    List.flatMap_singleton, utf8EncodeChar_digitChar (Nat.mod_lt n (by decide)), Nat.repr,
    toUTF8_ofList]

end InstantReplay.Utf8
