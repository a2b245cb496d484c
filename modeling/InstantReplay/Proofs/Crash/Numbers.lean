import InstantReplay.Crash.Buffer
import InstantReplay.Proofs.Text.Numeral
import Mathlib.Algebra.Ring.Nat

/-!
# The numbers of a crash report

A crash report is written by the handler of a fault, so its numbers must not fault again. Twenty
bytes are enough for the digits of any number of 64 bits, and the sixteen digits in hexadecimal and
the two characters in front of them fill eighteen. What is in the buffers is what a report shows, and
a reader of either text gets the number back (`Crash.formats_exactly`).
-/

namespace InstantReplay

namespace Numeral

variable {digits : List Char} {n value : Nat}

/-- The decimal numeral of a number, without leading zeros. -/
structure IsPlain (digits : List Char) (n : Nat) : Prop where
  ne_nil : digits ≠ []
  isDigit : ∀ c ∈ digits, c.isDigit
  value_eq : Nat.ofDigitChars 10 digits 0 = n
  /-- Only the numeral of zero begins with a zero. -/
  leading : digits.head? = some '0' → n = 0 ∧ digits = ['0']

theorem head?_toDigits_ne_zero (hn : n ≠ 0) : (Nat.toDigits 10 n).head? ≠ some '0' := by
  induction n using Nat.strongRecOn with
  | ind n ih =>
    rw [Nat.toDigits_eq_if (by decide)]
    split
    · simpa using hn
    · rename_i hge
      rw [List.head?_append_of_ne_nil _ Nat.toDigits_ne_nil]
      exact ih (n / 10) (by omega) (by omega)

theorem isPlain_toDigits (n : Nat) : IsPlain (Nat.toDigits 10 n) n where
  ne_nil := Nat.toDigits_ne_nil
  isDigit _ hc := Nat.isDigit_of_mem_toDigits (by decide) (by decide) hc
  value_eq := Nat.ofDigitChars_toDigits (by decide) (by decide)
  leading hhead := by
    by_cases hn : n = 0
    · subst hn
      exact ⟨rfl, Nat.toDigits_zero 10⟩
    · exact absurd hhead (head?_toDigits_ne_zero hn)

/-- A plain numeral is read as its number. -/
theorem IsPlain.decimal?_eq (h : IsPlain digits n) : decimal? digits = some n :=
  decimal?_eq_some_iff.2 ⟨digits, Or.inl rfl, h.ne_nil, h.isDigit, h.value_eq⟩

/-! ## Hexadecimal numerals -/

/-- The value of a hexadecimal digit in lower case. -/
def hexDigit? (c : Char) : Option Nat :=
  if '0' ≤ c ∧ c ≤ '9' then some (c.toNat - 48)
  else if 'a' ≤ c ∧ c ≤ 'f' then some (c.toNat - 87)
  else none

/-- The value of a sequence of hexadecimal digits read after `value`. -/
def hexFrom (value : Nat) : List Char → Option Nat
  | [] => some value
  | c :: rest => do hexFrom (value * 16 + (← hexDigit? c)) rest

theorem hexDigit?_hexDigit {digit : Nat} (h : digit < 16) :
    hexDigit? (hexDigit digit) = some digit :=
  (by decide : ∀ digit : Fin 16, hexDigit? (hexDigit digit.val) = some digit.val) ⟨digit, h⟩

theorem hexFrom_concat (value : Nat) (digits : List Char) (c : Char) :
    hexFrom value (digits ++ [c]) =
      (hexFrom value digits).bind fun sofar => (hexDigit? c).map (sofar * 16 + ·) := by
  induction digits generalizing value with
  | nil => cases hc : hexDigit? c <;> simp [hexFrom, hc]
  | cons first rest ih => cases hfirst : hexDigit? first <;> simp [hexFrom, hfirst, ih]

theorem length_hexDigits (count n : Nat) : (hexDigits count n).length = count := by
  induction count generalizing n with
  | zero => rfl
  | succ count ih => rw [hexDigits, List.length_append, ih, List.length_singleton]

/-- The lowest digits of a number are read as its remainder. -/
theorem hexFrom_hexDigits (count n : Nat) :
    hexFrom 0 (hexDigits count n) = some (n % 16 ^ count) := by
  induction count generalizing n with
  | zero => simp [hexDigits, hexFrom, Nat.mod_one]
  | succ count ih =>
    rw [hexDigits, hexFrom_concat, ih, hexDigit?_hexDigit (Nat.mod_lt _ (by decide))]
    simp only [Option.bind_some, Option.map_some, Option.some.injEq]
    rw [Nat.pow_succ', Nat.mod_mul, Nat.mul_comm 16, Nat.add_comm]

/-- The digit at each place, counted from the lowest. -/
theorem hexDigits_eq_map (count n : Nat) :
    hexDigits count n = (List.range count).map fun index =>
      hexDigit (n / 16 ^ (count - 1 - index) % 16) := by
  induction count generalizing n with
  | zero => rfl
  | succ count ih =>
    rw [hexDigits, ih, List.range_succ, List.map_append, List.map_singleton]
    congr 1
    · refine List.map_congr_left fun index hindex => ?_
      have hlt := List.mem_range.1 hindex
      rw [Nat.div_div_eq_div_mul, ← Nat.pow_succ',
        show (count - 1 - index).succ = count + 1 - 1 - index by omega]
    · simp

end Numeral

namespace Crash

open Numeral

/-! ## Decimal digits -/

theorem char_digit {value : UInt64} :
    Char.ofNat (48 + (value % 10).toNat) = (value.toNat % 10).digitChar := by
  have hall : ∀ digit : Fin 10, Char.ofNat (48 + digit.val) = digit.val.digitChar := by decide
  rw [UInt64.toNat_mod]
  exact hall ⟨value.toNat % 10, Nat.mod_lt _ (by decide)⟩

theorem toNat_digit (value : UInt64) :
    ((48 : UInt8) + (value % 10).toUInt8).toNat = 48 + (value % 10).toNat := by
  have hlt : (value % 10).toNat < 10 := by
    rw [UInt64.toNat_mod]
    exact Nat.mod_lt _ (by decide)
  rw [UInt8.toNat_add, UInt64.toNat_toUInt8]
  show (48 + (value % 10).toNat % 256) % 256 = _
  omega

/-- A number is its last digit if no other is in front of it. -/
theorem toDigits_of_div_eq_zero {value : UInt64} (h : value / 10 = 0) :
    Nat.toDigits 10 value.toNat = [(value.toNat % 10).digitChar] := by
  have hzero := congrArg UInt64.toNat h
  rw [UInt64.toNat_div] at hzero
  have hlt : value.toNat < 10 := by
    change value.toNat / 10 = 0 at hzero
    omega
  rw [Nat.toDigits_of_lt_base hlt, Nat.mod_eq_of_lt hlt]

theorem toDigits_of_div_ne_zero {value : UInt64} (h : value / 10 ≠ 0) :
    Nat.toDigits 10 value.toNat =
      Nat.toDigits 10 (value / 10).toNat ++ [(value.toNat % 10).digitChar] := by
  have hle : 10 ≤ value.toNat := by
    by_contra hlt
    refine h (UInt64.toNat_inj.1 ?_)
    rw [UInt64.toNat_div]
    show value.toNat / 10 = 0
    omega
  rw [Nat.toDigits_of_base_le (by decide) hle, UInt64.toNat_div]
  rfl

/-- The digits of any number of 64 bits find room. -/
theorem length_toDigits_le (value : UInt64) :
    (Nat.toDigits 10 value.toNat).length ≤ decimalRoom := by
  rw [Nat.length_toDigits_le_iff (by decide) (by decide)]
  exact Nat.lt_trans value.toNat_lt (by decide)

theorem putDigits_eq {room : Nat} {value : UInt64}
    (h : (Nat.toDigits 10 value.toNat).length ≤ room) (digits : List Char) :
    putDigits room value digits = some (Nat.toDigits 10 value.toNat ++ digits) := by
  induction room generalizing value digits with
  | zero => exact absurd (List.length_eq_zero_iff.1 (Nat.le_zero.1 h)) Nat.toDigits_ne_nil
  | succ room ih =>
    rw [putDigits, char_digit]
    by_cases hlast : value / 10 = 0
    · rw [if_pos hlast, toDigits_of_div_eq_zero hlast, List.singleton_append]
    · rw [toDigits_of_div_ne_zero hlast, List.length_append, List.length_singleton] at h
      rw [if_neg hlast, ih (Nat.le_of_succ_le_succ h), toDigits_of_div_ne_zero hlast,
        List.append_assoc, List.singleton_append]

theorem decimalText_eq (value : UInt64) :
    decimalText value = some (Nat.toDigits 10 value.toNat) := by
  rw [decimalText, putDigits_eq (length_toDigits_le value), List.append_nil]

namespace Buffer

variable {size : Nat} {buffer : Buffer size} {start index : Nat}

theorem store?_of_lt (buffer : Buffer size) (h : index < size) (byte : UInt8) :
    buffer.store? index byte = some (buffer.set index byte h) :=
  dif_pos h

theorem textFrom_set (buffer : Buffer size) (h : start < size) (byte : UInt8) :
    textFrom (buffer.set start byte h) start =
      charOf byte :: buffer.textFrom (start + 1) := by
  have hlength : start < (buffer.toList.set start byte).length := by simpa using h
  rw [textFrom, Vector.toList_set, List.drop_eq_getElem_cons hlength, List.getElem_set_self,
    List.drop_set_of_lt (Nat.lt_succ_self start), List.map_cons, textFrom]

theorem exists_storeDecimal {value : UInt64}
    (h : (Nat.toDigits 10 value.toNat).length ≤ start) (hstart : start ≤ size)
    (buffer : Buffer size) :
    ∃ first stored, buffer.storeDecimal? start value = some (first, stored) ∧
      stored.textFrom first = Nat.toDigits 10 value.toNat ++ buffer.textFrom start := by
  induction start generalizing value buffer with
  | zero => exact absurd (List.length_eq_zero_iff.1 (Nat.le_zero.1 h)) Nat.toDigits_ne_nil
  | succ start ih =>
    have hstore := textFrom_set buffer hstart (48 + (value % 10).toUInt8)
    rw [charOf, toNat_digit, char_digit] at hstore
    rw [storeDecimal?, store?_of_lt buffer hstart]
    by_cases hlast : value / 10 = 0
    · refine ⟨start, _, by simp only [Option.bind_eq_bind, Option.bind_some, if_pos hlast]; rfl, ?_⟩
      rw [hstore, toDigits_of_div_eq_zero hlast, List.singleton_append]
    · rw [toDigits_of_div_ne_zero hlast, List.length_append, List.length_singleton] at h
      obtain ⟨first, stored, hrest, htext⟩ := ih (Nat.le_of_succ_le_succ h)
        (Nat.le_of_succ_le hstart) (buffer.set start (48 + (value % 10).toUInt8) hstart)
      refine ⟨first, stored, ?_, ?_⟩
      · simp only [Option.bind_eq_bind, Option.bind_some, if_neg hlast, hrest]
      · rw [htext, hstore, toDigits_of_div_ne_zero hlast, List.append_assoc, List.singleton_append]

theorem textFrom_size (buffer : Buffer size) : buffer.textFrom size = [] := by
  rw [textFrom, List.drop_of_length_le (by simp), List.map_nil]

/-- **The decimal digits never run over the start of the buffer.** -/
theorem formatDecimal?_eq (value : UInt64) (buffer : Buffer decimalRoom) :
    formatDecimal? value buffer = some (Nat.toDigits 10 value.toNat) := by
  obtain ⟨first, stored, hstore, htext⟩ :=
    exists_storeDecimal (length_toDigits_le value) (Nat.le_refl _) buffer
  rw [formatDecimal?, hstore]
  simp only [Option.bind_eq_bind, Option.bind_some, htext, textFrom_size, List.append_nil]
  rfl

/-! ## Hexadecimal digits -/

theorem toNat_nibble (value : UInt64) {index : Nat} (h : index < 16) :
    ((value >>> UInt64.ofNat ((15 - index) * 4)) &&& 0xF).toNat =
      value.toNat / 16 ^ (15 - index) % 16 := by
  have hshift : (UInt64.ofNat ((15 - index) * 4)).toNat % 64 = 4 * (15 - index) := by
    rw [UInt64.toNat_ofNat_of_lt' (by show _ < 2 ^ 64; omega)]
    omega
  rw [UInt64.toNat_and, UInt64.toNat_shiftRight, hshift, Nat.shiftRight_eq_div_pow, Nat.pow_mul]
  exact Nat.and_two_pow_sub_one_eq_mod _ 4

/-- The digit of a number at a place of its sixteen, counted from the highest. -/
def hexDigitAt (value : UInt64) (index : Nat) : Char :=
  hexDigit (value.toNat / 16 ^ (15 - index) % 16)

theorem charOf_digits : ∀ digit : Fin 16,
    charOf (digits.get digit) = hexDigit digit.val := by
  decide

theorem storeHexDigit?_eq (value : UInt64) (buffer : Buffer size) (h : index < 16)
    (hinside : 2 + index < size) : ∃ byte, charOf byte = hexDigitAt value index ∧
      storeHexDigit? value buffer index = some (buffer.set (2 + index) byte hinside) := by
  have hlt : value.toNat / 16 ^ (15 - index) % 16 < 16 := Nat.mod_lt _ (by decide)
  refine ⟨digits[value.toNat / 16 ^ (15 - index) % 16], charOf_digits ⟨_, hlt⟩, ?_⟩
  rw [storeHexDigit?]
  simp only [toNat_nibble value h, Vector.getElem?_eq_getElem hlt, Option.bind_eq_bind,
    Option.bind_some, store?_of_lt buffer hinside]

theorem take_set_concat {α : Type} (list : List α) {count : Nat} (h : count < list.length)
    (last : α) : (list.set count last).take (count + 1) = list.take count ++ [last] := by
  rw [List.take_succ_eq_append_getElem (by simpa using h), List.getElem_set_self,
    List.take_set_of_le (Nat.le_refl count)]

/-- Storing digits keeps what is in front of them. -/
theorem exists_storeHexDigits (value : UInt64) (buffer : Buffer 18) {count : Nat} (h : count ≤ 16) :
    ∃ stored, (List.range count).foldlM (storeHexDigit? value) buffer = some stored ∧
      (stored.toList.take (2 + count)).map charOf =
        (buffer.toList.take 2).map charOf ++
          (List.range count).map (hexDigitAt value) := by
  induction count with
  | zero => exact ⟨buffer, rfl, by rw [List.range_zero, List.map_nil, List.append_nil]⟩
  | succ count ih =>
    obtain ⟨stored, hstored, htext⟩ := ih (Nat.le_of_succ_le h)
    obtain ⟨byte, hbyte, hstore⟩ :=
      storeHexDigit?_eq value stored (Nat.lt_of_succ_le h) (by omega : 2 + count < 18)
    refine ⟨stored.set (2 + count) byte (by omega), ?_, ?_⟩
    · rw [List.range_succ, List.foldlM_append, hstored]
      simp only [Option.bind_eq_bind, Option.bind_some, List.foldlM_cons, List.foldlM_nil, hstore]
      rfl
    · rw [Vector.toList_set, ← Nat.add_assoc,
        take_set_concat _ (by rw [Vector.length_toList]; omega), List.map_append, htext,
        List.range_succ, List.map_append, List.map_singleton, List.map_singleton, hbyte,
        List.append_assoc]

/-- **The hexadecimal digits fill the buffer.** -/
theorem formatHex?_eq (value : UInt64) (buffer : Buffer 18) :
    formatHex? value buffer = some ('0' :: 'x' :: Numeral.hexDigits 16 value.toNat) := by
  rw [formatHex?, store?_of_lt buffer (by decide)]
  simp only [Option.bind_eq_bind, Option.bind_some, store?_of_lt _ (by decide : 1 < 18)]
  obtain ⟨stored, hstored, htext⟩ := exists_storeHexDigits value
    ((buffer.set 0 48 (by decide)).set 1 120 (by decide)) (Nat.le_refl 16)
  have hfirst : (((buffer.set 0 48 (by decide)).set 1 120 (by decide)).toList.take 2).map
      charOf = ['0', 'x'] := by
    rw [Vector.toList_set, take_set_concat _ (by simp), Vector.toList_set,
      take_set_concat _ (by simp)]
    rfl
  rw [hstored, Option.bind_some, Numeral.hexDigits_eq_map]
  rw [List.take_of_length_le (by simp), hfirst] at htext
  rw [textFrom, List.drop_zero, htext]
  rfl

end Buffer

/-- The sixteen digits are those of the number, from the highest on. -/
theorem hexText_eq (value : UInt64) :
    hexText value = '0' :: 'x' :: Numeral.hexDigits 16 value.toNat := by
  rw [hexText, Numeral.hexDigits_eq_map]
  congr 2
  refine List.map_congr_left fun index hindex => ?_
  have hdigit : ∀ digit : Fin 16, hexDigits.getD digit.val '0' = hexDigit digit.val := by decide
  dsimp only
  rw [Buffer.toNat_nibble value (List.mem_range.1 hindex)]
  exact hdigit ⟨_, Nat.mod_lt _ (by decide)⟩

theorem isHexDigit_of_mem {count n : Nat} {c : Char} (h : c ∈ Numeral.hexDigits count n) :
    c ∈ hexDigits := by
  have hall : ∀ digit : Fin 16, hexDigit digit.val ∈ hexDigits := by decide
  rw [Numeral.hexDigits_eq_map] at h
  obtain ⟨index, -, rfl⟩ := List.mem_map.1 h
  exact hall ⟨_, Nat.mod_lt _ (by decide)⟩

/-- **The numbers of a crash report are exact, and no access to their buffers is outside.** For
every number and whatever the buffers held before: the decimal digits find room and are the numeral
without leading zeros, and the hexadecimal ones are exactly sixteen. These are the texts that a
report shows, and reading them gives the number. -/
theorem formats_exactly (value : UInt64) (decimal : Buffer decimalRoom) (hex : Buffer 18) :
    (∃ digits, decimal.formatDecimal? value = some digits ∧ decimalText value = some digits ∧
      Numeral.IsPlain digits value.toNat ∧ Numeral.decimal? digits = some value.toNat) ∧
    ∃ digits, hex.formatHex? value = some ('0' :: 'x' :: digits) ∧
      hexText value = '0' :: 'x' :: digits ∧ digits.length = 16 ∧ (∀ c ∈ digits, c ∈ hexDigits) ∧
      Numeral.hexFrom 0 digits = some value.toNat := by
  have hplain := Numeral.isPlain_toDigits value.toNat
  have hlt : value.toNat < 16 ^ 16 := by have := value.toNat_lt; omega
  refine ⟨⟨_, Buffer.formatDecimal?_eq value decimal, decimalText_eq value, hplain,
    hplain.decimal?_eq⟩, _, Buffer.formatHex?_eq value hex, hexText_eq value,
    Numeral.length_hexDigits 16 _, fun c hc => isHexDigit_of_mem hc, ?_⟩
  rw [Numeral.hexFrom_hexDigits, Nat.mod_eq_of_lt hlt]

example : decimalText 18446744073709551615 = some "18446744073709551615".toList := by decide

end Crash

end InstantReplay
