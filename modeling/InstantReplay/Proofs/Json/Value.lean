import InstantReplay.Json.Text
import InstantReplay.Proofs.Text.Utf8
import Mathlib.Data.List.Basic
import Mathlib.Tactic.IntervalCases

/-!
# Documents that are read back

A text between quotes is read as the characters that were written (`JsonValue.scanString_write`),
and these stand for the text again (`JsonValue.unescape?_charsOf`). A numeral is read as its number
(`JsonValue.reads_nat`, `JsonValue.reads_int`), and an object as the list of its fields
(`JsonValue.parse?_object`).
-/

namespace InstantReplay.JsonValue

open JsonText

/-! ## Strings -/

/-- What a byte is read as when it was written between quotes. -/
def charOf (byte : UInt8) : JsonChar :=
  if byte < 32 ∧ byte ∉ [8, 9, 10, 12, 13] then .unit byte.toNat else .byte byte

/-- What a text is read as when it was written between quotes. -/
def charsOf (text : String) : List JsonChar := text.toUTF8.toList.map charOf

/-- The digits of a control character. -/
theorem hex4?_control {code : Nat} (h : code < 32) :
    hex4? 48 48 (UInt8.ofNat (Numeral.hexDigit (code / 16)).toNat)
      (UInt8.ofNat (Numeral.hexDigit (code % 16)).toNat) = some code :=
  (by decide +kernel : ∀ code : Fin 32,
    hex4? 48 48 (UInt8.ofNat (Numeral.hexDigit (code.val / 16)).toNat)
      (UInt8.ofNat (Numeral.hexDigit (code.val % 16)).toNat) = some code.val) ⟨code, h⟩

theorem charOf_control {byte : UInt8} (h : byte.toNat < 32) (h8 : byte.toNat ≠ 8)
    (h9 : byte.toNat ≠ 9) (h10 : byte.toNat ≠ 10) (h12 : byte.toNat ≠ 12)
    (h13 : byte.toNat ≠ 13) : charOf byte = .unit byte.toNat := by
  refine if_pos ⟨UInt8.lt_iff_toNat_lt.2 h, ?_⟩
  simp only [List.mem_cons, List.not_mem_nil, or_false, not_or, ← UInt8.toNat_inj]
  exact ⟨h8, h9, h10, h12, h13⟩

theorem scanString_escapeByte (before : List JsonChar) (byte : UInt8) (rest : List UInt8) :
    scanString before (escapeByte byte ++ rest) = scanString (charOf byte :: before) rest := by
  rw [escapeByte]
  split
  iterate 7
    rename_i hcode
    have hbyte := congrArg UInt8.ofNat hcode
    rw [UInt8.ofNat_toNat] at hbyte
    subst hbyte
    rfl
  rename_i hquote hslash h8 h12 h10 h13 h9
  split
  · rename_i hcontrol
    rw [charOf_control hcontrol h8 h9 h10 h12 h13]
    simp only [List.cons_append, List.nil_append, scanString, hex4?_control hcontrol]
  · rename_i hplain
    have hchar : charOf byte = .byte byte :=
      if_neg fun h => hplain (UInt8.lt_iff_toNat_lt.1 h.1)
    have hnot : (byte < 32 || byte == 92) = false := by
      rw [Bool.or_eq_false_iff, decide_eq_false_iff_not, beq_eq_false_iff_ne, Ne,
        ← UInt8.toNat_inj, UInt8.lt_iff_toNat_lt]
      exact ⟨hplain, hslash⟩
    rw [List.singleton_append, scanString, hnot, hchar]
    · rfl
    · rintro rfl
      exact hquote rfl
    · rintro a b c d behind rfl
      exact absurd rfl hslash
    · rintro letter behind rfl
      exact absurd rfl hslash

/-- **A string is read as it was written**, up to its closing quote. -/
theorem scanString_flatMap (before : List JsonChar) (bytes rest : List UInt8) :
    scanString before (bytes.flatMap escapeByte ++ 34 :: rest) =
      some (before.reverse ++ bytes.map charOf, rest) := by
  induction bytes generalizing before with
  | nil => simp [scanString]
  | cons byte bytes ih =>
    rw [List.flatMap_cons, List.append_assoc, scanString_escapeByte, ih, List.reverse_cons,
      List.append_assoc, List.singleton_append, List.map_cons]

theorem scanString_write (text : String) (rest : List UInt8) :
    scanString [] (text.toUTF8.toList.flatMap escapeByte ++ 34 :: rest) =
      some (charsOf text, rest) :=
  scanString_flatMap [] text.toUTF8.toList rest

theorem length_escapeByte_pos (byte : UInt8) : 0 < (escapeByte byte).length := by
  rw [escapeByte]
  split
  any_goals decide
  split <;> simp

theorem length_le_flatMap_escapeByte (bytes : List UInt8) :
    bytes.length ≤ (bytes.flatMap escapeByte).length := by
  induction bytes with
  | nil => exact Nat.zero_le _
  | cons byte bytes ih =>
    have hbyte := length_escapeByte_pos byte
    rw [List.flatMap_cons, List.length_append, List.length_cons]
    omega

/-- Escapes only make a text longer. -/
theorem utf8ByteSize_le_length_write (text : String) :
    text.utf8ByteSize ≤ (write text).length := by
  have hbytes := length_le_flatMap_escapeByte text.toUTF8.toList
  rw [Utf8.length_toUTF8] at hbytes
  simp only [write, List.length_append, List.length_cons]
  omega

theorem unescape_unit {code : Nat} (h : code < 32) (before : List UInt8) (rest : List JsonChar) :
    unescape before (.unit code :: rest) = unescape (UInt8.ofNat code :: before) rest := by
  obtain ⟨hsingle, hbytes⟩ := (by decide +kernel : ∀ code : Fin 32,
    (isLead code.val || isTrail code.val) = false ∧ charBytes code.val = [UInt8.ofNat code.val])
      ⟨code, h⟩
  obtain ⟨hlead, htrail⟩ := Bool.or_eq_false_iff.1 hsingle
  cases rest with
  | nil => simp [unescape, hlead, htrail, hbytes]
  | cons char rest =>
    cases char with
    | byte byte => simp [unescape, hlead, htrail, hbytes]
    | unit low => simp [unescape, hlead, htrail, hbytes]

theorem unescape_charOf (before : List UInt8) (byte : UInt8) (rest : List JsonChar) :
    unescape before (charOf byte :: rest) = unescape (byte :: before) rest := by
  rw [charOf]
  split
  · rename_i hcontrol
    rw [unescape_unit (UInt8.lt_iff_toNat_lt.1 hcontrol.1), UInt8.ofNat_toNat]
  · rw [unescape]

theorem unescape_map (before bytes : List UInt8) :
    unescape before (bytes.map charOf) = some (before.reverse ++ bytes) := by
  induction bytes generalizing before with
  | nil => rw [List.map_nil, unescape, List.append_nil]
  | cons byte bytes ih =>
    rw [List.map_cons, unescape_charOf, ih, List.reverse_cons, List.append_assoc,
      List.singleton_append]

/-- **The text of a string that was written is the text.** -/
theorem unescape?_charsOf (text : String) : unescape? (charsOf text) = some text := by
  have hbytes : unescape [] (charsOf text) = some text.toUTF8.toList := unescape_map [] _
  simp only [unescape?, hbytes, Option.bind_eq_bind, Option.bind_some]
  exact Utf8.fromUTF8?_eq_some_iff.2 rfl

/-! ## Numerals -/

/-- A document goes on with what may follow a field. -/
def Ends (rest : List UInt8) : Prop := ∃ byte behind, rest = byte :: behind ∧ (byte = 44 ∨ byte = 125)

/-- Bytes are read as a value, wherever they stand in an object. -/
def Reads (bytes : List UInt8) (value : JsonValue) : Prop :=
  ∀ fuel rest, Ends rest → value? (fuel + 1) (bytes ++ rest) = some (value, rest)

theorem isDigit_ofNat {digit : Nat} (h : digit < 10) : isDigit (UInt8.ofNat (48 + digit)) :=
  (by decide : ∀ digit : Fin 10, isDigit (UInt8.ofNat (48 + digit.val))) ⟨digit, h⟩

theorem toNat_ofNat {digit : Nat} (h : digit < 10) : (UInt8.ofNat (48 + digit)).toNat = 48 + digit :=
  UInt8.toNat_ofNat_of_lt' (Nat.lt_of_lt_of_le (Nat.add_lt_add_left h 48) (by decide))

variable (n : Nat)

theorem isDigit_of_mem_repr : ∀ byte ∈ (Nat.repr n).toUTF8.toList, isDigit byte := by
  induction n using Nat.strongRecOn with
  | ind n ih =>
    intro byte hbyte
    by_cases hn : n < 10
    · rw [Utf8.repr_of_lt hn, List.mem_singleton] at hbyte
      exact hbyte ▸ isDigit_ofNat hn
    · rw [Utf8.repr_of_le (Nat.not_lt.1 hn), List.mem_append, List.mem_singleton] at hbyte
      rcases hbyte with hfront | hlast
      · exact ih (n / 10) (by omega) byte hfront
      · exact hlast ▸ isDigit_ofNat (Nat.mod_lt n (by decide))

theorem value_repr :
    (Nat.repr n).toUTF8.toList.foldl (fun value byte => value * 10 + (byte.toNat - 48)) 0 = n := by
  induction n using Nat.strongRecOn with
  | ind n ih =>
    by_cases hn : n < 10
    · rw [Utf8.repr_of_lt hn, List.foldl_cons, List.foldl_nil, toNat_ofNat hn]
      omega
    · rw [Utf8.repr_of_le (Nat.not_lt.1 hn), List.foldl_append, ih (n / 10) (by omega),
        List.foldl_cons, List.foldl_nil, toNat_ofNat (Nat.mod_lt n (by decide))]
      omega

theorem repr_ne_nil : (Nat.repr n).toUTF8.toList ≠ [] := by
  by_cases hn : n < 10
  · rw [Utf8.repr_of_lt hn]
    exact List.cons_ne_nil _ _
  · rw [Utf8.repr_of_le (Nat.not_lt.1 hn)]
    exact List.append_ne_nil_of_right_ne_nil _ (List.cons_ne_nil _ _)

variable {n}

theorem head_repr (h : 0 < n) : (Nat.repr n).toUTF8.toList.head? ≠ some 48 := by
  induction n using Nat.strongRecOn with
  | ind n ih =>
    by_cases hn : n < 10
    · rw [Utf8.repr_of_lt hn, List.head?_cons, Ne, Option.some.injEq, ← UInt8.toNat_inj,
        toNat_ofNat hn, show (48 : UInt8).toNat = 48 from rfl]
      omega
    · rw [Utf8.repr_of_le (Nat.not_lt.1 hn), List.head?_append_of_ne_nil _ (repr_ne_nil _)]
      exact ih (n / 10) (by omega) (by omega)

/-- A numeral has no zero in front. -/
theorem head_repr_of_length (h : 1 < (Nat.repr n).toUTF8.toList.length) :
    (Nat.repr n).toUTF8.toList.head? ≠ some 48 := by
  refine head_repr (Nat.pos_of_ne_zero ?_)
  rintro rfl
  rw [Utf8.repr_of_lt (by decide)] at h
  exact absurd h (by decide)

variable {rest : List UInt8}

theorem digits?_append {digits : List UInt8} (hdigits : ∀ byte ∈ digits, isDigit byte)
    (hne : digits ≠ []) (hrest : Ends rest) : digits? (digits ++ rest) = some (digits, rest) := by
  obtain ⟨byte, behind, rfl, hbyte⟩ := hrest
  have hstop : isDigit byte = false := by rcases hbyte with rfl | rfl <;> rfl
  have htake : (digits ++ byte :: behind).takeWhile isDigit = digits := by
    rw [List.takeWhile_append_of_pos hdigits, List.takeWhile_cons_of_neg (by simp [hstop]),
      List.append_nil]
  have hdrop : (digits ++ byte :: behind).dropWhile isDigit = byte :: behind := by
    rw [List.dropWhile_append_of_pos hdigits, List.dropWhile_cons_of_neg (by simp [hstop])]
  rw [digits?, htake, hdrop]
  obtain ⟨first, digits, rfl⟩ := List.exists_cons_of_ne_nil hne
  rfl

theorem number?_repr (negative : Bool) (n : Nat) (hrest : Ends rest) :
    number? negative ((Nat.repr n).toUTF8.toList ++ rest) =
      some (.number ⟨negative, n, true⟩, rest) := by
  have hfound := digits?_append (isDigit_of_mem_repr n) (repr_ne_nil n) hrest
  have hhead : ¬ ((Nat.repr n).toUTF8.toList.length > 1 ∧
      (Nat.repr n).toUTF8.toList.head? = some 48) := fun h => head_repr_of_length h.1 h.2
  obtain ⟨byte, behind, rfl, hbyte⟩ := hrest
  have hfraction : fraction? (byte :: behind) = some (false, byte :: behind) := by
    rcases hbyte with rfl | rfl <;> rfl
  have hexponent : exponent? (byte :: behind) = some (false, byte :: behind) := by
    rcases hbyte with rfl | rfl <;> rfl
  simp only [number?, hfound, Option.bind_eq_bind, Option.bind_some, if_neg hhead, hfraction,
    hexponent, value_repr]
  rfl

theorem value?_digit {digit : Nat} (h : digit < 10) (fuel : Nat) (behind : List UInt8) :
    value? (fuel + 1) (UInt8.ofNat (48 + digit) :: behind) =
      number? false (UInt8.ofNat (48 + digit) :: behind) := by
  interval_cases digit <;> rfl

theorem exists_repr_eq_cons (n : Nat) :
    ∃ digit behind, digit < 10 ∧ (Nat.repr n).toUTF8.toList = UInt8.ofNat (48 + digit) :: behind := by
  induction n using Nat.strongRecOn with
  | ind n ih =>
    by_cases hn : n < 10
    · exact ⟨n, [], hn, Utf8.repr_of_lt hn⟩
    · obtain ⟨digit, behind, hdigit, heq⟩ := ih (n / 10) (by omega)
      refine ⟨digit, behind ++ [UInt8.ofNat (48 + n % 10)], hdigit, ?_⟩
      rw [Utf8.repr_of_le (Nat.not_lt.1 hn), heq, List.cons_append]

/-- A numeral is read as its number. -/
theorem reads_nat (n : Nat) : Reads (Nat.repr n).toUTF8.toList (.number ⟨false, n, true⟩) := by
  intro fuel rest hrest
  obtain ⟨digit, behind, hdigit, heq⟩ := exists_repr_eq_cons n
  rw [← number?_repr false n hrest, heq, List.cons_append, value?_digit hdigit]

theorem reads_int (i : Int) :
    Reads (toString i).toUTF8.toList (.number ⟨decide (i < 0), i.natAbs, true⟩) := by
  cases i with
  | ofNat n => exact reads_nat n
  | negSucc n =>
    intro fuel rest hrest
    have hbytes : (toString (Int.negSucc n)).toUTF8.toList =
        45 :: (Nat.repr (n + 1)).toUTF8.toList := by
      show ("-" ++ Nat.repr (n + 1)).toUTF8.toList = _
      rw [Utf8.toUTF8_append, Utf8.toList_eq "-".toUTF8]
      rfl
    rw [hbytes, List.cons_append]
    show number? true _ = _
    rw [number?_repr true (n + 1) hrest, decide_eq_true (Int.negSucc_lt_zero n)]
    rfl

theorem reads_write (text : String) : Reads (write text) (.string (charsOf text)) := by
  intro fuel rest _
  simp only [write, List.cons_append, List.append_assoc, List.nil_append]
  show (scanString [] _ >>= _) = _
  rw [scanString_write]
  rfl

/-! ## Objects -/

/-- One field of an object as bytes. -/
def fieldBytes (field : String × List UInt8 × JsonValue) : List UInt8 :=
  write field.1 ++ 58 :: field.2.1

/-- One field of an object as it is read. -/
def fieldValue (field : String × List UInt8 × JsonValue) : List JsonChar × JsonValue :=
  (charsOf field.1, field.2.2)

theorem fields?_fieldBytes {field : String × List UInt8 × JsonValue}
    (h : Reads field.2.1 field.2.2) (fuel : Nat) (rest : List UInt8) :
    fields? (fuel + 2) (fieldBytes field ++ 125 :: rest) = some ([fieldValue field], rest) ∧
      fields? (fuel + 2) (fieldBytes field ++ 44 :: rest) =
        (fields? (fuel + 1) rest).map fun found => (fieldValue field :: found.1, found.2) := by
  obtain ⟨name, bytes, value⟩ := field
  have hlast := h fuel (125 :: rest) ⟨125, rest, rfl, Or.inr rfl⟩
  have hmore := h fuel (44 :: rest) ⟨44, rest, rfl, Or.inl rfl⟩
  simp only [fieldBytes, write, List.cons_append, List.append_assoc, List.nil_append]
  constructor
  · rw [fields?]
    show (scanString [] _ >>= _) = _
    rw [scanString_write]
    show (value? (fuel + 1) _ >>= _) = _
    rw [hlast]
    rfl
  · rw [fields?]
    show (scanString [] _ >>= _) = _
    rw [scanString_write]
    show (value? (fuel + 1) _ >>= _) = _
    rw [hmore]
    show (fields? (fuel + 1) rest >>= _) = _
    cases fields? (fuel + 1) rest <;> rfl

/-- **The fields of an object are read in their order.** -/
theorem fields?_intercalate {fields : List (String × List UInt8 × JsonValue)} {fuel : Nat}
    (hne : fields ≠ []) (hreads : ∀ field ∈ fields, Reads field.2.1 field.2.2)
    (hfuel : fields.length < fuel) (rest : List UInt8) :
    fields? fuel (List.intercalate [44] (fields.map fieldBytes) ++ 125 :: rest) =
      some (fields.map fieldValue, rest) := by
  induction fields generalizing fuel with
  | nil => exact absurd rfl hne
  | cons field fields ih =>
    obtain ⟨hfield, hfields⟩ := List.forall_mem_cons.1 hreads
    rw [List.length_cons] at hfuel
    obtain ⟨fuel, rfl⟩ : ∃ count, fuel = count + 2 := ⟨fuel - 2, by omega⟩
    cases fields with
    | nil =>
      rw [List.map_singleton, List.intercalate_singleton]
      exact (fields?_fieldBytes hfield fuel rest).1
    | cons next fields =>
      have hbehind := ih (List.cons_ne_nil _ _) hfields (show (next :: fields).length < fuel + 1 by
        omega)
      rw [List.map_cons, List.map_cons, List.intercalate_cons_cons, ← List.map_cons,
        List.append_assoc, List.append_assoc, List.singleton_append,
        (fields?_fieldBytes hfield fuel _).2, hbehind]
      rfl

theorem length_le_intercalate (fields : List (String × List UInt8 × JsonValue)) :
    fields.length ≤ (List.intercalate [44] (fields.map fieldBytes)).length := by
  induction fields with
  | nil => exact Nat.zero_le _
  | cons field fields ih =>
    have hfield : 0 < (fieldBytes field).length := by
      rw [fieldBytes, List.length_append, List.length_cons]
      omega
    cases fields with
    | nil =>
      rw [List.map_singleton, List.intercalate_singleton]
      exact hfield
    | cons next fields =>
      rw [List.map_cons, List.map_cons, List.intercalate_cons_cons, ← List.map_cons,
        List.length_append, List.length_append, List.length_cons]
      omega

/-- **A document of fields is read as the object of these fields.** -/
theorem parse?_object {fields : List (String × List UInt8 × JsonValue)} (hne : fields ≠ [])
    (hreads : ∀ field ∈ fields, Reads field.2.1 field.2.2) :
    parse? (123 :: List.intercalate [44] (fields.map fieldBytes) ++ [125]) =
      some (.object (fields.map fieldValue)) := by
  have hlength := length_le_intercalate fields
  obtain ⟨behind, hquote⟩ : ∃ behind,
      List.intercalate [44] (fields.map fieldBytes) ++ [125] = 34 :: behind := by
    obtain ⟨field, rest, rfl⟩ := List.exists_cons_of_ne_nil hne
    cases rest with
    | nil =>
      simp only [List.map_singleton, List.intercalate_singleton, fieldBytes, write,
        List.cons_append]
      exact ⟨_, rfl⟩
    | cons next rest =>
      simp only [List.map_cons, List.intercalate_cons_cons, fieldBytes, write, List.cons_append]
      exact ⟨_, rfl⟩
  have hfields (fuel : Nat) (hfuel : fields.length < fuel) : fields? fuel (34 :: behind) =
      some (fields.map fieldValue, []) := by
    rw [← hquote]
    exact fields?_intercalate hne hreads hfuel []
  rw [List.cons_append, parse?, hquote]
  show ((fields? _ (34 :: behind) >>= _) >>= _) = _
  rw [hfields]
  · rfl
  · have hlong := congrArg List.length hquote
    rw [List.length_append, List.length_cons, List.length_nil, List.length_cons] at hlong
    rw [List.length_cons, List.length_cons]
    omega

end InstantReplay.JsonValue
