import InstantReplay.Text.Numeral
import Mathlib.Data.List.Basic

/-!
# Decimal numerals

A text is read as a number exactly if it spells it with decimal digits, perhaps behind a plus sign
(`Numeral.decimal?_eq_some_iff`), so leading zeros are allowed. What a number is printed as spells
it (`Numeral.spells_toString`).
-/

namespace InstantReplay.Numeral

variable {text digits : List Char} {n value : Nat} {c : Char}

/-- The text consists of decimal digits with this value, perhaps behind a plus sign. -/
def Spells (text : List Char) (n : Nat) : Prop :=
  ∃ digits, (text = digits ∨ text = '+' :: digits) ∧ digits ≠ [] ∧ (∀ c ∈ digits, c.isDigit) ∧
    Nat.ofDigitChars 10 digits 0 = n

theorem digit?_eq_some_iff : digit? c = some value ↔ c.isDigit ∧ value = c.toNat - 48 := by
  have hdigit : ('0' ≤ c ∧ c ≤ '9') ↔ c.isDigit = true := by
    rw [Char.isDigit, Bool.and_eq_true, decide_eq_true_iff, decide_eq_true_iff]
    rfl
  by_cases hc : c.isDigit
  · rw [digit?, if_pos (hdigit.2 hc), Option.some_inj]
    exact ⟨fun h => ⟨hc, h.symm⟩, fun h => h.2.symm⟩
  · rw [digit?, if_neg (mt hdigit.1 hc)]
    exact ⟨nofun, fun h => absurd h.1 hc⟩

theorem decimalFrom_eq_some_iff : decimalFrom value digits = some n ↔
    (∀ c ∈ digits, c.isDigit) ∧ Nat.ofDigitChars 10 digits value = n := by
  induction digits generalizing value with
  | nil => simp [decimalFrom]
  | cons c digits ih =>
    have hstep : decimalFrom value (c :: digits) = some n ↔
        ∃ digit, digit? c = some digit ∧ decimalFrom (value * 10 + digit) digits = some n :=
      Option.bind_eq_some_iff
    simp only [hstep, digit?_eq_some_iff, ih, List.forall_mem_cons, Nat.ofDigitChars_cons]
    constructor
    · rintro ⟨digit, ⟨hc, rfl⟩, hdigits, hvalue⟩
      exact ⟨⟨hc, hdigits⟩, by rw [Nat.mul_comm]; exact hvalue⟩
    · rintro ⟨⟨hc, hdigits⟩, hvalue⟩
      exact ⟨_, ⟨hc, rfl⟩, hdigits, by rw [Nat.mul_comm] at hvalue; exact hvalue⟩

/-- Digits that follow a character which is no plus sign stand for themselves. -/
theorem spells_iff_of_head (hc : c ≠ '+') : Spells (c :: digits) n ↔
    (∀ d ∈ c :: digits, d.isDigit) ∧ Nat.ofDigitChars 10 (c :: digits) 0 = n := by
  constructor
  · rintro ⟨found, rfl | hsign, -, hdigits, hvalue⟩
    · exact ⟨hdigits, hvalue⟩
    · exact absurd (List.cons_eq_cons.1 hsign).1 hc
  · rintro ⟨hdigits, hvalue⟩
    exact ⟨_, Or.inl rfl, List.cons_ne_nil _ _, hdigits, hvalue⟩

theorem spells_plus_iff : Spells ('+' :: digits) n ↔
    digits ≠ [] ∧ (∀ d ∈ digits, d.isDigit) ∧ Nat.ofDigitChars 10 digits 0 = n := by
  constructor
  · rintro ⟨found, rfl | hsign, hne, hdigits, hvalue⟩
    · exact absurd (hdigits '+' List.mem_cons_self) (by decide)
    · obtain rfl := (List.cons_eq_cons.1 hsign).2
      exact ⟨hne, hdigits, hvalue⟩
  · rintro ⟨hne, hdigits, hvalue⟩
    exact ⟨digits, Or.inr rfl, hne, hdigits, hvalue⟩

theorem decimal?_eq_some_iff : decimal? text = some n ↔ Spells text n := by
  unfold decimal?
  split
  · simp [Spells]
  · simp [spells_plus_iff]
  · rename_i digits hdigits
    rw [decimalFrom_eq_some_iff, spells_plus_iff]
    exact ⟨fun h => ⟨fun hnil => hdigits (by rw [hnil]), h⟩, fun h => h.2⟩
  · rename_i hnil hplus hsign
    rw [decimalFrom_eq_some_iff]
    cases text with
    | nil => exact absurd rfl hnil
    | cons c rest =>
      have hc : c ≠ '+' := by
        rintro rfl
        exact hsign rest rfl
      exact (spells_iff_of_head hc).symm

theorem word32?_eq_some_iff {word : UInt32} :
    word32? text = some word ↔ Spells text word.toNat := by
  have hbelow : ∀ n, decimalBelow? (Nat.pow 2 32) text = some n ↔
      Spells text n ∧ n < Nat.pow 2 32 := by
    intro n
    rw [decimalBelow?, ← decimal?_eq_some_iff]
    cases hvalue : decimal? text with
    | none => simp
    | some value => simp; omega
  simp only [word32?, Option.map_eq_some_iff, hbelow]
  constructor
  · rintro ⟨n, ⟨hspells, hlt⟩, rfl⟩
    rwa [UInt32.toNat_ofNat_of_lt' hlt]
  · intro hspells
    exact ⟨word.toNat, ⟨hspells, word.toNat_lt⟩, UInt32.ofNat_toNat⟩

theorem isDigit_of_mem_toString (h : c ∈ (toString n).toList) : c.isDigit := by
  rw [Nat.toString_eq_repr, Nat.toList_repr] at h
  exact Nat.isDigit_of_mem_toDigits (by decide) (by decide) h

theorem toString_ne_nil (n : Nat) : (toString n).toList ≠ [] := by
  rw [Nat.toString_eq_repr, Nat.toList_repr]
  exact Nat.toDigits_ne_nil

/-- What a number is printed as spells it. -/
theorem spells_toString (n : Nat) : Spells (toString n).toList n := by
  refine ⟨_, Or.inl rfl, toString_ne_nil n, fun c hc => isDigit_of_mem_toString hc, ?_⟩
  rw [Nat.toString_eq_repr, Nat.toList_repr]
  exact Nat.ofDigitChars_toDigits (by decide) (by decide)

end InstantReplay.Numeral
