import InstantReplay.Overflow
import Mathlib.Algebra.Ring.Int.Defs

/-!
# The range of 64-bit integers

`InInt64` says that an integer is a signed 64-bit one. Arithmetic in 64 bits is exact when its
exact result is in this range, and a difference overflows when it is not (`minus?_eq_none_iff`).
-/

namespace InstantReplay

/-- The integers of 64 bits with a sign. -/
def InInt64 (n : Int) : Prop := -2 ^ 63 ≤ n ∧ n < 2 ^ 63

instance (n : Int) : Decidable (InInt64 n) := inferInstanceAs (Decidable (_ ∧ _))

theorem InInt64.toInt_ofInt {n : Int} (h : InInt64 n) : (Int64.ofInt n).toInt = n :=
  Int64.toInt_ofInt_of_le h.1 h.2

theorem inInt64_toInt (a : Int64) : InInt64 a.toInt := ⟨a.le_toInt, a.toInt_lt⟩

theorem InInt64.toInt_sub {a b : Int64} (h : InInt64 (a.toInt - b.toInt)) :
    (a - b).toInt = a.toInt - b.toInt := by
  rw [Int64.toInt_sub]
  exact Int.bmod_eq_of_le h.1 h.2

/-- An integer as a 64-bit one, if it is in range. -/
def int64? (n : Int) : Option Int64 := if InInt64 n then some (Int64.ofInt n) else none

theorem InInt64.int64?_eq {n : Int} (h : InInt64 n) : int64? n = some (Int64.ofInt n) := if_pos h

theorem InInt64.minus?_eq {a b : Int64} (h : InInt64 (a.toInt - b.toInt)) :
    minus? a b = some (a - b) := if_pos h.toInt_sub

/-- A difference overflows just when it is out of range. -/
theorem minus?_eq_none_iff {a b : Int64} :
    minus? a b = none ↔ ¬InInt64 (a.toInt - b.toInt) := by
  refine ⟨fun hnone hfits => ?_, fun hout => if_neg fun hsub => hout ?_⟩
  · rw [hfits.minus?_eq] at hnone
    cases hnone
  · rw [← hsub]
    exact inInt64_toInt (a - b)

end InstantReplay
