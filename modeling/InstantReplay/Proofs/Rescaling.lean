import InstantReplay.Proofs.TimeBase
import Mathlib.Algebra.Order.Field.Basic
import Mathlib.Algebra.Order.Field.Rat
import Mathlib.Tactic.FieldSimp
import Mathlib.Tactic.Ring

/-!
# Rescaling is exact rounding

`RoundsTo` says to which integer a quotient is rounded: to the nearest, and of two equally near to
the one further from zero. There is one such integer (`RoundsTo.eq`), and `roundDiv` is it, whatever
the signs of numerator and denominator (`roundsTo_roundDiv`).

`TimeBase.wideRescale?` takes the steps of `TimeBase.rescale` in 128 bits and answers nothing if one
of them overflows. None does: the fields of a time base have 32 bits and a timestamp has 64.
-/

namespace InstantReplay

/-! ## Rounding -/

/-- The integer `n` is the nearest to `q`; of two equally near ones it is further from zero. -/
structure RoundsTo (q : ℚ) (n : Int) : Prop where
  nearest : ∀ k : Int, |q - n| ≤ |q - k|
  away : ∀ k : Int, |q - k| = |q - n| → |k| ≤ |n|

/-- A quotient is rounded to one integer only. -/
theorem RoundsTo.eq {q : ℚ} {n m : Int} (hn : RoundsTo q n) (hm : RoundsTo q m) : n = m := by
  have hsame : |q - m| = |q - n| := le_antisymm (hm.nearest n) (hn.nearest m)
  have habs : |n| = |m| := le_antisymm (hm.away n hsame.symm) (hn.away m hsame)
  rcases abs_eq_abs.1 habs with heq | hneg
  · exact heq
  · -- opposite integers are equally near to zero only, which is then the nearest itself
    have hzero : |q - n| ≤ |q - (0 : Int)| := hn.nearest 0
    rcases abs_eq_abs.1 hsame with hq | hq
    · have : (m : ℚ) = n := by linarith
      exact (Int.cast_inj.1 this).symm
    · have hq0 : q = 0 := by
        have : (n : ℚ) = -m := by exact_mod_cast hneg
        linarith
      simp only [hq0, Int.cast_zero, sub_self, abs_zero, zero_sub, abs_neg] at hzero
      have hn0 : (n : ℚ) = 0 := abs_eq_zero.1 (le_antisymm hzero (abs_nonneg _))
      have : n = 0 := Int.cast_eq_zero.1 hn0
      omega

/-- An integer at most a half away is the nearest. At exactly a half it has to be further from
zero than the quotient. -/
theorem roundsTo_of_abs_sub_le {q : ℚ} {n : Int} (hnear : |q - n| ≤ 1 / 2)
    (haway : |q - n| < 1 / 2 ∨ |q| < |(n : ℚ)|) : RoundsTo q n := by
  have hother : ∀ k : Int, k ≠ n → 1 / 2 ≤ |q - k| := by
    intro k hk
    have hgap : 1 ≤ |(n : ℚ) - k| := by
      have : (1 : Int) ≤ |n - k| := Int.one_le_abs (sub_ne_zero.2 hk.symm)
      exact_mod_cast this
    have htriangle := abs_sub_le (n : ℚ) q k
    rw [abs_sub_comm (n : ℚ) q] at htriangle
    linarith
  constructor
  · intro k
    by_cases hk : k = n
    · rw [hk]
    · exact hnear.trans (hother k hk)
  · intro k htie
    by_cases hk : k = n
    · rw [hk]
    · have hhalf := hother k hk
      rcases haway with hlt | hfar
      · linarith
      · have hle : |(k : ℚ)| ≤ |q| + |q - k| := by
          have := abs_sub_le (k : ℚ) q 0
          rw [sub_zero, sub_zero, abs_sub_comm (k : ℚ) q] at this
          linarith
        have hlt : |(k : ℚ)| < |(n : ℚ)| + 1 := by linarith
        have : |k| < |n| + 1 := by exact_mod_cast hlt
        omega

/-! ## Rounded quotients -/

theorem roundDiv_neg_neg (num den : Int) : roundDiv (-num) (-den) = roundDiv num den := by
  unfold roundDiv
  simp only [neg_eq_zero, Int.neg_tdiv, Int.tdiv_neg, neg_neg, Int.neg_tmod, Int.tmod_neg,
    Int.natAbs_neg, Int.sign_neg, neg_mul_neg]

/-- A quotient is rounded by less than a half, or away from zero. -/
theorem lt_or_abs_lt_roundDiv (num : Int) {den : Int} (hden : 0 < den) :
    2 * |num - den * roundDiv num den| < den ∨ |num| < den * |roundDiv num den| := by
  have hsplit : den * num.tdiv den + num.tmod den = num := Int.mul_tdiv_add_tmod num den
  have hsmall : |num.tmod den| < den := by
    have := Int.tmod_lt_of_pos num hden
    have := Int.lt_tmod_of_pos num hden
    rw [abs_lt]
    omega
  rw [roundDiv, if_neg (by omega)]
  dsimp only
  split
  · rename_i hhalf
    right
    rcases lt_trichotomy num 0 with hneg | rfl | hpos
    · have hquotient : num.tdiv den ≤ 0 := by
        have := Int.tdiv_nonneg (a := -num) (b := den) (by omega) (by omega)
        rw [Int.neg_tdiv] at this
        omega
      rw [Int.sign_eq_neg_one_of_neg hneg, Int.sign_eq_one_of_pos hden, abs_of_neg hneg,
        abs_of_neg (by omega)]
      have := (abs_lt.1 hsmall).1
      linarith
    · simp at hhalf
      omega
    · have hquotient : 0 ≤ num.tdiv den := Int.tdiv_nonneg (by omega) (by omega)
      rw [Int.sign_eq_one_of_pos hpos, Int.sign_eq_one_of_pos hden, abs_of_pos hpos,
        abs_of_pos (by omega)]
      have := (abs_lt.1 hsmall).2
      linarith
  · left
    rw [show num - den * num.tdiv den = num.tmod den by linarith, Int.abs_eq_natAbs]
    omega

theorem div_sub_roundDiv (num : Int) {den : Int} (hden : 0 < den) :
    |(num : ℚ) / den - roundDiv num den| * den = |(num : ℚ) - den * roundDiv num den| := by
  have hpos : (0 : ℚ) < den := Int.cast_pos.2 hden
  have hscale : (num : ℚ) / den - roundDiv num den = (num - den * roundDiv num den) / den := by
    field_simp
  rw [hscale, abs_div, abs_of_pos hpos, div_mul_cancel₀ _ (ne_of_gt hpos)]

theorem abs_roundDiv_sub_div_le (num : Int) {den : Int} (hden : 0 < den) :
    |(roundDiv num den : ℚ) - num / den| ≤ 1 / 2 := by
  have hpos : (0 : ℚ) < den := Int.cast_pos.2 hden
  have hclose : 2 * |(num : ℚ) - den * roundDiv num den| ≤ den := by
    exact_mod_cast two_mul_abs_sub_roundDiv_le num hden
  rw [← div_sub_roundDiv num hden] at hclose
  rw [abs_sub_comm]
  refine le_of_mul_le_mul_right ?_ hpos
  linarith

theorem roundsTo_roundDiv_of_pos (num : Int) {den : Int} (hden : 0 < den) :
    RoundsTo ((num : ℚ) / den) (roundDiv num den) := by
  have hpos : (0 : ℚ) < den := Int.cast_pos.2 hden
  have hnear := abs_roundDiv_sub_div_le num hden
  rw [abs_sub_comm] at hnear
  apply roundsTo_of_abs_sub_le hnear
  rcases lt_or_abs_lt_roundDiv num hden with hlt | hfar
  · left
    have hclose : 2 * |(num : ℚ) - den * roundDiv num den| < den := by exact_mod_cast hlt
    rw [← div_sub_roundDiv num hden] at hclose
    refine lt_of_mul_lt_mul_right ?_ hpos.le
    linarith
  · right
    have hfar' : |(num : ℚ)| < den * |(roundDiv num den : ℚ)| := by exact_mod_cast hfar
    rw [abs_div, abs_of_pos hpos, div_lt_iff₀ hpos]
    linarith

/-- **`roundDiv` is exact rounding**, a half away from zero, for all signs. -/
theorem roundsTo_roundDiv (num : Int) {den : Int} (hden : den ≠ 0) :
    RoundsTo ((num : ℚ) / den) (roundDiv num den) := by
  rcases lt_or_gt_of_ne hden with hneg | hpos
  · have := roundsTo_roundDiv_of_pos (-num) (neg_pos.2 hneg)
    rwa [roundDiv_neg_neg, Int.cast_neg, Int.cast_neg, neg_div_neg_eq] at this
  · exact roundsTo_roundDiv_of_pos num hpos

/-! ## Arithmetic in 128 bits -/

/-- The integers of 128 bits with a sign. -/
def InInt128 (n : Int) : Prop := -2 ^ 127 ≤ n ∧ n < 2 ^ 127

instance (n : Int) : Decidable (InInt128 n) := inferInstanceAs (Decidable (_ ∧ _))

/-- A result in 128 bits; nothing if it is out of range. -/
def wide? (n : Int) : Option Int := if InInt128 n then some n else none

theorem wide?_of_natAbs_le {n : Int} (h : n.natAbs ≤ 2 ^ 126) : wide? n = some n := by
  rw [wide?, if_pos]
  unfold InInt128
  omega

theorem bind_wide? {α : Type} {n : Int} (h : n.natAbs ≤ 2 ^ 126) (next : Int → Option α) :
    (do next (← wide? n)) = next n := by
  rw [wide?_of_natAbs_le h]
  rfl

/-- The steps of `roundDiv` in 128 bits. -/
def wideRoundDiv? (num den : Int) : Option Int :=
  if den = 0 then some 0
  else do
    let quotient ← wide? (num.tdiv den)
    let rest ← wide? (num.tmod den)
    let size ← wide? rest.natAbs
    let doubled ← wide? (2 * size)
    let limit ← wide? den.natAbs
    let direction ← wide? (num.sign * den.sign)
    if doubled ≥ limit then wide? (quotient + direction) else some quotient

theorem wideRoundDiv?_eq {num den : Int} (hnum : num.natAbs ≤ 2 ^ 125)
    (hden : den.natAbs ≤ 2 ^ 125) : wideRoundDiv? num den = some (roundDiv num den) := by
  have hquotient : (num.tdiv den).natAbs ≤ 2 ^ 125 := by
    rw [Int.natAbs_tdiv]
    exact (Nat.div_le_self _ _).trans hnum
  have hrest : (num.tmod den).natAbs ≤ 2 ^ 125 := by
    rw [Int.natAbs_tmod]
    exact (Nat.mod_le _ _).trans hnum
  have hdirection : (num.sign * den.sign).natAbs ≤ 1 := by
    rw [Int.natAbs_mul, Int.natAbs_sign, Int.natAbs_sign]
    split <;> split <;> omega
  have hsum := Int.natAbs_add_le (num.tdiv den) (num.sign * den.sign)
  rw [wideRoundDiv?, roundDiv]
  by_cases hzero : den = 0
  · rw [if_pos hzero, if_pos hzero]
  · rw [if_neg hzero, if_neg hzero, bind_wide? (by omega), bind_wide? (by omega),
      bind_wide? (by omega), bind_wide? (by omega), bind_wide? (by omega), bind_wide? (by omega),
      wide?_of_natAbs_le (by omega)]
    dsimp only
    split <;> split <;> first | rfl | omega

namespace TimeBase

/-- The steps of `rescale` in 128 bits, of which only the last is reduced to 64. -/
def wideRescale? (source : TimeBase) (value : Int64) (target : TimeBase) : Option Int64 :=
  if source = target then some value
  else do
    let scaled ← wide? (value.toInt * source.num.toInt)
    let num ← wide? (scaled * target.den.toInt)
    let den ← wide? (source.den.toInt * target.num.toInt)
    let rounded ← wideRoundDiv? num den
    some (Int64.ofInt rounded)

theorem natAbs_toInt32_le (n : Int32) : n.toInt.natAbs ≤ 2 ^ 31 := by
  have := n.le_toInt
  have := n.toInt_lt
  omega

theorem natAbs_toInt64_le (n : Int64) : n.toInt.natAbs ≤ 2 ^ 63 := by
  have := n.le_toInt
  have := n.toInt_lt
  omega

/-- **No step of rescaling overflows 128 bits**, and all of them together are `rescale`. -/
theorem wideRescale?_eq (source : TimeBase) (value : Int64) (target : TimeBase) :
    source.wideRescale? value target = some (source.rescale value target) := by
  have hscaled : (value.toInt * source.num.toInt).natAbs ≤ 2 ^ 94 := by
    rw [Int.natAbs_mul]
    exact (Nat.mul_le_mul (natAbs_toInt64_le value) (natAbs_toInt32_le source.num)).trans
      (by norm_num)
  have hnum : (value.toInt * source.num.toInt * target.den.toInt).natAbs ≤ 2 ^ 125 := by
    rw [Int.natAbs_mul]
    exact (Nat.mul_le_mul hscaled (natAbs_toInt32_le target.den)).trans (by norm_num)
  have hden : (source.den.toInt * target.num.toInt).natAbs ≤ 2 ^ 62 := by
    rw [Int.natAbs_mul]
    exact (Nat.mul_le_mul (natAbs_toInt32_le source.den) (natAbs_toInt32_le target.num)).trans
      (by norm_num)
  rw [wideRescale?, rescale]
  by_cases hsame : source = target
  · rw [if_pos hsame, if_pos hsame]
  · rw [if_neg hsame, if_neg hsame, bind_wide? (by omega), bind_wide? (by omega),
      bind_wide? (by omega), wideRoundDiv?_eq hnum (by omega)]
    rfl

/-- The quotient that `rescale` rounds. -/
def quotient (source : TimeBase) (value : Int64) (target : TimeBase) : ℚ :=
  (value.toInt * source.num.toInt * target.den.toInt : ℚ) /
    (source.den.toInt * target.num.toInt : ℚ)

theorem roundsTo_exact {source target : TimeBase}
    (hden : source.den.toInt * target.num.toInt ≠ 0) (value : Int64) :
    RoundsTo (source.quotient value target) (source.exact value.toInt target) := by
  have hrounds := roundsTo_roundDiv (value.toInt * source.num.toInt * target.den.toInt) hden
  rw [quotient, exact]
  push_cast at hrounds
  exact hrounds

/-- Rescaling from `source` to `target` is exact rounding, up to the reduction to 64 bits. -/
structure RoundsExactly (source target : TimeBase) : Prop where
  /-- No step overflows 128 bits. -/
  fits : ∀ value, source.wideRescale? value target = some (source.rescale value target)
  same : source = target → ∀ value, source.rescale value target = value
  zero : source ≠ target → source.den.toInt * target.num.toInt = 0 →
    ∀ value, source.rescale value target = 0
  /-- The one integer that the quotient rounds to is taken modulo `2 ^ 64`, into the signed
  range. -/
  rounds : source ≠ target → source.den.toInt * target.num.toInt ≠ 0 →
    ∀ value, ∃ n, (∀ k, RoundsTo (source.quotient value target) k ↔ k = n) ∧
      (source.rescale value target).toInt = n.bmod (2 ^ 64)
  /-- A later time stays later or becomes equal, if both results are in range. -/
  mono : source.Positive → target.Positive → ∀ value later : Int64, value ≤ later →
    InInt64 (source.exact value.toInt target) → InInt64 (source.exact later.toInt target) →
      source.rescale value target ≤ source.rescale later target

/-- **Rescaling is exact rounding**, a half away from zero, for all time bases. -/
theorem roundsExactly (source target : TimeBase) : RoundsExactly source target where
  fits value := wideRescale?_eq source value target
  same hsame value := by rw [rescale, if_pos hsame]
  zero hne hden value := by
    rw [rescale, if_neg hne, ratio]
    dsimp only
    rw [hden, roundDiv, if_pos rfl]
    rfl
  rounds hne hden value := by
    have hrounds := roundsTo_exact hden value
    refine ⟨source.exact value.toInt target, fun k => ⟨fun hk => hk.eq hrounds, ?_⟩, ?_⟩
    · rintro rfl
      exact hrounds
    · rw [rescale, if_neg hne]
      exact Int64.toInt_ofInt
  mono hsource htarget value later hle hvalue hlater := by
    rw [Int64.le_iff_toInt_le] at hle ⊢
    rw [toInt_rescale hsource hvalue, toInt_rescale hsource hlater]
    exact exact_mono hsource htarget hle

/-- Half a tick before zero goes to the whole tick before it, also when the half comes from two
negative fields. -/
example : (⟨1, 2⟩ : TimeBase).rescale (-1) ⟨1, 1⟩ = -1 ∧
    (⟨-1, 2⟩ : TimeBase).rescale 3 ⟨-1, -1⟩ = -2 := by decide

end TimeBase

end InstantReplay
