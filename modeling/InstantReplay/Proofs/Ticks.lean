import InstantReplay.Proofs.Rescaling

/-!
# The length of a tick

A tick of a time base lasts `TimeBase.tick` microseconds. Rescaling moves a time by at most half a
tick of the target (`TimeBase.abs_exact_mul_sub_le`). If the ticks of the target are no longer than
those of the source, this is less than what would take a time to another tick on the way back, so
the way there and back ends where it began (`TimeBase.rescale_there_and_back`).
-/

namespace InstantReplay

namespace TimeBase

variable {base source target : TimeBase}

/-- The length of a tick in microseconds. -/
def tick (base : TimeBase) : ℚ := base.num.toInt * 1000000 / base.den.toInt

theorem tick_pos (h : base.Positive) : 0 < base.tick :=
  div_pos (mul_pos (Int.cast_pos.2 h.num_pos) (by norm_num)) (Int.cast_pos.2 h.den_pos)

theorem tick_microseconds : microseconds.tick = 1 := by
  have hnum : microseconds.num.toInt = 1 := by decide
  have hden : microseconds.den.toInt = 1000000 := by decide
  rw [tick, hnum, hden]
  norm_num

theorem tick_le_tick_iff (hsource : source.Positive) (htarget : target.Positive) :
    target.tick ≤ source.tick ↔
      target.num.toInt * source.den.toInt ≤ source.num.toInt * target.den.toInt := by
  have hsourceDen : (0 : ℚ) < source.den.toInt := Int.cast_pos.2 hsource.den_pos
  have htargetDen : (0 : ℚ) < target.den.toInt := Int.cast_pos.2 htarget.den_pos
  rw [tick, tick, div_le_div_iff₀ htargetDen hsourceDen, mul_right_comm, mul_right_comm _ 1000000,
    mul_le_mul_iff_left₀ (by norm_num)]
  exact_mod_cast Iff.rfl

/-! ## The error of one rounding -/

/-- A time counted in ticks of another base is off by at most half of such a tick. -/
theorem abs_exact_mul_sub_le (hsource : source.Positive) (htarget : target.Positive)
    (value : Int) :
    |(source.exact value target : ℚ) * target.tick - value * source.tick| ≤ target.tick / 2 := by
  have htick := tick_pos htarget
  have hround := abs_roundDiv_sub_div_le (value * source.num.toInt * target.den.toInt)
    (Int.mul_pos hsource.den_pos htarget.num_pos)
  have hquotient : ((value * source.num.toInt * target.den.toInt : Int) : ℚ) /
      ((source.den.toInt * target.num.toInt : Int) : ℚ) = value * source.tick / target.tick := by
    have := (Int.cast_pos.2 htarget.num_pos : (0 : ℚ) < target.num.toInt)
    have := (Int.cast_pos.2 htarget.den_pos : (0 : ℚ) < target.den.toInt)
    have := (Int.cast_pos.2 hsource.den_pos : (0 : ℚ) < source.den.toInt)
    rw [tick, tick]
    push_cast
    field_simp
  rw [hquotient] at hround
  calc |(source.exact value target : ℚ) * target.tick - value * source.tick|
      = |((source.exact value target : ℚ) - value * source.tick / target.tick) * target.tick| := by
        rw [sub_mul, div_mul_cancel₀ _ (ne_of_gt htick)]
    _ = |(source.exact value target : ℚ) - value * source.tick / target.tick| * target.tick := by
        rw [abs_mul, abs_of_pos htick]
    _ ≤ 1 / 2 * target.tick := mul_le_mul_of_nonneg_right hround (le_of_lt htick)
    _ = target.tick / 2 := by ring

/-- A time counted in microseconds is off by at most half a microsecond. -/
theorem abs_micros_sub_le (h : base.Positive) (value : Int) :
    |(base.micros value : ℚ) - value * base.tick| ≤ 1 / 2 := by
  have hexact := abs_exact_mul_sub_le h positive_microseconds value
  rwa [tick_microseconds, mul_one] at hexact

/-- A time of microseconds counted in ticks is off by at most half a tick. -/
theorem abs_ticks_mul_sub_le (h : base.Positive) (value : Int) :
    |(base.ticks value : ℚ) * base.tick - value| ≤ base.tick / 2 := by
  have hexact := abs_exact_mul_sub_le positive_microseconds h value
  rwa [tick_microseconds, mul_one] at hexact

/-! ## There and back -/

/-- Counts of the same ticks are equal if the times are less than a tick apart. -/
theorem eq_of_abs_sub_lt_tick (h : base.Positive) {n m : Int}
    (hnear : |(n : ℚ) * base.tick - m * base.tick| < base.tick) : n = m := by
  have htick := tick_pos h
  rw [← sub_mul, abs_mul, abs_of_pos htick] at hnear
  have hlt : |(n : ℚ) - m| < 1 := lt_of_mul_lt_mul_right (by rwa [one_mul]) htick.le
  have hlt' : |n - m| < 1 := by exact_mod_cast hlt
  exact sub_eq_zero.1 (Int.abs_lt_one_iff.1 hlt')

/-- Between ticks of one length nothing is rounded. -/
theorem exact_of_tick_eq (hsource : source.Positive) (htarget : target.Positive)
    (hsame : target.tick = source.tick) (value : Int) : source.exact value target = value := by
  have hround := abs_exact_mul_sub_le hsource htarget value
  rw [← hsame] at hround
  exact eq_of_abs_sub_lt_tick htarget (hround.trans_lt (half_lt_self (tick_pos htarget)))

theorem exact_there_and_back (hsource : source.Positive) (htarget : target.Positive)
    (hfiner : target.tick ≤ source.tick) (value : Int) :
    target.exact (source.exact value target) source = value := by
  rcases hfiner.eq_or_lt with hsame | hshorter
  · rw [exact_of_tick_eq hsource htarget hsame, exact_of_tick_eq htarget hsource hsame.symm]
  · -- half a tick is lost on either way, and the half of the way there is the smaller one
    have hthere := abs_exact_mul_sub_le hsource htarget value
    have hback := abs_exact_mul_sub_le htarget hsource (source.exact value target)
    have hboth := (abs_sub_le _ ((source.exact value target : ℚ) * target.tick) _).trans
      (add_le_add hback hthere)
    exact eq_of_abs_sub_lt_tick hsource (hboth.trans_lt (by linarith))

theorem rescale_rescale (hsource : source.Positive) (htarget : target.Positive)
    (hfiner : target.tick ≤ source.tick) {value : Int64}
    (hfits : InInt64 (source.exact value.toInt target)) :
    target.rescale (source.rescale value target) source = value := by
  have hthere := toInt_rescale hsource hfits
  have hback : target.exact (source.rescale value target).toInt source = value.toInt := by
    rw [hthere, exact_there_and_back hsource htarget hfiner]
  apply Int64.toInt_inj.1
  rw [toInt_rescale htarget (by rw [hback]; exact ⟨value.le_toInt, value.toInt_lt⟩), hback]

/-- **Converting to ticks that are no longer and back loses nothing**, for every time whose
conversion has 64 bits. Microseconds are such ticks for every base with a tick of at least one. -/
theorem rescale_there_and_back :
    (∀ source target : TimeBase, source.Positive → target.Positive →
      target.tick ≤ source.tick → ∀ value : Int64, InInt64 (source.exact value.toInt target) →
        target.rescale (source.rescale value target) source = value) ∧
      ∀ base : TimeBase, base.Positive → 1 ≤ base.tick →
        ∀ value : Int64, InInt64 (base.micros value.toInt) →
          base.ofMicros (base.toMicros value) = value := by
  constructor
  · intro source target hsource htarget hfiner value hfits
    exact rescale_rescale hsource htarget hfiner hfits
  · intro base hbase htick value hfits
    exact rescale_rescale hbase positive_microseconds (by rwa [tick_microseconds]) hfits

/-- A time before zero goes from pictures to samples and back, ticks of one length are written in
two ways, and the time of a picture goes to microseconds and back. On the way each is a value of its
own, rounded where the ticks do not meet. -/
theorem rescale_there_and_back_samples :
    ((⟨1001, 30000⟩ : TimeBase).rescale (-7) ⟨1, 44100⟩ = -10300 ∧
      (⟨1, 44100⟩ : TimeBase).rescale ((⟨1001, 30000⟩ : TimeBase).rescale (-7) ⟨1, 44100⟩)
        ⟨1001, 30000⟩ = -7) ∧
    ((⟨1, 30⟩ : TimeBase).rescale 5 ⟨2, 60⟩ = 5 ∧
      (⟨2, 60⟩ : TimeBase).rescale ((⟨1, 30⟩ : TimeBase).rescale 5 ⟨2, 60⟩) ⟨1, 30⟩ = 5) ∧
    (⟨1001, 30000⟩ : TimeBase).toMicros 12345 = 411911500 ∧
      (⟨1001, 30000⟩ : TimeBase).ofMicros ((⟨1001, 30000⟩ : TimeBase).toMicros 12345) = 12345 :=
  ⟨⟨by decide, rescale_there_and_back.1 _ _ (by decide) (by decide)
      ((tick_le_tick_iff (by decide) (by decide)).2 (by decide)) _ (by decide)⟩,
    ⟨by decide, rescale_there_and_back.1 _ _ (by decide) (by decide)
      ((tick_le_tick_iff (by decide) (by decide)).2 (by decide)) _ (by decide)⟩,
    by decide, rescale_there_and_back.2 _ (by decide)
      (tick_microseconds ▸ (tick_le_tick_iff (by decide) positive_microseconds).2 (by decide)) _
      (by decide)⟩

end TimeBase

end InstantReplay
