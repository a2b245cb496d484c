/-!
# Time bases

Timestamps of a stream count ticks of a rational length. `TimeBase.rescale` moves a timestamp
from one tick length to another and rounds to the nearest tick, a half away from zero. The
quotient is formed exactly; only the result is reduced to 64 bits.
-/

namespace InstantReplay

/-- The integer nearest to `num / den`, a half away from zero; zero if `den` is zero. -/
def roundDiv (num den : Int) : Int :=
  if den = 0 then 0
  else
    let quotient := num.tdiv den
    if 2 * (num.tmod den).natAbs ≥ den.natAbs then quotient + num.sign * den.sign
    else quotient

/-- The length of a tick in seconds, as the fraction `num / den`. -/
structure TimeBase where
  num : Int32
  den : Int32
  deriving DecidableEq

namespace TimeBase

/-- Ticks of one microsecond, the unit of timestamps on the capture channel. -/
def microseconds : TimeBase := ⟨1, 1000000⟩

/-- The exact quotient that `rescale` rounds, as numerator and denominator. -/
def ratio (source : TimeBase) (value : Int64) (target : TimeBase) : Int × Int :=
  (value.toInt * source.num.toInt * target.den.toInt, source.den.toInt * target.num.toInt)

/-- The timestamp `value` of `source`, counted in ticks of `target`. -/
def rescale (source : TimeBase) (value : Int64) (target : TimeBase) : Int64 :=
  if source = target then value
  else
    let (num, den) := source.ratio value target
    Int64.ofInt (roundDiv num den)

/-- A timestamp in microseconds. -/
def toMicros (base : TimeBase) (value : Int64) : Int64 :=
  base.rescale value microseconds

/-- Microseconds in ticks of this base. -/
def ofMicros (base : TimeBase) (micros : Int64) : Int64 :=
  microseconds.rescale micros base

/-- The number of whole ticks in `seconds`; a tick length below one counts as one. -/
def ticksIn (base : TimeBase) (seconds : UInt32) : Int64 :=
  Int64.ofInt (((seconds.toNat : Int) * base.den.toInt).tdiv (max base.num.toInt 1))

/-- The base as it is shown, `num/den`. -/
def text (base : TimeBase) : String :=
  toString base.num.toInt ++ "/" ++ toString base.den.toInt

end TimeBase

end InstantReplay
