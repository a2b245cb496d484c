/-!
# Overflow

Whoever subtracts two integers of 64 bits breaks down when the difference does not fit into 64 bits.
What was done until then stays done.
-/

namespace InstantReplay

/-- A breakdown because a result does not fit. -/
inductive Overflow
  | subtraction
  deriving DecidableEq

namespace Overflow

/-- What is said of a breakdown. -/
def message : Overflow → String
  | subtraction => "attempt to subtract with overflow"

end Overflow

/-- A difference in 64 bits, unless it overflows. -/
def minus? (a b : Int64) : Option Int64 :=
  if (a - b).toInt = a.toInt - b.toInt then some (a - b) else none

end InstantReplay
