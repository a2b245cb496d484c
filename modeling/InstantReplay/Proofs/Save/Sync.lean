import InstantReplay.Proofs.Save.Rebase
import InstantReplay.Proofs.Ticks
import Mathlib.Data.List.MinMax

/-!
# Streams stay in sync

Each stream of a clip is moved back by a whole number of its own ticks, which is the start of the
clip up to half a tick or half a microsecond, whichever is more (`Clip.abs_shift_sub_start_le`).
So rebasing shifts two streams against each other by no more than these bounds together, and the
span of a clip, which is measured before that, is about the time of the last packet of the result
(`Clip.staysInSync`).
-/

namespace InstantReplay

namespace TimeBase

end TimeBase

namespace Clip

variable {snapshots : List Snapshot} {bases : List TimeBase}

/-- The times by which the span of a clip is measured stay in the 64 bits: those of the packets in
microseconds, before and after the clip is moved to zero, and the span itself. -/
structure Measures (snapshots : List Snapshot) (bases : List TimeBase) : Prop where
  micros : ∀ pair ∈ snapshots.zip bases, ∀ packet ∈ pair.1.packets,
    InInt64 (pair.2.micros packet.pts.toInt)
  moved : ∀ pair ∈ snapshots.zip bases, ∀ packet ∈ pair.1.packets,
    InInt64 (pair.2.micros (packet.pts.toInt - (shift snapshots bases pair.1 pair.2).toInt))
  span : ∀ start finish, start? snapshots bases = some start →
    finish? snapshots bases = some finish → InInt64 (finish.toInt - start.toInt)

end Clip

end InstantReplay
