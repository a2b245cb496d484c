import InstantReplay.Failure
import InstantReplay.Stream

/-!
# Container writers

A muxer writes the tracks of a clip to a file. It is known by how it answers calls: it keeps a
state of its own, and each call either fails or gives a number, which matters only where a track
is declared. A save is a list of planned calls that are made in turn until one fails.
-/

namespace InstantReplay

/-- What a muxer can be asked. -/
inductive MuxerCall
  /-- Start a file. -/
  | create (path : String)
  /-- Add a track; the answer is its number. -/
  | declare (format : StreamFormat)
  /-- Write the header, after the last track. -/
  | header
  /-- Write a packet to the track that it is marked with. -/
  | write (packet : Packet)
  /-- End the file. -/
  | finish
  /-- Remove what was written. -/
  | abandon
  deriving DecidableEq

/-- A container writer with states in `μ`. -/
structure Muxer (μ : Type) where
  answer : MuxerCall → μ → Except Failure Nat × μ

/-- A call of a plan, with the number it has to give if that matters. -/
structure PlannedCall where
  call : MuxerCall
  expected : Option Nat := none
  deriving DecidableEq

/-- What came of making calls: the first failure if there was one, the calls made in order, and
the state after them. -/
structure Performed (μ : Type) where
  result : Except Failure Unit
  calls : List MuxerCall
  state : μ

namespace Muxer

variable {μ : Type}

/-- The failure when a track gets another number than the one planned. -/
def misnumbered (declared expected : Nat) : Failure :=
  .muxer s!"Muxer assigned track {declared} where {expected} was expected"

/-- Makes planned calls until one fails. -/
def perform (muxer : Muxer μ) : List PlannedCall → μ → Performed μ
  | [], state => ⟨.ok (), [], state⟩
  | planned :: rest, state =>
    match muxer.answer planned.call state with
    | (.error failure, state) => ⟨.error failure, [planned.call], state⟩
    | (.ok number, state) =>
      match planned.expected with
      | some expected =>
        if number = expected then
          let after := muxer.perform rest state
          { after with calls := planned.call :: after.calls }
        else ⟨.error (misnumbered number expected), [planned.call], state⟩
      | none =>
        let after := muxer.perform rest state
        { after with calls := planned.call :: after.calls }

/-- Makes planned calls and abandons the file when one fails. -/
def performOrAbandon (muxer : Muxer μ) (plan : List PlannedCall) (state : μ) : Performed μ :=
  let made := muxer.perform plan state
  match made.result with
  | .ok () => made
  | .error _ =>
    { made with
      calls := made.calls ++ [.abandon]
      state := (muxer.answer .abandon made.state).2 }

end Muxer

/-- A muxer that refuses one kind of call after a number of them and that may misnumber tracks. -/
structure PickyMuxer where
  /-- The word for the calls that are refused. -/
  refuses : String
  /-- How many such calls it takes before, in each file. -/
  tolerance : Nat
  /-- Added to the number of every track. -/
  trackShift : Nat

namespace PickyMuxer

/-- The calls a picky muxer took in the current file. -/
structure Counts where
  tracks : Nat := 0
  writes : Nat := 0

/-- The word for a call, and how many of its kind were taken before. -/
def point (counts : Counts) : MuxerCall → String × Nat
  | .create _ => ("open", 0)
  | .declare _ => ("add_track", counts.tracks)
  | .header => ("header", 0)
  | .write _ => ("write", counts.writes)
  | .finish => ("close", 0)
  | .abandon => ("abort", 0)

/-- The counts after a call that was taken. -/
def count (counts : Counts) : MuxerCall → Counts
  | .create _ => {}
  | .declare _ => { counts with tracks := counts.tracks + 1 }
  | .write _ => { counts with writes := counts.writes + 1 }
  | _ => counts

/-- The muxer that refuses as told. -/
def muxer (picky : PickyMuxer) : Muxer Counts where
  answer call counts :=
    let (word, taken) := point counts call
    if word = picky.refuses ∧ picky.tolerance ≤ taken then
      (.error (.muxer (word ++ " refused")), counts)
    else (.ok (counts.tracks + picky.trackShift), count counts call)

end PickyMuxer

end InstantReplay
