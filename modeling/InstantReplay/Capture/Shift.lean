import InstantReplay.Capture.Source
import InstantReplay.Capture.Worker

/-!
# Workers at work

A worker looks whether it is told to stop, asks its source, and handles what that came to, again and
again. A pause after a failure is made of short steps, and the worker looks before each of them too.
What it does is kept as a list of deeds.
-/

namespace InstantReplay

/-- A flag that tells a worker to stop: what each look at it sees. Once it is set it stays so. -/
structure StopFlag where
  isSet : Nat → Bool
  stays : ∀ look, isSet look = true → isSet (look + 1) = true

/-- What a worker does. -/
inductive Deed
  /-- It looks whether it is told to stop. -/
  | looked (stop : Bool)
  | asked (pull : Pull)
  /-- It sleeps, for so many milliseconds. -/
  | slept (time : Nat)

/-- What a source gives to a worker that asks it. -/
def Pull.ofResult : Except Failure (Option Packet) → Pull
  | .ok (some ready) => .packet ready
  | .ok none => .nothing
  | .error failure => .failed failure

/-- A worker at work, with a source that has states in `σ`. -/
structure Shift (σ : Type) where
  lane : CaptureLane
  source : σ
  /-- What was done so far. -/
  deeds : List Deed := []
  /-- The number of looks at the flag so far. -/
  looks : Nat := 0

namespace Shift

variable {σ : Type}

/-- An action on the worker's lane. -/
def onLane (action : Act CaptureLane Unit) : Act (Shift σ) Unit :=
  action.within (·.lane) fun lane shift => { shift with lane := lane }

/-- Looks whether to stop. -/
def look (flag : StopFlag) : Act (Shift σ) Bool :=
  Act.step fun shift =>
    let stop := flag.isSet shift.looks
    (stop, { shift with deeds := shift.deeds ++ [.looked stop], looks := shift.looks + 1 })

/-- Asks the source. -/
def ask (tap : Tap Packet σ) : Act (Shift σ) Pull :=
  Act.step fun shift =>
    let (result, source) := tap.next shift.source
    let pull := Pull.ofResult result
    (pull, { shift with source := source, deeds := shift.deeds ++ [.asked pull] })

/-- Sleeps in steps, until told to stop. -/
def sleep (flag : StopFlag) : List Nat → Act (Shift σ) Unit
  | [] => return
  | time :: rest => do
    if ← look flag then return
    Act.change fun shift => { shift with deeds := shift.deeds ++ [.slept time] }
    sleep flag rest

/-- Handles what the source gave, and pauses after a failure. -/
def handle (flag : StopFlag) (pull : Pull) : Act (Shift σ) Unit := do
  let pause := (← Act.state).lane.worker.pause
  onLane (CaptureLane.take pull)
  match pull with
  | .failed _ => sleep flag (Worker.pauseSteps pause)
  | _ => return

/-- Works for some rounds, or until told to stop, or until the worker breaks down. -/
def work (tap : Tap Packet σ) (flag : StopFlag) : Nat → Act (Shift σ) Unit
  | 0 => return
  | rounds + 1 => do
    if (← Act.state).lane.worker.isFinished then return
    if ← look flag then onLane CaptureLane.stop
    else
      handle flag (← ask tap)
      work tap flag rounds

/-- A worker's shift from its start on. -/
def run (tap : Tap Packet σ) (flag : StopFlag) (rounds : Nat) : Act (Shift σ) Unit := do
  onLane (CaptureLane.begin [])
  work tap flag rounds

end Shift

end InstantReplay
