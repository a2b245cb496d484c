import InstantReplay.Act
import InstantReplay.History.Basic

/-!
# Capture workers

A worker asks the source of one stream for packets again and again and puts them into the
stream's history. After a failure it pauses before it asks again, longer each time, until a packet
comes. A worker breaks down with its source, or when the age of a packet overflows.
-/

namespace InstantReplay

/-- What asking a source came to. -/
inductive Pull
  | packet (packet : Packet)
  /-- Nothing is ready. -/
  | nothing
  | failed (failure : Failure)
  /-- The source broke down, and the worker with it. -/
  | broke

/-- How a worker fares. -/
inductive WorkerLife
  | running
  /-- It was told to stop, and did. -/
  | stopped
  | broken
  deriving DecidableEq

/-- The worker of one stream. -/
structure Worker where
  /-- The index of its stream. -/
  stream : Nat
  kind : StreamKind
  /-- The name of its source. -/
  source : String
  /-- The packets put into the history, without one that broke the worker. -/
  packets : Nat := 0
  /-- The failures. -/
  errors : Nat := 0
  /-- Whether a failure came after the last packet. -/
  failing : Bool := false
  /-- The pause after the next failure, in milliseconds. -/
  pause : Nat := 50
  /-- The pauses made so far. -/
  pauses : List Nat := []
  life : WorkerLife := .running
  deriving DecidableEq

/-- A worker and the history it fills. -/
structure CaptureLane where
  worker : Worker
  history : History

namespace Worker

/-- The first pause after a packet, in milliseconds. -/
def firstPause : Nat := 50

/-- The longest pause, in milliseconds. -/
def longestPause : Nat := 2000

/-- The pause after one of `pause` milliseconds. -/
def nextPause (pause : Nat) : Nat := min (pause * 2) longestPause

/-- The longest time a worker pauses without looking whether it is told to stop. -/
def pauseStep : Nat := 50

/-- The steps of a pause. -/
def pauseSteps (pause : Nat) : List Nat :=
  if pause = 0 then [] else min pause pauseStep :: pauseSteps (pause - min pause pauseStep)
termination_by pause
decreasing_by unfold pauseStep; omega

/-- The name of the worker of a stream. -/
def nameOf (kind : StreamKind) (stream : Nat) : String := s!"{kind.text}-{stream}"

/-- The worker's name. -/
def name (worker : Worker) : String := nameOf worker.kind worker.stream

/-- Whether it does no more work. -/
def isFinished (worker : Worker) : Bool := worker.life ≠ .running

/-- The worker after it has put a packet into the history, with this outcome. -/
def afterPacket (worker : Worker) (outcome : Except Overflow Unit) : Worker :=
  { worker with
    packets := if outcome.isOk then worker.packets + 1 else worker.packets
    failing := false
    pause := if worker.failing then firstPause else worker.pause
    life := if outcome.isOk then worker.life else .broken }

/-- The worker after a failure. -/
def afterFailure (worker : Worker) : Worker :=
  { worker with
    errors := worker.errors + 1
    failing := true
    pause := nextPause worker.pause
    pauses := worker.pauses ++ [worker.pause] }

end Worker

/-- Whether the worker of a lane breaks down with what its source gave. -/
def Pull.breaks (lane : CaptureLane) : Pull → Bool
  | .packet taken => !(lane.history.push (taken.onStream lane.worker.stream)).1.isOk
  | .broke => true
  | _ => false

namespace CaptureLane

/-- Handles what asking the source came to. -/
def take (pull : Pull) : Act CaptureLane Unit := do
  let worker := (← Act.state).worker
  let source := worker.source
  match pull with
  | .packet packet =>
    let stream := worker.stream
    let pts := packet.pts.toInt
    let size := packet.size
    if worker.failing then Act.note (.info s!"{source} recovered")
    Act.note (.trace s!"stream {stream}: pts={pts} size={size}")
    Act.change fun lane =>
      let (outcome, history) := lane.history.push (packet.onStream stream)
      ⟨lane.worker.afterPacket outcome, history⟩
  | .nothing => return
  | .failed failure =>
    let reason := failure.message
    if worker.failing then Act.note (.debug s!"{source}: {reason}")
    else Act.note (.warn s!"{source} failed, retrying: {reason}")
    Act.change fun lane => { lane with worker := lane.worker.afterFailure }
  | .broke => Act.change fun lane => { lane with worker := { lane.worker with life := .broken } }

/-- Handles pulls for as long as the worker runs. -/
def run : List Pull → Act CaptureLane Unit
  | [] => return
  | pull :: rest => do
    if (← Act.state).worker.isFinished then return
    take pull
    run rest

/-- Tells a worker that runs to stop. -/
def stop : Act CaptureLane Unit := do
  let worker := (← Act.state).worker
  if worker.life = .running then
    let stream := worker.stream
    let packets := worker.packets
    Act.note (.debug s!"Worker for stream {stream} stopping after {packets} units")
    Act.change fun lane => { lane with worker := { lane.worker with life := .stopped } }

/-- Waits for the end of a worker that has been told to stop. -/
def join : Act CaptureLane Unit := do
  stop
  let worker := (← Act.state).worker
  if worker.life = .broken then Act.note (.error ("Worker " ++ worker.name ++ " panicked"))

/-- Starts the worker of a stream, unless the system refuses it a thread. -/
def start (stream : Nat) (source : String) (history : History) (refusal : Option Errno) :
    Except Failure CaptureLane :=
  match refusal with
  | some code =>
    let name := Worker.nameOf history.kind stream
    let reason := (IoError.os code).text
    .error (.capture s!"Failed to spawn {name} thread: {reason}")
  | none => .ok ⟨{ stream := stream, kind := history.kind, source := source }, history⟩

/-- Starts a worker and lets it handle pulls. -/
def begin (pulls : List Pull) : Act CaptureLane Unit := do
  let worker := (← Act.state).worker
  let kind := worker.kind.text
  let stream := worker.stream
  let source := worker.source
  Act.note (.debug ("Started worker " ++ worker.name))
  Act.note (.info s!"Capturing {kind} stream {stream} from {source}")
  run pulls

end CaptureLane

end InstantReplay
