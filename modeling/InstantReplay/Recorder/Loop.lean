import InstantReplay.Recorder.Run
import InstantReplay.Save.Stages

/-!
# The loop of a recorder

A recorder that runs waits for its trigger and for two signals. Of what has come it takes one thing,
whichever it likes. A request is followed by a save, and the recorder waits again when that is over,
unless no worker is left; anything else ends the loop, and the workers are stopped. Meanwhile, also
during a save, the trigger completes, signals are delivered, and workers go on or break down.
-/

namespace InstantReplay

/-- A signal that ends a run. -/
inductive StopSignal
  | interrupt
  | terminate
  deriving DecidableEq

/-- What a running recorder takes a signal for. -/
def StopSignal.event : StopSignal → RunEvent
  | .interrupt => .interrupted
  | .terminate => .terminated

/-- Where a loop is. -/
inductive LoopPhase
  | waiting
  | saving (stage : SaveStage)
  /-- It goes on no more, and the workers are still to be stopped. -/
  | leaving
  | ended

/-- A recorder in its loop. -/
structure RunLoop (μ : Type) where
  /-- The recorder, and the log. -/
  scene : Scene (Recorder μ)
  /-- The completions of the trigger that were not taken yet. -/
  completions : List (Except Failure Unit) := []
  /-- The signals that were delivered and not taken yet, each once. -/
  signals : List StopSignal := []
  phase : LoopPhase := .waiting

/-- What happens to a recorder in its loop. -/
inductive LoopEvent
  /-- The trigger completes: with a request, or with a failure. -/
  | completed (outcome : Except Failure Unit)
  | delivered (signal : StopSignal)
  /-- A worker asks its source, and breaks down with what that gives or not. -/
  | pulled (index : Nat) (pull : Pull) (broke : Bool)
  /-- The loop takes what has come. -/
  | took (event : RunEvent)
  /-- The save goes on, with these calls to the muxer. -/
  | advanced (calls : List MuxerCall)
  /-- The save is over; the loop goes on or not. -/
  | saved (result : Except Failure SaveReport) (goesOn : Bool)
  | returned

namespace Recorder

variable {μ : Type}

/-- Lets a worker handle what its source gave. -/
def pull (index : Nat) (worker : Worker) (history : History) (pull : Pull) :
    Act (Recorder μ) Unit :=
  (CaptureLane.take pull).within (fun _ => ⟨worker, history⟩) fun lane recorder =>
    { recorder.withHistory worker.stream lane.history with
      workers := recorder.workers.set index lane.worker }

/-- Notes what came of a save, and says whether the loop goes on. -/
def conclude (result : Except Failure SaveReport) : Act (Recorder μ) Bool := do
  match result with
  | .ok report => Act.note (.info ("Replay saved to " ++ report.path))
  | .error failure =>
    Act.note (.error ("Save failed: " ++ failure.message))
    if let some hint := failure.hint? then Act.note (.warn hint)
  if (← Act.state).isIdle then
    Act.note (.warn "All capture workers exited, stopping")
    return false
  return true

end Recorder

namespace RunLoop

variable {μ : Type}

/-- A loop that begins. -/
def start (kind : TriggerKind) (recorder : Recorder μ) : RunLoop μ where
  scene := ⟨recorder, [.info ("Recording; " ++ kind.name ++ " trigger armed")]⟩

/-- What can happen next. -/
inductive Step (loop : RunLoop μ) : LoopEvent → RunLoop μ → Prop
  | completed (outcome : Except Failure Unit) :
      Step loop (.completed outcome) { loop with completions := loop.completions ++ [outcome] }
  | delivered (signal : StopSignal) :
      Step loop (.delivered signal) { loop with signals := loop.signals.insert signal }
  | pulled {index : Nat} {worker : Worker} {stream : FollowedStream} {scene : Scene (Recorder μ)}
      (pull : Pull) (hworker : loop.scene.state.workers[index]? = some worker)
      (hlife : worker.life = .running)
      (hstream : loop.scene.state.streams[worker.stream]? = some stream)
      (hrun : (Recorder.pull index worker stream.history pull).run.run loop.scene =
        (.ok (), scene)) :
      Step loop (.pulled index pull (pull.breaks ⟨worker, stream.history⟩))
        { loop with scene := scene }
  | tookRequest {rest : List (Except Failure Unit)} (hphase : loop.phase = .waiting)
      (hready : loop.completions = .ok () :: rest) :
      Step loop (.took .requested) { loop with completions := rest, phase := .saving .naming }
  | tookFailure {failure : Failure} {rest : List (Except Failure Unit)}
      {scene : Scene (Recorder μ)} (hphase : loop.phase = .waiting)
      (hready : loop.completions = .error failure :: rest)
      (hrun : (Recorder.handle (.triggerFailed failure)).run.run loop.scene = (.ok false, scene)) :
      Step loop (.took (.triggerFailed failure))
        { loop with scene := scene, completions := rest, phase := .leaving }
  | tookSignal {signal : StopSignal} {scene : Scene (Recorder μ)} (hphase : loop.phase = .waiting)
      (hready : signal ∈ loop.signals)
      (hrun : (Recorder.handle signal.event).run.run loop.scene = (.ok false, scene)) :
      Step loop (.took signal.event)
        { loop with scene := scene, signals := loop.signals.erase signal, phase := .leaving }
  | advanced {stage later : SaveStage} {scene : Scene (Recorder μ)} {calls : List MuxerCall}
      (hphase : loop.phase = .saving stage) (hstage : ∀ result, stage ≠ .ended result)
      (hrun : (Recorder.onDesk stage.next).run.run loop.scene = (.ok later, scene))
      (hcalls : scene.state.desk.calls = loop.scene.state.desk.calls ++ calls) :
      Step loop (.advanced calls) { loop with scene := scene, phase := .saving later }
  | saved {result : Except Failure SaveReport} {goesOn : Bool} {scene : Scene (Recorder μ)}
      (hphase : loop.phase = .saving (.ended result))
      (hrun : (Recorder.conclude result).run.run loop.scene = (.ok goesOn, scene)) :
      Step loop (.saved result goesOn)
        { loop with scene := scene, phase := if goesOn then .waiting else .leaving }
  | returned {scene : Scene (Recorder μ)} (hphase : loop.phase = .leaving)
      (hrun : Recorder.stop.run.run loop.scene = (.ok (), scene)) :
      Step loop .returned { loop with scene := scene, phase := .ended }

end RunLoop

end InstantReplay
