import InstantReplay.Capture.Worker
import InstantReplay.Save.Desk

/-!
# The recorder

A recorder keeps the recent packets of its streams, each filled by a worker of its own, and saves
them on demand. Video streams come before audio streams.
-/

namespace InstantReplay

/-- A running recorder. -/
structure Recorder (μ : Type) where
  /-- The seconds of each stream that are kept. -/
  seconds : UInt32
  desk : SaveDesk μ
  /-- The indices of the streams whose workers could be started. -/
  kept : List Nat := []
  workers : List Worker := []
  /-- Whether the workers were told to stop. -/
  stopping : Bool := false

namespace Recorder

variable {μ : Type}

/-- The failure of a recorder that has nothing to encode with. -/
def noEncoder : Failure := .unsupported "recording needs the 'ffmpeg' feature"

/-- The streams that the saver follows. -/
def streams (recorder : Recorder μ) : List FollowedStream := recorder.desk.saver.streams

/-- The histories of the streams whose workers could be started. -/
def histories (recorder : Recorder μ) : List History :=
  recorder.kept.filterMap fun index => (recorder.streams[index]?).map (·.history)

/-- Changes the streams that the saver follows. -/
def withStreams (recorder : Recorder μ) (streams : List FollowedStream) : Recorder μ :=
  { recorder with
    desk := { recorder.desk with saver := { recorder.desk.saver with streams := streams } } }

/-- The recorder with another history for a stream. -/
def withHistory (recorder : Recorder μ) (index : Nat) (history : History) : Recorder μ :=
  recorder.withStreams (recorder.streams.modify index fun stream =>
    { stream with history := history })

/-- An action on the saver and its files. -/
def onDesk {α : Type} (action : Act (SaveDesk μ) α) : Act (Recorder μ) α :=
  action.within (·.desk) fun desk recorder => { recorder with desk := desk }

/-- The next answer to a request for a thread that is a refusal. -/
def threadRefusal : Act (Recorder μ) (Option Errno) :=
  Act.step fun recorder =>
    let world := recorder.desk.world
    let desk := { recorder.desk with
      world := { world with threadRefusals := world.threadRefusals.tail } }
    (world.threadRefusals.head?, { recorder with desk := desk })

/-- The line noted for a new stream. -/
def streamNote (number : Nat) (format : StreamFormat) (history : History) (seconds : UInt32) :
    LogLine :=
  let kind := format.kind.text
  let codec := format.codec
  let slots := history.capacity
  let span := seconds.toNat
  .info s!"Stream {number}: {kind} ({codec}), {slots} slots for {span}s"

/-- Adds a stream and starts its worker, whose source gives what `pulls` says. -/
def add (format : StreamFormat) (source : String) (pulls : List Pull) :
    Act (Recorder μ) Nat := do
  let recorder ← Act.state
  if format.kind = .video ∧ recorder.histories.any (·.kind = .audio) then
    throw (.config "Video streams must be added before audio")
  let history := History.ofFormat format recorder.seconds
  Act.note (streamNote recorder.kept.length format history recorder.seconds)
  let index := recorder.streams.length
  Act.change fun recorder => recorder.withStreams (recorder.streams ++ [⟨format, history⟩])
  let lane ← Act.ofExcept (CaptureLane.start index source history (← threadRefusal))
  let ran := do
    CaptureLane.begin (if recorder.stopping then [] else pulls)
    if recorder.stopping then CaptureLane.stop
  let (_, lane, lines) := ran.runOn lane
  lines.forM Act.note
  Act.change fun recorder =>
    { recorder.withHistory index lane.history with
      kept := recorder.kept ++ [index], workers := recorder.workers ++ [lane.worker] }
  return index

/-- Saves what is kept. -/
def save : Act (Recorder μ) SaveReport := onDesk SaveDesk.save

/-- Whether no worker works any more. -/
def isIdle (recorder : Recorder μ) : Bool := recorder.workers.all (·.isFinished)

/-- The lines noted when a worker is stopped. -/
def stopNotes (worker : Worker) (history : History) : List LogLine :=
  let name := worker.name
  let packets := worker.packets
  let errors := worker.errors
  .debug s!"Stopping {name} ({packets} units, {errors} errors)" ::
    (CaptureLane.join.runOn ⟨worker, history⟩).2.2

/-- Stops all workers and waits for them. -/
def stop : Act (Recorder μ) Unit := do
  let recorder ← Act.state
  for worker in recorder.workers do
    if let some stream := recorder.streams[worker.stream]? then
      (stopNotes worker stream.history).forM Act.note
  Act.change fun recorder => { recorder with workers := [], stopping := true }

end Recorder

end InstantReplay
