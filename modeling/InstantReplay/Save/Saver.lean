import InstantReplay.History.Basic
import InstantReplay.Save.Clip
import InstantReplay.Save.Muxer
import InstantReplay.Save.ShellQuote
import InstantReplay.Template.Output
import InstantReplay.Text.Decimal
import InstantReplay.Text.Quoted

/-!
# Saving

A saver follows a number of streams. On a save it copies what their histories hold, makes a clip
of it and writes the clip through its muxer. Only when the file is complete does it drop the saved
packets from the histories; a save that fails leaves them as they were.
-/

namespace InstantReplay

/-- A stream whose history is saved. -/
structure FollowedStream where
  format : StreamFormat
  history : History

/-- What a save wrote. -/
structure SaveReport where
  path : String
  /-- Packets written for each stream followed. -/
  packetsPerStream : List Nat
  /-- The span of time saved, in microseconds. -/
  durationMicros : Int64
  deriving DecidableEq

/-- The number of packets written. -/
def SaveReport.packets (report : SaveReport) : Nat :=
  report.packetsPerStream.foldl (· + ·) 0

/-- The times a save took, as they are shown. -/
structure SaveTiming where
  copying : String
  total : String

/-- Writes the recent packets of all followed streams to a file on demand. -/
structure Saver (μ : Type) where
  muxer : Muxer μ
  state : μ
  name : OutputName
  streams : List FollowedStream := []
  /-- Whether a video track starts with a keyframe. -/
  startOnKeyframe : Bool := true
  /-- The command run after each save. -/
  postSave : Option String := none
  /-- The number of saves that succeeded. -/
  saves : Nat := 0

/-- What came of a save. -/
structure SaveOutcome (μ : Type) where
  result : Except Failure SaveReport
  saver : Saver μ
  calls : List MuxerCall := []
  log : List LogLine := []
  /-- The command to start. -/
  command : Option String := none

/-- The streams of a clip that is ready to be written. -/
structure Draft where
  /-- One snapshot per stream, moved to start at zero. -/
  snapshots : List Snapshot
  durationMicros : Int64
  deriving DecidableEq

namespace Draft

/-- The number of the track of stream `index`: empty streams get none. -/
def trackOf (snapshots : List Snapshot) (index : Nat) : Nat :=
  ((snapshots.take index).filter fun snapshot => !snapshot.isEmpty).length

/-- The declarations of the tracks, numbered from `track`. -/
def declarations : Nat → List StreamFormat → List Snapshot → List PlannedCall
  | track, format :: formats, snapshot :: snapshots =>
    if snapshot.isEmpty then declarations track formats snapshots
    else ⟨.declare format, some track⟩ :: declarations (track + 1) formats snapshots
  | _, _, _ => []

/-- The calls that write the clip. -/
def plan (draft : Draft) (formats : List StreamFormat) (path : String) : List PlannedCall :=
  let packets := Clip.interleave draft.snapshots (formats.map (·.timeBase))
  ⟨.create path, none⟩ :: declarations 0 formats draft.snapshots ++
    ⟨.header, none⟩ ::
    packets.map (fun packet =>
      ⟨.write (packet.onStream (trackOf draft.snapshots packet.stream)), none⟩) ++
    [⟨.finish, none⟩]

/-- The packets of each stream. -/
def packetsPerStream (draft : Draft) : List Nat := draft.snapshots.map (·.packets.length)

end Draft

namespace Saver

variable {μ : Type}

/-- Follows one more stream. -/
def follow (saver : Saver μ) (stream : FollowedStream) : Saver μ :=
  { saver with streams := saver.streams ++ [stream] }

/-- The saver with a command to run after each save; a blank one is none. -/
def withPostSave (saver : Saver μ) (command : Option String) : Saver μ :=
  { saver with postSave := command.filter fun text => !isAllBlank text }

/-- The formats of the streams followed. -/
def formats (saver : Saver μ) : List StreamFormat := saver.streams.map (·.format)

/-- What every history holds now. -/
def snapshots (saver : Saver μ) : List Snapshot := saver.streams.map (·.history.snapshot)

/-- Each snapshot as it goes into the clip, and how many packets were left out. -/
def trimmed (startOnKeyframe : Bool) (snapshot : Snapshot) : Nat × Snapshot :=
  if startOnKeyframe ∧ snapshot.kind = .video then Clip.trimToKeyframe snapshot else (0, snapshot)

/-- The clip made of snapshots, unless they hold nothing. -/
def draft (saver : Saver μ) (snapshots : List Snapshot) : Except Failure Draft :=
  let kept := snapshots.map fun snapshot => (trimmed saver.startOnKeyframe snapshot).2
  if kept.all (·.isEmpty) then .error (.save "Nothing has been captured yet")
  else
    let bases := saver.formats.map (·.timeBase)
    .ok ⟨Clip.rebase kept bases, Clip.span kept bases⟩

/-- Drops from each history the packets up to the one numbered last in its snapshot; the numbers
count the drops. -/
def release : List FollowedStream → List Snapshot → List (Option Nat × FollowedStream)
  | stream :: streams, snapshot :: snapshots =>
    let released :=
      match snapshot.lastSeq with
      | some seq =>
        let (dropped, history) := stream.history.discardThrough seq
        (some dropped, { stream with history := history })
      | none => (none, stream)
    released :: release streams snapshots
  | streams, _ => streams.map (none, ·)

/-- The lines noted while the clip is made. -/
def draftNotes (saver : Saver μ) (snapshots : List Snapshot) (timing : SaveTiming) :
    List LogLine :=
  let streams := snapshots.length
  let copying := timing.copying
  let dropped := snapshots.filterMap fun snapshot =>
    match (trimmed saver.startOnKeyframe snapshot).1 with
    | 0 => none
    | count => some (LogLine.debug s!"Dropped {count} units before the first keyframe")
  .debug s!"Snapshot of {streams} streams taken in {copying}" :: dropped

/-- The lines noted for streams that are left out of the clip. -/
def emptyNotes (formats : List StreamFormat) (draft : Draft) : List LogLine :=
  (formats.zip draft.snapshots).zipIdx.filterMap fun ((format, snapshot), index) =>
    if snapshot.isEmpty then
      let kind := format.kind.text
      some (.warn s!"Stream {index} ({kind}) has no data, leaving it out")
    else none

/-- The lines noted for the packets dropped after a save. -/
def releaseNotes (released : List (Option Nat × FollowedStream)) : List LogLine :=
  released.filterMap fun (dropped, stream) => dropped.map fun count =>
    let kind := stream.format.kind.text
    .debug s!"Released {count} saved {kind} units"

/-- The line noted for a complete save. -/
def savedNote (report : SaveReport) (timing : SaveTiming) : LogLine :=
  let seconds := secondsText report.durationMicros
  let path := quoted report.path
  let packets := report.packets
  let total := timing.total
  .info s!"Saved {seconds}s replay to {path} ({packets} units) in {total}"

/-- Writes what the histories hold to the file `path`. -/
def saveTo (saver : Saver μ) (path : String) (timing : SaveTiming) : SaveOutcome μ :=
  if saver.streams.isEmpty then
    { result := .error (.save "No streams are being recorded"), saver := saver }
  else
    let snapshots := saver.snapshots
    let made := saver.draftNotes snapshots timing
    match saver.draft snapshots with
    | .error failure => { result := .error failure, saver := saver, log := made }
    | .ok draft =>
      let empties := emptyNotes saver.formats draft
      let written := saver.muxer.performOrAbandon (draft.plan saver.formats path) saver.state
      let saver := { saver with state := written.state }
      match written.result with
      | .error failure =>
        let shown := quoted path
        let reason := failure.message
        { result := .error (.during s!"Failed to save {shown}" failure)
          saver := saver
          calls := written.calls
          log := made ++ empties ++ [.error s!"Save to {shown} failed: {reason}"] }
      | .ok () =>
        let report : SaveReport := ⟨path, draft.packetsPerStream, draft.durationMicros⟩
        let released := release saver.streams snapshots
        { result := .ok report
          saver := { saver with
            streams := released.map (·.2)
            saves := saver.saves + 1 }
          calls := written.calls
          log := made ++ empties ++ savedNote report timing :: releaseNotes released
          command := saver.postSave.map (ShellQuote.command · path) }

end Saver

end InstantReplay
