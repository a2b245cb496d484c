import InstantReplay.Proofs.Save.Plan

/-!
# What a save comes to

A save of a saver whose histories hold nothing fails before the muxer is asked
(`Saver.saveTo_of_holdsNothing`). Any other save performs the plan of `Saver.clip`; it ends with
the report (`Saver.saveTo_of_performed`) or gives the file up (`Saver.saveTo_of_stopped`).

The tracks of the clip are the streams of `Saver.recorded`, and each is written with one amount
taken from all its times (`Saver.filter_writes_clip`).
-/

namespace InstantReplay

/-- The snapshot of a stream as it goes into a clip. -/
def FollowedStream.kept (startOnKeyframe : Bool) (stream : FollowedStream) : Snapshot :=
  { stream.history.snapshot with packets := stream.history.snapshot.kept startOnKeyframe }

/-- The track of the stream `index`: it counts the streams with packets before. -/
def FollowedStream.trackOf (streams : List FollowedStream) (index : Nat) : Nat :=
  ((streams.take index).filter fun stream => !stream.history.snapshot.isEmpty).length

namespace Saver

variable {μ : Type} {saver : Saver μ} {path : String} {timing : SaveTiming}

/-- The histories of all streams are empty. -/
def HoldsNothing (saver : Saver μ) : Prop :=
  ∀ stream ∈ saver.streams, stream.history.snapshot.packets = []

/-- The streams that have packets to save, in their order. -/
def recorded (saver : Saver μ) : List FollowedStream :=
  saver.streams.filter fun stream => !stream.history.snapshot.isEmpty

/-- The snapshots of all streams as they go into a clip. -/
def keptSnapshots (saver : Saver μ) : List Snapshot :=
  saver.streams.map (·.kept saver.startOnKeyframe)

/-- The time bases of all streams. -/
def bases (saver : Saver μ) : List TimeBase := saver.formats.map (·.timeBase)

/-- The clip of what all streams hold. -/
def clip (saver : Saver μ) : Draft :=
  ⟨Clip.rebase saver.keptSnapshots saver.bases, Clip.span saver.keptSnapshots saver.bases⟩

/-- The ticks taken from all times of a stream in the clip. -/
def amount (saver : Saver μ) (stream : FollowedStream) : Int64 :=
  Clip.shift saver.keptSnapshots saver.bases (stream.kept saver.startOnKeyframe)
    stream.format.timeBase

/-- The snapshot of a stream in the clip. -/
def moved (saver : Saver μ) (stream : FollowedStream) : Snapshot :=
  { stream.kept saver.startOnKeyframe with
    packets := (stream.kept saver.startOnKeyframe).packets.map (·.moveBack (saver.amount stream)) }

/-! ## The clip of a saver -/

theorem isEmpty_kept (startOnKeyframe : Bool) (stream : FollowedStream) :
    (stream.kept startOnKeyframe).isEmpty = stream.history.snapshot.isEmpty := by
  rw [Bool.eq_iff_iff, Snapshot.isEmpty, Snapshot.isEmpty, List.isEmpty_iff, List.isEmpty_iff]
  exact Snapshot.kept_eq_nil_iff

theorem isEmpty_moved (saver : Saver μ) (stream : FollowedStream) :
    (saver.moved stream).isEmpty = stream.history.snapshot.isEmpty := by
  rw [← isEmpty_kept saver.startOnKeyframe stream, moved, Snapshot.isEmpty, Snapshot.isEmpty,
    List.isEmpty_map]

theorem length_formats (saver : Saver μ) : saver.formats.length = saver.streams.length :=
  List.length_map _

theorem snapshots_clip (saver : Saver μ) :
    saver.clip.snapshots = saver.streams.map saver.moved := by
  refine List.ext_getElem? fun index => ?_
  rw [List.getElem?_map]
  rcases hstream : saver.streams[index]? with _ | stream
  · rw [List.getElem?_eq_none_iff] at hstream
    exact List.getElem?_eq_none (by rw [clip, Clip.length_rebase]; simpa [keptSnapshots])
  · exact Clip.getElem?_rebase (by rw [keptSnapshots, List.getElem?_map, hstream]; rfl)
      (by rw [bases, formats, List.map_map, List.getElem?_map, hstream]; rfl)

theorem length_snapshots_clip (saver : Saver μ) :
    saver.formats.length = saver.clip.snapshots.length := by
  rw [snapshots_clip, List.length_map, length_formats]

theorem trackOf_clip (saver : Saver μ) (index : Nat) :
    Draft.trackOf saver.clip.snapshots index = FollowedStream.trackOf saver.streams index := by
  rw [Draft.trackOf, snapshots_clip, ← List.map_take, List.filter_map, List.length_map,
    FollowedStream.trackOf]
  simp only [Function.comp_def, isEmpty_moved]

/-- A stream with packets is recorded to its track. -/
theorem recorded_trackOf {index : Nat} {stream : FollowedStream}
    (hstream : saver.streams[index]? = some stream)
    (hfull : stream.history.snapshot.isEmpty = false) :
    saver.recorded[FollowedStream.trackOf saver.streams index]? = some stream :=
  getElem?_filter_of_getElem? hstream (by simpa using hfull)

/-- **The packets written to a track are those kept of its stream**, each once, with one amount
taken from their times. -/
theorem filter_writes_clip {track : Nat} {stream : FollowedStream}
    (h : saver.recorded[track]? = some stream) :
    ((saver.clip.writes saver.formats).filter (·.stream == track)).Perm
      ((stream.kept saver.startOnKeyframe).packets.map fun packet =>
        (packet.moveBack (saver.amount stream)).onStream track) := by
  obtain ⟨index, hstream, hfull, hcount⟩ := exists_getElem?_of_filter h
  replace hcount := (saver.trackOf_clip index).trans hcount
  have hsnapshot : saver.clip.snapshots[index]? = some (saver.moved stream) := by
    rw [snapshots_clip, List.getElem?_map, hstream]
    rfl
  have hpackets : (saver.moved stream).packets ≠ [] := by
    rw [← isEmpty_moved saver stream, Snapshot.isEmpty] at hfull
    simpa using hfull
  have hperm := Draft.filter_writes_perm saver.length_snapshots_clip hsnapshot hpackets
  rw [hcount] at hperm
  refine hperm.trans (List.Perm.of_eq ?_)
  rw [moved, List.map_map]
  rfl

theorem all_isEmpty_kept (saver : Saver μ) :
    (saver.snapshots.map fun snapshot => (trimmed saver.startOnKeyframe snapshot).2) =
      saver.keptSnapshots := by
  simp only [snapshots, keptSnapshots, List.map_map, Function.comp_def, trimmed_eq]
  rfl

theorem holdsNothing_iff (saver : Saver μ) :
    saver.HoldsNothing ↔ saver.keptSnapshots.all (·.isEmpty) = true := by
  simp only [keptSnapshots, List.all_map, Function.comp_def, isEmpty_kept, List.all_eq_true]
  simp only [HoldsNothing, Snapshot.isEmpty, List.isEmpty_iff]

theorem draft_of_holdsNothing (h : saver.HoldsNothing) :
    saver.draft saver.snapshots = .error (.save "Nothing has been captured yet") := by
  rw [draft]
  simp only [all_isEmpty_kept]
  rw [if_pos (saver.holdsNothing_iff.1 h)]

theorem draft_of_not_holdsNothing (h : ¬ saver.HoldsNothing) :
    saver.draft saver.snapshots = .ok saver.clip := by
  rw [draft]
  simp only [all_isEmpty_kept]
  rw [if_neg (mt saver.holdsNothing_iff.2 h)]
  rfl

theorem streams_isEmpty_of_not_holdsNothing (h : ¬ saver.HoldsNothing) :
    saver.streams.isEmpty = false := by
  rw [List.isEmpty_eq_false_iff]
  intro hnil
  exact h (by simp [HoldsNothing, hnil])

/-- A save of nothing fails before the muxer is asked. -/
theorem saveTo_of_holdsNothing (h : saver.HoldsNothing) (path : String) (timing : SaveTiming) :
    (saver.saveTo path timing).result.isOk = false ∧ (saver.saveTo path timing).calls = [] ∧
      (saver.saveTo path timing).saver = saver ∧ (saver.saveTo path timing).command = none := by
  rw [saveTo]
  split
  · exact ⟨rfl, rfl, rfl, rfl⟩
  · simp [draft_of_holdsNothing h, Except.isOk, Except.toBool]

/-- A save whose plan is performed. -/
theorem saveTo_of_performed (h : ¬ saver.HoldsNothing) {calls : List MuxerCall} {state : μ}
    (hperform : saver.muxer.perform (saver.clip.plan saver.formats path) saver.state =
      ⟨.ok (), calls, state⟩) (timing : SaveTiming) :
    (saver.saveTo path timing).result =
        .ok ⟨path, saver.clip.packetsPerStream, saver.clip.durationMicros⟩ ∧
      (saver.saveTo path timing).calls = calls ∧
      (saver.saveTo path timing).saver =
        { saver with
          state := state
          streams := (release saver.streams saver.snapshots).map (·.2)
          saves := saver.saves + 1 } ∧
      (saver.saveTo path timing).command = saver.postSave.map (ShellQuote.command · path) := by
  rw [saveTo, if_neg (by simp [streams_isEmpty_of_not_holdsNothing h])]
  simp [draft_of_not_holdsNothing h, Muxer.performOrAbandon, hperform]

/-- A save whose plan is stopped by the muxer. -/
theorem saveTo_of_stopped (h : ¬ saver.HoldsNothing) {failure : Failure} {calls : List MuxerCall}
    {state : μ} (hperform : saver.muxer.perform (saver.clip.plan saver.formats path) saver.state =
      ⟨.error failure, calls, state⟩) (timing : SaveTiming) :
    (saver.saveTo path timing).result.isOk = false ∧
      (saver.saveTo path timing).calls = calls ++ [.abandon] ∧
      (saver.saveTo path timing).saver =
        { saver with state := (saver.muxer.answer .abandon state).2 } ∧
      (saver.saveTo path timing).command = none := by
  rw [saveTo, if_neg (by simp [streams_isEmpty_of_not_holdsNothing h])]
  simp [draft_of_not_holdsNothing h, Muxer.performOrAbandon, hperform, Except.isOk, Except.toBool]

/-! ## When a save succeeds -/

/-- The calls that write the clip of a saver to a file. -/
def clipCalls (saver : Saver μ) (path : String) : List MuxerCall :=
  (saver.clip.plan saver.formats path).map (·.call)

/-- **A save succeeds** if there is something to save and the muxer takes every call. -/
theorem isOk_saveTo_iff (saver : Saver μ) (path : String) (timing : SaveTiming) :
    (saver.saveTo path timing).result.isOk ↔
      ¬ saver.HoldsNothing ∧ saver.muxer.TakesAll saver.state [] (saver.clipCalls path) := by
  by_cases hnothing : saver.HoldsNothing
  · rw [(saveTo_of_holdsNothing hnothing path timing).1]
    simp [hnothing]
  have hnumbered := saver.clip.numbered_plan saver.formats path
  by_cases htakes : saver.muxer.TakesAll saver.state [] (saver.clipCalls path)
  · rw [(saveTo_of_performed hnothing
      (Muxer.perform_of_takesAll [] hnumbered htakes) timing).1]
    exact iff_of_true rfl ⟨hnothing, htakes⟩
  · obtain ⟨failure, taken, call, -, -, -, hperform⟩ :=
      Muxer.perform_of_not_takesAll [] hnumbered htakes
    rw [(saveTo_of_stopped hnothing hperform timing).1]
    exact iff_of_false (by simp) fun h => htakes h.2

/-- The calls of a save that succeeds are those that write its clip, whatever the muxer. -/
theorem calls_of_isOk (h : (saver.saveTo path timing).result.isOk) :
    (saver.saveTo path timing).calls = saver.clipCalls path := by
  obtain ⟨hnothing, htakes⟩ := (saver.isOk_saveTo_iff path timing).1 h
  exact (saveTo_of_performed hnothing (Muxer.perform_of_takesAll []
    (saver.clip.numbered_plan saver.formats path) htakes) timing).2.1

/-- An obliging muxer takes the calls of a clip. -/
theorem takesAll_of_obliging (h : saver.muxer.Obliging saver.state) (path : String) :
    saver.muxer.TakesAll saver.state [] (saver.clipCalls path) := by
  have hcreate : saver.clipCalls path = .create path :: (saver.clipCalls path).tail := by
    rw [clipCalls, Draft.calls_plan]
    rfl
  rw [hcreate]
  exact h path _ fun call hcall => Draft.isCreation_of_mem_tail_plan hcall

end Saver

/-! ## A saver for examples -/

/-- A stream whose history has taken packets of one byte with the times given, in their order. The
packets with times in `keys` are keyframes. -/
def FollowedStream.taking (format : StreamFormat) (window : Int64) (keys times : List Int64) :
    FollowedStream where
  format := format
  history := times.foldl
    (fun history time => (history.push ⟨⟨#[1]⟩, time, time, keys.contains time, 0⟩).2)
    (.withSlots format.kind 8 format.timeBase window)

/-- A saver that follows a video whose first packet is no keyframe, a silent audio stream, and one
that starts while the video runs. -/
def Saver.sample {μ : Type} (muxer : Muxer μ) (state : μ) : Saver μ where
  muxer := muxer
  state := state
  name := ⟨"clip", (TimeFormat.parse? "clip".toList).get (by decide +kernel), by simp⟩
  streams := [
    .taking (.video "h264" 64 48 30) 300 [15, 45] [0, 15, 30, 45],
    .taking (.audio "opus" 48000 2 960) 480000 [] [],
    .taking (.audio "aac" 44100 2 1024) 441000 [] [44100, 88200]]
  postSave := some "ls"

end InstantReplay
