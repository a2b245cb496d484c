import InstantReplay.Proofs.History.Numbers
import InstantReplay.Proofs.Save.Outcome

/-!
# Saves in phases

While a save is going on, packets keep coming. A save copies the histories one after the other,
writes the clip of the copies, and drops what was saved from one history after the other.
`SaveRun.step` takes one of these steps, or puts a call to one history; calls may fall between any
two steps of a save. A save that nothing falls into is `Saver.saveTo` (`SaveRun.after_undisturbed`).

`SaveRun.Moves` lists what a step can do to a run, and `SaveRun.Fate` what it does to one stream.
-/

namespace InstantReplay

/-- A clip that was written. -/
structure SavedClip where
  path : String
  /-- The streams as they were when they were copied. -/
  copies : List FollowedStream
  /-- The calls that wrote it. -/
  calls : List MuxerCall

/-- Where a run stands. -/
inductive SavePhase
  /-- Some streams have been copied, none between saves. -/
  | copying (copies : List FollowedStream)
  /-- The clip is written, and the streams before `next` have dropped what was saved. -/
  | releasing (clip : SavedClip) (next : Nat)

/-- A saver in use: the save that is going on, and the clips saved so far. -/
structure SaveRun (μ : Type) where
  saver : Saver μ
  phase : SavePhase := .copying []
  saved : List SavedClip := []

/-- What can happen in a run. -/
inductive SaveEvent
  /-- A call on the history of a stream. -/
  | ask (index : Nat) (call : HistoryCall)
  /-- The save copies the next stream. -/
  | copy
  /-- The save writes the clip of all copies to a file. -/
  | write (path : String)
  /-- The next stream drops what was saved; after the last one the save is over. -/
  | release

/-- The history without the packets of an earlier snapshot. -/
def History.releasing (history : History) (snapshot : Snapshot) : History :=
  match snapshot.lastSeq with
  | some seq => (history.discardThrough seq).2
  | none => history

/-- The stream with a changed history. -/
def FollowedStream.change (change : History → History) (stream : FollowedStream) :
    FollowedStream :=
  { stream with history := change stream.history }

namespace SaveRun

variable {μ : Type}

/-- The run with a changed history of the stream `index`. -/
def change (run : SaveRun μ) (index : Nat) (change : History → History) : SaveRun μ :=
  { run with saver := { run.saver with
      streams := run.saver.streams.modify index (FollowedStream.change change) } }

/-- The run after the clip of `copies` was written to a file, or could not be. -/
def write (run : SaveRun μ) (path : String) (copies : List FollowedStream) : SaveRun μ :=
  let copied := { run.saver with streams := copies }
  match copied.draft copied.snapshots with
  | .error _ => { run with phase := .copying [] }
  | .ok draft =>
    let made := copied.muxer.performOrAbandon (draft.plan copied.formats path) copied.state
    match made.result with
    | .error _ => { run with saver := { run.saver with state := made.state }, phase := .copying [] }
    | .ok () =>
      { saver := { run.saver with state := made.state, saves := run.saver.saves + 1 }
        phase := .releasing ⟨path, copies, made.calls⟩ 0
        saved := run.saved ++ [⟨path, copies, made.calls⟩] }

/-- A step of a run. Histories are not cleared, and only the save discards. What does not fit the
phase of the save changes nothing. -/
def step (run : SaveRun μ) : SaveEvent → SaveRun μ
  | .ask index call =>
    if call.feeds then run.change index fun history => (history.answer call).2 else run
  | .copy =>
    match run.phase with
    | .copying copies =>
      match run.saver.streams[copies.length]? with
      | some stream => { run with phase := .copying (copies ++ [stream]) }
      | none => run
    | .releasing _ _ => run
  | .write path =>
    match run.phase with
    | .copying copies =>
      if copies.length = run.saver.streams.length then run.write path copies else run
    | .releasing _ _ => run
  | .release =>
    match run.phase with
    | .copying _ => run
    | .releasing clip next =>
      match clip.copies[next]? with
      | some copy =>
        { run.change next (·.releasing copy.history.snapshot) with
          phase := .releasing clip (next + 1) }
      | none => { run with phase := .copying [] }

/-- The run after events. -/
def after (run : SaveRun μ) (events : List SaveEvent) : SaveRun μ := events.foldl step run

/-- A save that nothing falls into: every stream is copied, the clip is written, and every stream
is released. -/
def undisturbed (streams : List FollowedStream) (path : String) : List SaveEvent :=
  List.replicate streams.length .copy ++
    .write path :: List.replicate (streams.length + 1) .release

/-! ## The three ways a clip comes out -/

section Write

variable {run : SaveRun μ} {path : String} {copies : List FollowedStream}

theorem write_of_holdsNothing (h : ({ run.saver with streams := copies } : Saver μ).HoldsNothing) :
    run.write path copies = { run with phase := .copying [] } := by
  simp only [write, Saver.draft_of_holdsNothing h]

theorem write_of_performed (h : ¬ ({ run.saver with streams := copies } : Saver μ).HoldsNothing)
    {calls : List MuxerCall} {state : μ}
    (hperform : run.saver.muxer.perform
        (({ run.saver with streams := copies } : Saver μ).clip.plan (copies.map (·.format)) path)
        run.saver.state = ⟨.ok (), calls, state⟩) :
    run.write path copies =
      { saver := { run.saver with state := state, saves := run.saver.saves + 1 }
        phase := .releasing ⟨path, copies, calls⟩ 0
        saved := run.saved ++ [⟨path, copies, calls⟩] } := by
  simp only [write, Saver.draft_of_not_holdsNothing h, Saver.formats, Muxer.performOrAbandon,
    hperform]

theorem write_of_stopped (h : ¬ ({ run.saver with streams := copies } : Saver μ).HoldsNothing)
    {failure : Failure} {calls : List MuxerCall} {state : μ}
    (hperform : run.saver.muxer.perform
        (({ run.saver with streams := copies } : Saver μ).clip.plan (copies.map (·.format)) path)
        run.saver.state = ⟨.error failure, calls, state⟩) :
    run.write path copies =
      { run with
        saver := { run.saver with state := (run.saver.muxer.answer .abandon state).2 }
        phase := .copying [] } := by
  simp only [write, Saver.draft_of_not_holdsNothing h, Saver.formats, Muxer.performOrAbandon,
    hperform]

/-- **A clip is written by all the calls of its plan, or not at all.** -/
theorem write_cases (run : SaveRun μ) (path : String) (copies : List FollowedStream) :
    (∃ state, run.write path copies =
      { run with saver := { run.saver with state := state }, phase := .copying [] }) ∨
    ∃ state clip, clip.copies = copies ∧
      clip.calls = ({ run.saver with streams := copies } : Saver μ).clipCalls clip.path ∧
      run.write path copies =
        { saver := { run.saver with state := state, saves := run.saver.saves + 1 }
          phase := .releasing clip 0
          saved := run.saved ++ [clip] } := by
  by_cases hnothing : ({ run.saver with streams := copies } : Saver μ).HoldsNothing
  · exact Or.inl ⟨run.saver.state, write_of_holdsNothing hnothing⟩
  by_cases htakes : run.saver.muxer.TakesAll run.saver.state []
      (({ run.saver with streams := copies } : Saver μ).clipCalls path)
  · exact Or.inr ⟨_, ⟨path, copies, _⟩, rfl, rfl, write_of_performed hnothing
      (Muxer.perform_of_takesAll [] (Draft.numbered_plan _ _ path) htakes)⟩
  · obtain ⟨failure, taken, call, -, -, -, hperform⟩ :=
      Muxer.perform_of_not_takesAll [] (Draft.numbered_plan _ _ path) htakes
    exact Or.inl ⟨_, write_of_stopped hnothing hperform⟩

end Write

/-! ## A save that nothing falls into -/

theorem after_append (run : SaveRun μ) (first second : List SaveEvent) :
    run.after (first ++ second) = (run.after first).after second :=
  List.foldl_append

/-- Copying goes through the streams. -/
theorem after_copies (saver : Saver μ) (saved : List SavedClip) {count : Nat}
    (hcount : count ≤ saver.streams.length) :
    (SaveRun.mk saver (.copying []) saved).after (List.replicate count .copy) =
      ⟨saver, .copying (saver.streams.take count), saved⟩ := by
  induction count with
  | zero => rfl
  | succ count ih =>
    have hlength : (saver.streams.take count).length = count := by
      rw [List.length_take]
      omega
    rw [List.replicate_succ', after_append, ih (Nat.le_of_succ_le hcount)]
    show step ⟨saver, .copying (saver.streams.take count), saved⟩ .copy = _
    simp only [step]
    rw [hlength, List.getElem?_eq_getElem hcount, List.take_succ_eq_append_getElem hcount]

/-- The streams after the first `count` of them have dropped what they hold now. -/
def releasedTo (streams : List FollowedStream) (count : Nat) : List FollowedStream :=
  streams.mapIdx fun index stream =>
    if index < count then stream.change (·.releasing stream.history.snapshot) else stream

theorem modify_releasedTo {streams : List FollowedStream} {count : Nat} {copy : FollowedStream}
    (hcopy : streams[count]? = some copy) :
    (releasedTo streams count).modify count
        (FollowedStream.change (·.releasing copy.history.snapshot)) =
      releasedTo streams (count + 1) := by
  refine List.ext_getElem? fun index => ?_
  rw [List.getElem?_modify, releasedTo, releasedTo, List.getElem?_mapIdx, List.getElem?_mapIdx]
  rcases hstream : streams[index]? with _ | stream
  · rfl
  rcases Nat.lt_trichotomy index count with hlt | rfl | hgt
  · simp [hlt, Nat.lt_succ_of_lt hlt, Nat.ne_of_gt hlt]
  · rw [hcopy, Option.some.injEq] at hstream
    subst hstream
    simp
  · simp [Nat.not_lt_of_gt hgt, Nat.ne_of_lt hgt, Nat.not_lt.2 hgt]

/-- Releasing goes through the streams. -/
theorem after_releases (saver : Saver μ) (saved : List SavedClip) (clip : SavedClip) {count : Nat}
    (hcount : count ≤ clip.copies.length) :
    (SaveRun.mk { saver with streams := releasedTo clip.copies 0 } (.releasing clip 0) saved).after
        (List.replicate count .release) =
      ⟨{ saver with streams := releasedTo clip.copies count }, .releasing clip count, saved⟩ := by
  induction count with
  | zero => rfl
  | succ count ih =>
    have hcopy := List.getElem?_eq_getElem hcount
    rw [List.replicate_succ', after_append, ih (Nat.le_of_succ_le hcount),
      ← modify_releasedTo hcopy]
    show step ⟨_, .releasing clip count, saved⟩ .release = _
    simp only [step, hcopy, change]

theorem releasedTo_zero (streams : List FollowedStream) : releasedTo streams 0 = streams := by
  refine List.ext_getElem? fun index => ?_
  simp [releasedTo]

/-- Releasing every stream is what a save does at its end. -/
theorem releasedTo_length (saver : Saver μ) :
    releasedTo saver.streams saver.streams.length =
      (Saver.release saver.streams saver.snapshots).map (·.2) := by
  have hrelease : ∀ streams : List FollowedStream,
      (Saver.release streams (streams.map (·.history.snapshot))).map (·.2) =
        streams.map fun stream => stream.change (·.releasing stream.history.snapshot) := by
    intro streams
    induction streams with
    | nil => rfl
    | cons stream streams ih =>
      rw [List.map_cons, Saver.release, List.map_cons, List.map_cons, ih]
      congr 1
      rw [FollowedStream.change, History.releasing]
      rcases stream.history.snapshot.lastSeq with _ | seq <;> rfl
  rw [Saver.snapshots, hrelease]
  refine List.ext_getElem? fun index => ?_
  rw [releasedTo, List.getElem?_mapIdx, List.getElem?_map]
  rcases hstream : saver.streams[index]? with _ | stream
  · rfl
  · rw [Option.map_some, Option.map_some, if_pos (List.getElem?_eq_some_iff.1 hstream).1]

/-- A release between saves changes nothing. -/
theorem after_replicate_release (run : SaveRun μ) {copies : List FollowedStream}
    (hphase : run.phase = .copying copies) (count : Nat) :
    run.after (List.replicate count .release) = run := by
  induction count with
  | zero => rfl
  | succ count ih =>
    rw [List.replicate_succ', after_append, ih]
    show run.step .release = run
    simp only [step, hphase]

/-- When all streams are copied, the clip of the copies is written. -/
theorem after_copies_write (saver : Saver μ) (saved : List SavedClip) (path : String)
    (events : List SaveEvent) :
    (SaveRun.mk saver (.copying []) saved).after
        (List.replicate saver.streams.length .copy ++ .write path :: events) =
      ((SaveRun.mk saver (.copying saver.streams) saved).write path saver.streams).after
        events := by
  have hwrite : (SaveRun.mk saver (.copying saver.streams) saved).step (.write path) =
      (SaveRun.mk saver (.copying saver.streams) saved).write path saver.streams := by
    simp only [step, if_true]
  rw [after_append, after_copies saver saved (Nat.le_refl saver.streams.length), List.take_length,
    ← hwrite]
  rfl

/-- **A save that nothing falls into is `Saver.saveTo`**, whatever comes of it. -/
theorem after_undisturbed (saver : Saver μ) (saved : List SavedClip) (path : String)
    (timing : SaveTiming) :
    (SaveRun.mk saver (.copying []) saved).after (undisturbed saver.streams path) =
      ⟨(saver.saveTo path timing).saver, .copying [],
        if (saver.saveTo path timing).result.isOk then
          saved ++ [⟨path, saver.streams, (saver.saveTo path timing).calls⟩]
        else saved⟩ := by
  rw [undisturbed, after_copies_write]
  by_cases hnothing : saver.HoldsNothing
  · obtain ⟨hresult, -, hsaver, -⟩ := Saver.saveTo_of_holdsNothing hnothing path timing
    rw [write_of_holdsNothing hnothing, after_replicate_release _ rfl, hsaver, hresult]
    rfl
  rcases hperform : saver.muxer.perform (saver.clip.plan saver.formats path) saver.state with
    ⟨failure | _, calls, state⟩
  · obtain ⟨hresult, -, hsaver, -⟩ := Saver.saveTo_of_stopped hnothing hperform timing
    rw [write_of_stopped hnothing hperform, after_replicate_release _ rfl, hsaver, hresult]
    rfl
  · obtain ⟨hresult, hcalls, hsaver, -⟩ := Saver.saveTo_of_performed hnothing hperform timing
    have hreleases := after_releases { saver with state := state, saves := saver.saves + 1 }
      (saved ++ [⟨path, saver.streams, calls⟩]) ⟨path, saver.streams, calls⟩
      (Nat.le_refl saver.streams.length)
    rw [releasedTo_zero, releasedTo_length saver] at hreleases
    rw [write_of_performed hnothing hperform, List.replicate_succ', after_append, hreleases, hsaver,
      hresult, hcalls]
    show step ⟨_, .releasing ⟨path, saver.streams, calls⟩ saver.streams.length, _⟩ .release = _
    simp only [step, List.getElem?_eq_none (Nat.le_refl saver.streams.length)]
    rfl

/-! ## What a step does -/

section Moves

variable {run later : SaveRun μ} {event : SaveEvent} {index : Nat} {before after : FollowedStream}

/-- The step `event` leads from `run` to another run, and how it does. -/
inductive Moves (run : SaveRun μ) : SaveEvent → SaveRun μ → Prop
  | idle (event : SaveEvent) : Moves run event run
  | asked (place : Nat) (call : HistoryCall) (hcall : call.feeds) :
    Moves run (.ask place call) (run.change place fun history => (history.answer call).2)
  | copied (copies : List FollowedStream) (stream : FollowedStream)
    (hphase : run.phase = .copying copies)
    (hstream : run.saver.streams[copies.length]? = some stream) :
    Moves run .copy { run with phase := .copying (copies ++ [stream]) }
  | failed (path : String) (copies : List FollowedStream) (state : μ)
    (hphase : run.phase = .copying copies) :
    Moves run (.write path)
      { run with saver := { run.saver with state := state }, phase := .copying [] }
  | wrote (path : String) (state : μ) (clip : SavedClip) (hphase : run.phase = .copying clip.copies)
    (hlength : clip.copies.length = run.saver.streams.length)
    (hcalls : clip.calls =
      ({ run.saver with streams := clip.copies } : Saver μ).clipCalls clip.path) :
    Moves run (.write path)
      { saver := { run.saver with state := state, saves := run.saver.saves + 1 }
        phase := .releasing clip 0
        saved := run.saved ++ [clip] }
  | released (clip : SavedClip) (place : Nat) (copy : FollowedStream)
    (hphase : run.phase = .releasing clip place) (hcopy : clip.copies[place]? = some copy) :
    Moves run .release { run.change place (·.releasing copy.history.snapshot) with
      phase := .releasing clip (place + 1) }
  | ended (clip : SavedClip) (place : Nat) (hphase : run.phase = .releasing clip place)
    (hcopy : clip.copies[place]? = none) : Moves run .release { run with phase := .copying [] }

/-- **A step is one of these moves.** -/
theorem moves_step (run : SaveRun μ) (event : SaveEvent) : run.Moves event (run.step event) := by
  cases event with
  | ask place call =>
    rw [step]
    split
    · rename_i hcall
      exact .asked place call hcall
    · exact .idle _
  | copy =>
    rcases hphase : run.phase with copies | ⟨clip, place⟩
    · rcases hstream : run.saver.streams[copies.length]? with _ | stream
      · simpa only [step, hphase, hstream] using Moves.idle .copy
      · simpa only [step, hphase, hstream] using Moves.copied copies stream hphase hstream
    · simpa only [step, hphase] using Moves.idle .copy
  | write path =>
    rcases hphase : run.phase with copies | ⟨clip, place⟩
    · by_cases hlength : copies.length = run.saver.streams.length
      · simp only [step, hphase, if_pos hlength]
        obtain ⟨state, hwrite⟩ | ⟨state, clip, rfl, hcalls, hwrite⟩ := run.write_cases path copies
        · rw [hwrite]
          exact .failed path copies state hphase
        · rw [hwrite]
          exact .wrote path state clip hphase hlength hcalls
      · simpa only [step, hphase, if_neg hlength] using Moves.idle (.write path)
    · simpa only [step, hphase] using Moves.idle (.write path)
  | release =>
    rcases hphase : run.phase with copies | ⟨clip, place⟩
    · simpa only [step, hphase] using Moves.idle .release
    · rcases hcopy : clip.copies[place]? with _ | copy
      · simpa only [step, hphase, hcopy] using Moves.ended clip place hphase hcopy
      · simpa only [step, hphase, hcopy] using Moves.released clip place copy hphase hcopy

/-- What happens to one stream in a step: nothing, a call that brings packets, or the release of a
copy. -/
inductive Fate (run : SaveRun μ) (event : SaveEvent) (index : Nat)
    (before after : FollowedStream) : Prop
  | kept (hafter : after = before)
  | fed (call : HistoryCall) (hevent : event = .ask index call) (hcall : call.feeds)
    (hafter : after = before.change fun history => (history.answer call).2)
  | released (clip : SavedClip) (copy : FollowedStream) (hevent : event = .release)
    (hphase : run.phase = .releasing clip index) (hcopy : clip.copies[index]? = some copy)
    (hafter : after = before.change (·.releasing copy.history.snapshot))

/-- A changed stream is the one that the change is about, or stays. -/
theorem getElem?_change {place : Nat} {change : History → History}
    (hbefore : run.saver.streams[index]? = some before)
    (hafter : (run.change place change).saver.streams[index]? = some after) :
    after = if place = index then before.change change else before := by
  rw [SaveRun.change, List.getElem?_modify, hbefore] at hafter
  simpa using hafter.symm

theorem Moves.fate (h : run.Moves event later) (hbefore : run.saver.streams[index]? = some before)
    (hafter : later.saver.streams[index]? = some after) : run.Fate event index before after := by
  have hkept : later.saver.streams = run.saver.streams → run.Fate event index before after := by
    intro hsame
    rw [hsame, hbefore, Option.some.injEq] at hafter
    exact .kept hafter.symm
  cases h with
  | asked place call hcall =>
    have hchange := getElem?_change hbefore hafter
    split at hchange
    · rename_i hplace
      subst hplace
      exact .fed call rfl hcall hchange
    · exact .kept hchange
  | released clip place copy hphase hcopy =>
    have hchange := getElem?_change hbefore hafter
    split at hchange
    · rename_i hplace
      subst hplace
      exact .released clip copy rfl hphase hcopy hchange
    · exact .kept hchange
  | _ => exact hkept rfl

/-- The streams are the same ones after a step. -/
theorem Moves.exists_before (h : run.Moves event later)
    (hafter : later.saver.streams[index]? = some after) :
    ∃ before, run.saver.streams[index]? = some before := by
  have hlength : later.saver.streams.length = run.saver.streams.length := by
    cases h with
    | asked => exact List.length_modify _ _ _
    | released => exact List.length_modify _ _ _
    | _ => rfl
  have hlt := (List.getElem?_eq_some_iff.1 hafter).1
  rw [hlength] at hlt
  exact ⟨_, List.getElem?_eq_getElem hlt⟩

end Moves

end SaveRun

end InstantReplay
