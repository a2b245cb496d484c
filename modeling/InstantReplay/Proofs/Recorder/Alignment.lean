import InstantReplay.Proofs.Act
import InstantReplay.Proofs.Save.Outcome
import InstantReplay.Recorder.Basic
import Mathlib.Data.List.Induction
import Mathlib.Data.List.Perm.Subperm

/-!
# The lists of a recorder

A recorder has three lists about its streams: the streams that the saver follows, the histories and
the workers. What a call for a stream does to them is one of three things (`Recorder.Adds`): a
stream that is turned down changes none of them, a stream that is refused its thread stays with the
saver alone, and any other has a place in all three. So the lists stay aligned as long as no thread
is refused, and only so long (`Recorder.accounts_addAll`).
-/

namespace InstantReplay

/-! ## What a worker keeps -/

namespace CaptureLane

variable {lane later last : CaptureLane}

/-- The lane of the same stream, at a later time. -/
structure Continues (lane later : CaptureLane) : Prop where
  stream : later.worker.stream = lane.worker.stream
  worker_kind : later.worker.kind = lane.worker.kind
  history_kind : later.history.kind = lane.history.kind

theorem Continues.refl (lane : CaptureLane) : lane.Continues lane := ⟨rfl, rfl, rfl⟩

theorem Continues.trans (h : lane.Continues later) (hlast : later.Continues last) :
    lane.Continues last :=
  ⟨hlast.stream.trans h.stream, hlast.worker_kind.trans h.worker_kind,
    hlast.history_kind.trans h.history_kind⟩

theorem exists_take (pull : Pull) (scene : Scene CaptureLane) :
    ∃ later, (take pull).run.run scene = (.ok (), later) ∧ scene.state.Continues later.state := by
  rw [take, Act.run_bind_ok (Act.run_state scene)]
  cases pull with
  | packet packet =>
    by_cases hfailing : scene.state.worker.failing
    · simp only [if_pos hfailing]
      exact ⟨_, rfl, ⟨rfl, rfl, rfl⟩⟩
    · simp only [if_neg hfailing]
      exact ⟨_, rfl, ⟨rfl, rfl, rfl⟩⟩
  | nothing => exact ⟨scene, rfl, .refl _⟩
  | failed failure =>
    by_cases hfailing : scene.state.worker.failing
    · simp only [if_pos hfailing]
      exact ⟨_, rfl, ⟨rfl, rfl, rfl⟩⟩
    · simp only [if_neg hfailing]
      exact ⟨_, rfl, ⟨rfl, rfl, rfl⟩⟩
  | broke => exact ⟨_, rfl, ⟨rfl, rfl, rfl⟩⟩

theorem exists_run (pulls : List Pull) (scene : Scene CaptureLane) :
    ∃ later, (run pulls).run.run scene = (.ok (), later) ∧ scene.state.Continues later.state := by
  induction pulls generalizing scene with
  | nil => exact ⟨scene, rfl, .refl _⟩
  | cons pull pulls ih =>
    rw [run, Act.run_bind_ok (Act.run_state scene)]
    by_cases hfinished : scene.state.worker.isFinished
    · rw [if_pos hfinished]
      exact ⟨scene, rfl, .refl _⟩
    · rw [if_neg hfinished]
      obtain ⟨middle, htake, hmiddle⟩ := exists_take pull scene
      obtain ⟨later, hrun, hlater⟩ := ih middle
      exact ⟨later, by rw [Act.run_bind_ok htake, hrun], hmiddle.trans hlater⟩

theorem exists_begin (pulls : List Pull) (scene : Scene CaptureLane) :
    ∃ later, (begin pulls).run.run scene = (.ok (), later) ∧
      scene.state.Continues later.state := by
  rw [begin, Act.run_bind_ok (Act.run_state scene), Act.run_bind_ok (Act.run_note _ _),
    Act.run_bind_ok (Act.run_note _ _)]
  exact exists_run pulls _

theorem exists_stop (scene : Scene CaptureLane) :
    ∃ later, stop.run.run scene = (.ok (), later) ∧ scene.state.Continues later.state := by
  rw [stop, Act.run_bind_ok (Act.run_state scene)]
  by_cases hrunning : scene.state.worker.life = .running
  · simp only [if_pos hrunning]
    exact ⟨_, rfl, ⟨rfl, rfl, rfl⟩⟩
  · simp only [if_neg hrunning]
    exact ⟨scene, rfl, .refl _⟩

/-- What a new worker does until it waits for its source, or is told to stop. -/
theorem exists_work (pulls : List Pull) (stopping : Bool) (lane : CaptureLane) :
    ∃ later lines, (do
        begin (if stopping then [] else pulls)
        if stopping then stop : Act CaptureLane Unit).runOn lane = (.ok (), later, lines) ∧
      lane.Continues later := by
  obtain ⟨middle, hbegin, hmiddle⟩ := exists_begin (if stopping then [] else pulls) { state := lane }
  rw [Act.runOn, Act.run_bind_ok hbegin]
  cases stopping with
  | false => exact ⟨middle.state, middle.log, rfl, hmiddle⟩
  | true =>
    obtain ⟨later, hstop, hlater⟩ := exists_stop middle
    exact ⟨later.state, later.log, by rw [if_pos rfl, hstop], hmiddle.trans hlater⟩

end CaptureLane

namespace Recorder

variable {μ : Type} {recorder later : Recorder μ}

/-- The refusals of the coming requests for threads. -/
def refusals (recorder : Recorder μ) : List Errno := recorder.desk.world.threadRefusals

@[simp] theorem streams_withStreams (recorder : Recorder μ) (streams : List FollowedStream) :
    (recorder.withStreams streams).streams = streams :=
  rfl

@[simp] theorem kept_withStreams (recorder : Recorder μ) (streams : List FollowedStream) :
    (recorder.withStreams streams).kept = recorder.kept :=
  rfl

@[simp] theorem workers_withStreams (recorder : Recorder μ) (streams : List FollowedStream) :
    (recorder.withStreams streams).workers = recorder.workers :=
  rfl

@[simp] theorem refusals_withStreams (recorder : Recorder μ) (streams : List FollowedStream) :
    (recorder.withStreams streams).refusals = recorder.refusals :=
  rfl

theorem exists_threadRefusal (scene : Scene (Recorder μ)) :
    ∃ later log, threadRefusal.run.run scene = (.ok scene.state.refusals.head?, ⟨later, log⟩) ∧
      later.refusals = scene.state.refusals.tail ∧ later.streams = scene.state.streams ∧
      later.kept = scene.state.kept ∧ later.workers = scene.state.workers :=
  ⟨_, _, rfl, rfl, rfl, rfl, rfl⟩

theorem modify_concat_length {α : Type} (list : List α) (last : α) (f : α → α) :
    (list ++ [last]).modify list.length f = list ++ [f last] :=
  List.modifyTailIdx_add (List.modifyHead f) 0 list [last]

/-- What a call for a stream with this format comes to: pictures after sound are rejected, a thread
is refused, or the stream's worker is started. -/
inductive Adds (recorder : Recorder μ) (format : StreamFormat) :
    Except Failure Nat → Recorder μ → Prop
  | rejected (hvideo : format.kind = .video)
      (haudio : recorder.histories.any (·.kind = .audio)) :
      Adds recorder format (.error (.config "Video streams must be added before audio")) recorder
  | refused {later : Recorder μ} (stream : FollowedStream) {code : Errno}
      (hrefusals : recorder.refusals = code :: later.refusals)
      (hstreams : later.streams = recorder.streams ++ [stream])
      (hformat : stream.format = format) (hkind : stream.history.kind = format.kind)
      (hkept : later.kept = recorder.kept) (hworkers : later.workers = recorder.workers)
      (reason : String) :
      Adds recorder format (.error (.capture reason)) later
  | started {later : Recorder μ} (stream : FollowedStream) (worker : Worker)
      (horder : ¬ (format.kind = .video ∧ recorder.histories.any (·.kind = .audio)))
      (hrefusals : recorder.refusals = []) (hlater : later.refusals = [])
      (hstreams : later.streams = recorder.streams ++ [stream])
      (hformat : stream.format = format) (hkind : stream.history.kind = format.kind)
      (hkept : later.kept = recorder.kept ++ [recorder.streams.length])
      (hworkers : later.workers = recorder.workers ++ [worker])
      (hworker : worker.stream = recorder.streams.length ∧ worker.kind = format.kind) :
      Adds recorder format (.ok recorder.streams.length) later

/-- A call for a stream is run. -/
theorem exists_add (format : StreamFormat) (source : String) (pulls : List Pull)
    (recorder : Recorder μ) :
    ∃ result later log, (add format source pulls).runOn recorder = (result, later, log) ∧
      Adds recorder format result later := by
  rw [Act.runOn, add, Act.run_bind_ok (Act.run_state _)]
  by_cases horder : format.kind = .video ∧ recorder.histories.any (·.kind = .audio)
  · simp only [if_pos horder]
    exact ⟨_, _, _, rfl, .rejected horder.1 horder.2⟩
  simp only [if_neg horder]
  rw [Act.run_bind_ok (Act.run_note _ _), Act.run_bind_ok (Act.run_change _ _)]
  obtain ⟨asked, notes, hasked, hrefusals, hstreams, hkept, hworkers⟩ :=
    exists_threadRefusal ⟨recorder.withStreams (recorder.streams ++
      [⟨format, History.ofFormat format recorder.seconds⟩]), [streamNote recorder.kept.length format
        (History.ofFormat format recorder.seconds) recorder.seconds]⟩
  simp only [streams_withStreams, kept_withStreams, workers_withStreams, refusals_withStreams]
    at hasked hrefusals hstreams hkept hworkers
  dsimp only [List.nil_append]
  rw [Act.run_bind_ok hasked]
  -- The saver follows the stream already, whether its worker gets a thread or not.
  cases hthreads : recorder.refusals with
  | cons code rest =>
    rw [List.head?_cons, CaptureLane.start, Act.run_bind_error (Act.run_ofExcept _ _)]
    rw [hthreads, List.tail_cons] at hrefusals
    exact ⟨_, _, _, rfl, .refused _ (hrefusals ▸ hthreads) hstreams rfl rfl hkept hworkers _⟩
  | nil =>
    rw [List.head?_nil, CaptureLane.start, Act.run_bind_ok (Act.run_ofExcept _ _)]
    obtain ⟨lane, lines, hlane, hcontinues⟩ := CaptureLane.exists_work pulls recorder.stopping
      ⟨⟨recorder.streams.length, (History.ofFormat format recorder.seconds).kind, source, 0, 0,
        false, 50, [], .running⟩, History.ofFormat format recorder.seconds⟩
    rw [hlane, Act.run_bind_ok (Act.run_forM_note _ _), Act.run_bind_ok (Act.run_change _ _)]
    rw [hthreads, List.tail_nil] at hrefusals
    refine ⟨_, _, _, rfl, .started ⟨format, lane.history⟩ lane.worker horder hthreads hrefusals ?_
      rfl hcontinues.history_kind (congrArg (· ++ _) hkept) (congrArg (· ++ _) hworkers)
      ⟨hcontinues.stream, hcontinues.worker_kind⟩⟩
    show asked.streams.modify _ _ = _
    rw [hstreams, modify_concat_length]

/-! ## What holds at any time -/

/-- The histories and the workers are of the same streams, in the order in which the saver follows
them, and videos come before audio. -/
structure Sound (recorder : Recorder μ) : Prop where
  lt_length : ∀ index ∈ recorder.kept, index < recorder.streams.length
  increasing : recorder.kept.Pairwise (· < ·)
  workers_eq : recorder.workers.map (·.stream) = recorder.kept
  kinds_eq : recorder.workers.map (·.kind) = recorder.histories.map (·.kind)
  stream_kinds : ∀ stream ∈ recorder.streams, stream.history.kind = stream.format.kind
  ordered : (recorder.histories.map (·.kind)).Pairwise fun first second =>
    second = .video → first = .video

variable {format : StreamFormat} {result : Except Failure Nat}

/-- A further stream of the saver is no other stream's history. -/
theorem filterMap_concat {streams : List FollowedStream} {indices : List Nat}
    (h : ∀ index ∈ indices, index < streams.length) (stream : FollowedStream) :
    (indices.filterMap fun index => ((streams ++ [stream])[index]?).map (·.history)) =
      indices.filterMap fun index => (streams[index]?).map (·.history) :=
  List.filterMap_congr fun index hindex => by rw [List.getElem?_append_left (h index hindex)]

theorem filterMap_range (streams : List FollowedStream) :
    ((List.range streams.length).filterMap fun index => (streams[index]?).map (·.history)) =
      streams.map (·.history) := by
  induction streams using List.reverseRecOn with
  | nil => rfl
  | append_singleton streams stream ih =>
    have hrange : ∀ index ∈ List.range streams.length, index < streams.length := fun _ hindex =>
      List.mem_range.1 hindex
    rw [List.length_append, List.length_singleton, List.range_succ, List.filterMap_append,
      filterMap_concat hrange, ih, List.map_append]
    simp

theorem Sound.histories_refused (h : recorder.Sound) {stream : FollowedStream}
    (hstreams : later.streams = recorder.streams ++ [stream])
    (hkept : later.kept = recorder.kept) : later.histories = recorder.histories := by
  rw [histories, hkept, hstreams, filterMap_concat h.lt_length, histories]

theorem Sound.histories_started (h : recorder.Sound) {stream : FollowedStream}
    (hstreams : later.streams = recorder.streams ++ [stream])
    (hkept : later.kept = recorder.kept ++ [recorder.streams.length]) :
    later.histories = recorder.histories ++ [stream.history] := by
  rw [histories, hkept, hstreams, List.filterMap_append, filterMap_concat h.lt_length, histories]
  simp

theorem Sound.kinds_concat (h : recorder.Sound) {stream : FollowedStream}
    (hkind : stream.history.kind = stream.format.kind) :
    ∀ other ∈ recorder.streams ++ [stream], other.history.kind = other.format.kind := by
  rw [List.forall_mem_append, List.forall_mem_singleton]
  exact ⟨h.stream_kinds, hkind⟩

theorem Sound.ordered_concat (h : recorder.Sound) {kind : StreamKind}
    (horder : ¬ (kind = .video ∧ recorder.histories.any (·.kind = .audio))) :
    (recorder.histories.map (·.kind) ++ [kind]).Pairwise fun first second =>
      second = .video → first = .video := by
  rw [List.pairwise_append]
  refine ⟨h.ordered, List.pairwise_singleton _ _, ?_⟩
  intro first hfirst last hlast hvideo
  obtain rfl := List.mem_singleton.1 hlast
  obtain ⟨history, hhistory, rfl⟩ := List.mem_map.1 hfirst
  cases hkind : history.kind with
  | video => rfl
  | audio =>
    have haudio : recorder.histories.any (·.kind = .audio) :=
      List.any_eq_true.2 ⟨history, hhistory, by simp [hkind]⟩
    exact absurd ⟨hvideo, haudio⟩ horder

/-- **A call keeps the lists in order**, whatever it comes to. -/
theorem Adds.sound (hadds : recorder.Adds format result later) (h : recorder.Sound) :
    later.Sound := by
  cases hadds with
  | rejected => exact h
  | refused stream _ hstreams hformat hkind hkept hworkers =>
    have hhistories := h.histories_refused hstreams hkept
    refine ⟨?_, by rw [hkept]; exact h.increasing, by rw [hworkers, hkept]; exact h.workers_eq,
      by rw [hworkers, hhistories]; exact h.kinds_eq, ?_, by rw [hhistories]; exact h.ordered⟩
    · intro index hindex
      have hlt := h.lt_length index (hkept ▸ hindex)
      rw [hstreams, List.length_append, List.length_singleton]
      omega
    · rw [hstreams]
      exact h.kinds_concat (hkind.trans (congrArg _ hformat.symm))
  | started stream worker horder _ _ hstreams hformat hkind hkept hworkers hworker =>
    have hhistories := h.histories_started hstreams hkept
    refine ⟨?_, ?_, ?_, ?_, ?_, ?_⟩
    · rw [hstreams, hkept, List.length_append, List.length_singleton, List.forall_mem_append,
        List.forall_mem_singleton]
      exact ⟨fun index hindex => Nat.lt_succ_of_lt (h.lt_length index hindex), Nat.lt_succ_self _⟩
    · rw [hkept, List.pairwise_append]
      refine ⟨h.increasing, List.pairwise_singleton _ _, ?_⟩
      intro index hindex last hlast
      rw [List.mem_singleton.1 hlast]
      exact h.lt_length index hindex
    · rw [hworkers, hkept, List.map_append, h.workers_eq, List.map_singleton, hworker.1]
    · rw [hworkers, hhistories, List.map_append, List.map_append, h.kinds_eq, List.map_singleton,
        List.map_singleton, hworker.2, hkind]
    · rw [hstreams]
      exact h.kinds_concat (hkind.trans (congrArg _ hformat.symm))
    · rw [hhistories, List.map_append, List.map_singleton, hkind]
      exact h.ordered_concat horder

/-! ## Alignment -/

/-- All three lists are of the same streams. -/
structure Aligned (recorder : Recorder μ) : Prop where
  histories_eq : recorder.histories = recorder.streams.map (·.history)
  workers_eq : recorder.workers.map (·.stream) = List.range recorder.streams.length
  kinds_eq : recorder.workers.map (·.kind) = recorder.streams.map (·.format.kind)
  ordered : (recorder.streams.map (·.format.kind)).Pairwise fun first second =>
    second = .video → first = .video

/-- The indices of all streams are kept if there are as many. -/
theorem Sound.kept_eq_range (h : recorder.Sound)
    (hlength : recorder.streams.length = recorder.kept.length) :
    recorder.kept = List.range recorder.streams.length := by
  -- Increasing indices below their own number leave none out.
  have hnodup : recorder.kept.Nodup := h.increasing.imp Nat.ne_of_lt
  have hsub : recorder.kept ⊆ List.range recorder.streams.length := fun index hindex =>
    List.mem_range.2 (h.lt_length index hindex)
  have hperm := (List.subperm_of_subset hnodup hsub).perm_of_length_le (by
    rw [List.length_range, hlength])
  exact hperm.eq_of_pairwise (fun a b _ _ hab hba => absurd hba (Nat.lt_asymm hab)) h.increasing
    List.pairwise_lt_range

theorem Sound.aligned_iff (h : recorder.Sound) :
    recorder.Aligned ↔ recorder.streams.length = recorder.kept.length := by
  constructor
  · intro haligned
    have hlength := congrArg List.length haligned.workers_eq
    rw [h.workers_eq, List.length_range] at hlength
    exact hlength.symm
  intro hlength
  have hkept := h.kept_eq_range hlength
  have hhistories : recorder.histories = recorder.streams.map (·.history) := by
    rw [histories, hkept, filterMap_range]
  have hkinds : recorder.histories.map (·.kind) = recorder.streams.map (·.format.kind) := by
    rw [hhistories, List.map_map]
    exact List.map_congr_left h.stream_kinds
  exact ⟨hhistories, by rw [h.workers_eq, hkept], by rw [h.kinds_eq, hkinds],
    by rw [← hkinds]; exact h.ordered⟩

theorem Aligned.length_eq (h : recorder.Aligned) :
    recorder.streams.length = recorder.histories.length ∧
      recorder.streams.length = recorder.workers.length := by
  have hworkers := congrArg List.length h.workers_eq
  rw [List.length_map, List.length_range] at hworkers
  rw [h.histories_eq, List.length_map]
  exact ⟨rfl, hworkers.symm⟩

/-! ## Calls in turn -/

/-- A call for a stream. -/
structure StreamCall where
  format : StreamFormat
  source : String
  pulls : List Pull

/-- Makes a call. -/
def answer (call : StreamCall) (recorder : Recorder μ) : Except Failure Nat × Recorder μ :=
  let (result, later, _) := (add call.format call.source call.pulls).runOn recorder
  (result, later)

/-- Makes calls in turn. -/
def answerAll : List StreamCall → Recorder μ → List (Except Failure Nat) × Recorder μ
  | [], recorder => ([], recorder)
  | call :: calls, recorder =>
    let (result, later) := recorder.answer call
    let (results, last) := answerAll calls later
    (result :: results, last)

theorem adds_answer (call : StreamCall) (recorder : Recorder μ) :
    recorder.Adds call.format (recorder.answer call).1 (recorder.answer call).2 := by
  obtain ⟨result, later, log, hadd, hadds⟩ := exists_add call.format call.source call.pulls recorder
  rw [answer, hadd]
  exact hadds

/-- How the lists of a recorder grow, and the refusals of threads become fewer. -/
structure Grows (recorder : Recorder μ) (results : List (Except Failure Nat))
    (later : Recorder μ) : Prop where
  kept_eq : later.kept = recorder.kept ++ results.filterMap Except.toOption
  refusals : ∃ used, recorder.refusals = used ++ later.refusals ∧
    later.streams.length =
      recorder.streams.length + (results.filterMap Except.toOption).length + used.length

theorem Adds.grows (h : recorder.Adds format result later) : recorder.Grows [result] later := by
  cases h with
  | rejected => exact ⟨by simp [Except.toOption], [], by simp [Except.toOption]⟩
  | @refused _ stream code hrefusals hstreams _ _ hkept =>
    exact ⟨by simp [hkept, Except.toOption], [code], hrefusals, by simp [hstreams, Except.toOption]⟩
  | started _ _ _ hrefusals hlater hstreams _ _ hkept =>
    exact ⟨by simp [hkept, Except.toOption], [], by simp [hrefusals, hlater],
      by simp [hstreams, Except.toOption]⟩

theorem Grows.cons {results : List (Except Failure Nat)} {last : Recorder μ}
    (h : recorder.Grows [result] later) (hrest : later.Grows results last) :
    recorder.Grows (result :: results) last := by
  obtain ⟨used, hused, hlength⟩ := h.refusals
  obtain ⟨more, hmore, hlast⟩ := hrest.refusals
  have hsplit : (result :: results).filterMap Except.toOption =
      [result].filterMap Except.toOption ++ results.filterMap Except.toOption := by
    rw [← List.filterMap_append, List.singleton_append]
  refine ⟨by rw [hrest.kept_eq, h.kept_eq, hsplit, List.append_assoc], used ++ more,
    by rw [hused, hmore, List.append_assoc], ?_⟩
  rw [hlast, hlength, hsplit, List.length_append, List.length_append]
  omega

theorem sound_answerAll (h : recorder.Sound) (calls : List StreamCall) :
    (answerAll calls recorder).2.Sound ∧
      recorder.Grows (answerAll calls recorder).1 (answerAll calls recorder).2 := by
  induction calls generalizing recorder with
  | nil => exact ⟨h, by simp [answerAll], [], by simp [answerAll]⟩
  | cons call calls ih =>
    have hadds := adds_answer call recorder
    obtain ⟨hsound, hgrows⟩ := ih (hadds.sound h)
    exact ⟨hsound, hadds.grows.cons hgrows⟩

/-- A recorder without streams. -/
structure IsNew (recorder : Recorder μ) : Prop where
  streams : recorder.streams = []
  kept : recorder.kept = []
  workers : recorder.workers = []

theorem IsNew.sound (h : recorder.IsNew) : recorder.Sound := by
  have hhistories : recorder.histories = [] := by rw [histories, h.kept, List.filterMap_nil]
  refine ⟨by simp [h.kept], by simp [h.kept], by simp [h.kept, h.workers],
    by simp [h.workers, hhistories], by simp [h.streams], by simp [hhistories]⟩

/-- What one call does to the lists: it gives the stream's place with the saver and adds an entry
to all three lists, at that place if they were aligned, or it fails and adds none, unless a thread
was refused. -/
structure Settles (recorder : Recorder μ) (result : Except Failure Nat) (later : Recorder μ) :
    Prop where
  ok : ∀ index, result = .ok index → index = recorder.streams.length ∧
    later.streams.length = recorder.streams.length + 1 ∧
    later.histories.length = recorder.histories.length + 1 ∧
    later.workers.length = recorder.workers.length + 1 ∧
    (recorder.Aligned → index = recorder.histories.length ∧ index = recorder.workers.length)
  error : ∀ failure, result = .error failure →
    later.histories = recorder.histories ∧ later.workers = recorder.workers ∧
    ((failure = .config "Video streams must be added before audio" ∧
        later.streams = recorder.streams) ∨
      ∃ reason code stream, failure = .capture reason ∧
        recorder.refusals = code :: later.refusals ∧
        later.streams = recorder.streams ++ [stream])

theorem Adds.settles (hadds : recorder.Adds format result later) (h : recorder.Sound) :
    recorder.Settles result later := by
  cases hadds with
  | rejected =>
    refine ⟨nofun, fun failure hfailure => ?_⟩
    cases hfailure
    exact ⟨rfl, rfl, Or.inl ⟨rfl, rfl⟩⟩
  | refused stream hrefusals hstreams _ _ hkept hworkers reason =>
    refine ⟨nofun, fun failure hfailure => ?_⟩
    cases hfailure
    exact ⟨h.histories_refused hstreams hkept, hworkers,
      Or.inr ⟨reason, _, stream, rfl, hrefusals, hstreams⟩⟩
  | started stream worker _ _ _ hstreams _ _ hkept hworkers =>
    refine ⟨fun index hindex => ?_, nofun⟩
    cases hindex
    rw [h.histories_started hstreams hkept, hstreams, hworkers]
    exact ⟨rfl, List.length_append, List.length_append, List.length_append, fun haligned =>
      haligned.length_eq⟩

/-- What calls for streams have come to on a new recorder. -/
structure Accounts (recorder : Recorder μ) (results : List (Except Failure Nat))
    (later : Recorder μ) : Prop where
  sound : later.Sound
  /-- The calls that succeeded gave the streams of the histories and the workers. -/
  kept_eq : later.kept = results.filterMap Except.toOption
  aligned_iff : later.Aligned ↔ later.refusals = recorder.refusals
  settles : ∀ call : StreamCall, later.Settles (later.answer call).1 (later.answer call).2

/-- **The lists of a recorder stay aligned as long as no thread is refused**, and only so long. -/
theorem accounts_answerAll (hnew : recorder.IsNew) (calls : List StreamCall) :
    recorder.Accounts (answerAll calls recorder).1 (answerAll calls recorder).2 := by
  obtain ⟨hsound, hgrows⟩ := sound_answerAll hnew.sound calls
  have hkept := hgrows.kept_eq
  rw [hnew.kept, List.nil_append] at hkept
  refine ⟨hsound, hkept, ?_, fun call => (adds_answer call _).settles hsound⟩
  obtain ⟨used, hused, hlength⟩ := hgrows.refusals
  rw [hnew.streams, List.length_nil, Nat.zero_add, ← hkept] at hlength
  rw [hsound.aligned_iff, hlength, hused]
  constructor
  · intro hnone
    rw [List.length_eq_zero_iff.1 (by omega : used.length = 0), List.nil_append]
  · intro hsame
    have hnone := congrArg List.length hsame
    rw [List.length_append] at hnone
    omega

/-- A new recorder that is refused some threads, asked for a stream of sound and one of pictures. -/
def sampleRecorder (refusals : List Errno) : Recorder Nat where
  seconds := 1
  desk :=
    { saver := { Saver.sample Muxer.counting 0 with streams := [] }
      world := { files := ⟨[], []⟩, searchPath := "/bin", threadRefusals := refusals }
      home := ⟨none, none⟩
      timing := ⟨"", ""⟩ }

def sampleCall : StreamKind → StreamCall
  | .video => ⟨.video "h264" 64 48 30, "screen", [.packet ⟨⟨#[1]⟩, 0, 0, true, 0⟩, .nothing]⟩
  | .audio => ⟨.audio "aac" 48000 2 1024, "sound", [.failed (.capture "busy")]⟩

theorem isNew_sampleRecorder (refusals : List Errno) : (sampleRecorder refusals).IsNew :=
  ⟨rfl, rfl, rfl⟩

theorem aligned_sample :
    let made := answerAll ([.video, .audio].map sampleCall) (sampleRecorder [])
    (sampleRecorder []).Accounts made.1 made.2 ∧ made.1 = [.ok 0, .ok 1] ∧ made.2.Aligned := by
  intro made
  have haccounts : (sampleRecorder []).Accounts made.1 made.2 :=
    accounts_answerAll (isNew_sampleRecorder []) _
  exact ⟨haccounts, rfl, haccounts.aligned_iff.2 rfl⟩

/-- The stream of sound is refused its thread. Its call fails, but the saver follows it, in front of
the pictures; the call for these gives 1, and they are the first of the histories. -/
theorem not_aligned_refused :
    let made := answerAll ([.audio, .video].map sampleCall) (sampleRecorder [Errno.tryAgain])
    (sampleRecorder [Errno.tryAgain]).IsNew ∧ made.1.map Except.toOption = [none, some 1] ∧
      made.2.streams.map (·.format.kind) = [.audio, .video] ∧
      made.2.histories.map (·.kind) = [.video] ∧ made.2.workers.map (·.stream) = [1] ∧
      ¬ made.2.Aligned := by
  intro made
  have hworkers : made.2.workers.map (·.stream) = [1] := rfl
  have hlength : made.2.streams.length = 2 := rfl
  refine ⟨isNew_sampleRecorder _, rfl, rfl, rfl, hworkers, fun haligned => ?_⟩
  have hplaces := haligned.workers_eq
  rw [hworkers, hlength] at hplaces
  exact absurd hplaces (by decide)

end Recorder

end InstantReplay
