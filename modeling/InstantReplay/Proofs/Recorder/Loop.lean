import InstantReplay.Proofs.Events
import InstantReplay.Proofs.Save.Outcome
import InstantReplay.Proofs.Save.Stages
import InstantReplay.Recorder.Loop

/-!
# How a recorder runs and stops

Whatever comes to a recorder in its loop, and whatever it takes of it first: each request that it
takes is followed by one save, which is over before the loop takes anything else. The loop goes on
after a save, failed or not, while a worker is left, and ends for no other reason but a failure of
the trigger or a signal. A signal stays until it is taken. In the end every worker is joined. All
this is `RunLoop.Orderly`, and `RunLoop.saves_and_stops` says that every loop is.

A loop into whose saves nothing falls is `Recorder.handleAll` (`RunLoop.exists_trail_handleAll`), and
with its end it is `Recorder.run` (`RunLoop.exists_trail_run`).
-/

namespace InstantReplay

namespace LoopEvent

/-- Whether the loop takes a request. -/
def isRequest : LoopEvent → Bool
  | .took .requested => true
  | _ => false

/-- Whether a save is over. -/
def isSaved : LoopEvent → Bool
  | .saved _ _ => true
  | _ => false

/-- Whether the loop ends: it takes something other than a request, or does not go on after a save. -/
def leaves : LoopEvent → Bool
  | .took .requested => false
  | .took _ => true
  | .saved _ goesOn => !goesOn
  | _ => false

/-- Whether a worker breaks down. -/
def breaks (index : Nat) : LoopEvent → Bool
  | .pulled other _ broke => other == index && broke
  | _ => false

/-- What the trigger completes with. -/
def completion? : LoopEvent → Option (Except Failure Unit)
  | .completed outcome => some outcome
  | _ => none

/-- What is taken of the completions of the trigger. -/
def taken? : LoopEvent → Option (Except Failure Unit)
  | .took .requested => some (.ok ())
  | .took (.triggerFailed failure) => some (.error failure)
  | _ => none

/-- The calls of the last save so far, after one more event. -/
def callsAfter (calls : List MuxerCall) : LoopEvent → List MuxerCall
  | .took .requested => []
  | .advanced more => calls ++ more
  | _ => calls

/-- The calls of the last save so far. -/
def lastCalls (events : List LoopEvent) : List MuxerCall := events.foldl callsAfter []

/-- The requests that were taken. -/
def requests (events : List LoopEvent) : Nat := events.countP isRequest

/-- The saves that are over. -/
def saves (events : List LoopEvent) : Nat := events.countP isSaved

/-- No worker of the recorder works any more. -/
def AllFinished {μ : Type} (recorder : Recorder μ) (events : List LoopEvent) : Prop :=
  ∀ index worker, recorder.workers[index]? = some worker →
    worker.isFinished ∨ ∃ event ∈ events, event.breaks index

/-- An event is as it should be behind others. Nothing is taken before the save of the last request
is over, nor when the loop has ended; a save is over once, with its file ended or given up, and the
loop goes on then unless no worker is left; it returns only when it has ended. -/
def Fits {μ : Type} (recorder : Recorder μ) (before : List LoopEvent) : LoopEvent → Prop
  | .took _ => requests before = saves before ∧ ∀ event ∈ before, event.leaves = false
  | .advanced _ => requests before = saves before + 1
  | .saved result goesOn => requests before = saves before + 1 ∧
      MuxerCall.Settled result (lastCalls before) ∧ (goesOn = false ↔ AllFinished recorder before)
  | .returned => requests before = saves before ∧ ∃ event ∈ before, event.leaves
  | _ => True

end LoopEvent

/-! ## What the parts of the loop do -/

/-- A round for each of some things that adds its lines to the log. -/
theorem Act.run_forIn_notes {σ α β : Type} {body : α → Act σ (ForInStep PUnit)}
    {next : PUnit → Act σ β} {notes : α → List LogLine}
    (hbody : ∀ a scene, (body a).run.run scene =
      (.ok (.yield ⟨⟩), ⟨scene.state, scene.log ++ notes a⟩))
    (list : List α) (scene : Scene σ) :
    ((forIn list PUnit.unit fun a _ => body a) >>= next).run.run scene =
      (next ⟨⟩).run.run ⟨scene.state, scene.log ++ list.flatMap notes⟩ := by
  induction list generalizing scene with
  | nil =>
    rw [List.flatMap_nil, List.append_nil]
    rfl
  | cons a list ih =>
    rw [List.forIn_cons, bind_assoc, Act.run_bind_ok (hbody a scene)]
    refine (ih ⟨scene.state, _⟩).trans ?_
    rw [List.flatMap_cons, List.append_assoc]

/-- A worker that is joined has finished. -/
theorem CaptureLane.isFinished_join (lane : CaptureLane) :
    (join.runOn lane).2.1.worker.isFinished := by
  by_cases hrunning : lane.worker.life = .running
  · have hstop : ∃ log, stop.run.run { state := lane } =
        (.ok (), ⟨{ lane with worker := { lane.worker with life := .stopped } }, log⟩) := by
      rw [stop, Act.run_bind_ok (Act.run_state _)]
      simp only [if_pos hrunning]
      exact ⟨_, rfl⟩
    obtain ⟨log, hstop⟩ := hstop
    rw [Act.runOn, join, Act.run_bind_ok hstop]
    rfl
  · have hstop : stop.run.run { state := lane } = (.ok (), { state := lane }) := by
      rw [stop, Act.run_bind_ok (Act.run_state _)]
      simp only [if_neg hrunning]
      rfl
    rw [Act.runOn, join, Act.run_bind_ok hstop, Act.run_bind_ok (Act.run_state _)]
    have hfinished : lane.worker.isFinished := by simpa [Worker.isFinished] using hrunning
    by_cases hbroken : lane.worker.life = .broken
    · simp only [if_pos hbroken]
      exact hfinished
    · simp only [if_neg hbroken]
      exact hfinished

namespace Recorder

variable {μ : Type}

/-- The lanes of the workers. -/
def lanes (recorder : Recorder μ) : List CaptureLane :=
  recorder.workers.filterMap fun worker =>
    (recorder.streams[worker.stream]?).map fun stream => ⟨worker, stream.history⟩

/-- Stopping joins every worker, one after the other, and leaves none. -/
theorem run_stop (scene : Scene (Recorder μ)) : stop.run.run scene =
    (.ok (), ⟨{ scene.state with workers := [], stopping := true }, scene.log ++
      scene.state.lanes.flatMap fun lane => stopNotes lane.worker lane.history⟩) := by
  have hnotes (workers : List Worker) :
      (workers.filterMap fun worker => (scene.state.streams[worker.stream]?).map fun stream =>
        (⟨worker, stream.history⟩ : CaptureLane)).flatMap
          (fun lane => stopNotes lane.worker lane.history) =
        workers.flatMap fun worker => (scene.state.streams[worker.stream]?).elim [] fun stream =>
          stopNotes worker stream.history := by
    induction workers with
    | nil => rfl
    | cons worker workers ih =>
      rw [List.filterMap_cons, List.flatMap_cons, ← ih]
      cases scene.state.streams[worker.stream]? <;> rfl
  rw [stop, Act.run_bind_ok (Act.run_state scene), lanes, hnotes]
  refine (Act.run_forIn_notes (fun worker later => ?_) scene.state.workers scene).trans
    (Act.run_change _ _)
  rcases scene.state.streams[worker.stream]? with _ | stream
  · rw [Option.elim_none, List.append_nil]
    rfl
  · exact Act.run_bind_ok (Act.run_forM_note _ _)

/-- After a save the loop goes on if a worker is left. -/
theorem exists_run_conclude (result : Except Failure SaveReport) (scene : Scene (Recorder μ)) :
    ∃ log, (conclude result).run.run scene = (.ok !scene.state.isIdle, ⟨scene.state, log⟩) := by
  have hidle (log : List LogLine) : ∃ later, (do
      if (← Act.state).isIdle then
        Act.note (.warn "All capture workers exited, stopping")
        return false
      return true : Act (Recorder μ) Bool).run.run ⟨scene.state, log⟩ =
        (.ok !scene.state.isIdle, ⟨scene.state, later⟩) := by
    rw [Act.run_bind_ok (Act.run_state _)]
    cases scene.state.isIdle
    · exact ⟨log, rfl⟩
    · exact ⟨_, rfl⟩
  rcases result with failure | report
  · rw [conclude, Act.run_bind_ok (Act.run_note _ _)]
    rcases failure.hint? with _ | hint
    · exact hidle _
    · dsimp only
      rw [Act.run_bind_ok (Act.run_note _ _)]
      exact hidle _
  · rw [conclude, Act.run_bind_ok (Act.run_note _ _)]
    exact hidle _

/-- A save, and what is left and noted then. -/
def afterSave (scene : Scene (Recorder μ)) : Scene (Recorder μ) :=
  ⟨{ scene.state with desk := (SaveDesk.save.runOn scene.state.desk).2.1 },
    scene.log ++ (SaveDesk.save.runOn scene.state.desk).2.2⟩

/-- A request is handled by a save, from whose result the recorder concludes whether to go on. -/
theorem run_handle_requested (scene : Scene (Recorder μ)) :
    (handle .requested).run.run scene =
      (conclude (SaveDesk.save.runOn scene.state.desk).1).run.run (afterSave scene) := by
  have hsave : (save.attempt : Act (Recorder μ) _).run.run scene =
      (.ok (SaveDesk.save.runOn scene.state.desk).1, afterSave scene) := by
    rw [Act.run_attempt, save, onDesk, Act.run_within]
    rfl
  rw [handle, Act.run_bind, saveOnRequest, Act.run_bind_ok hsave]
  rcases (SaveDesk.save.runOn scene.state.desk).1 with failure | report
  · rw [conclude, Act.run_bind_ok (Act.run_note _ _), Act.run_bind_ok (Act.run_note _ _)]
    rcases failure.hint? <;> rfl
  · rfl

/-- A stage of a save changes nothing but the desk. -/
theorem run_onDesk_next {stage later : SaveStage} {scene : Scene (Recorder μ)} {desk : SaveDesk μ}
    {lines : List LogLine} (h : stage.Leads scene.state.desk later desk lines) :
    (onDesk stage.next).run.run scene =
      (.ok later, ⟨{ scene.state with desk := desk }, scene.log ++ lines⟩) := by
  rw [onDesk, Act.run_within, h]

/-- A worker that works breaks down with its source, or with its history. -/
theorem exists_run_take (scene : Scene CaptureLane) (hlife : scene.state.worker.life = .running)
    (pull : Pull) : ∃ later, (CaptureLane.take pull).run.run scene = (.ok (), later) ∧
      later.state.worker.isFinished = pull.breaks scene.state := by
  have hworks : scene.state.worker.isFinished = false := by simp [Worker.isFinished, hlife]
  have hpacket (outcome : Except Overflow Unit) :
      (scene.state.worker.afterPacket outcome).isFinished = !outcome.isOk := by
    rcases outcome with ⟨⟩ | ⟨⟩
    · rfl
    · exact hworks
  rw [CaptureLane.take, Act.run_bind_ok (Act.run_state scene)]
  cases pull with
  | packet packet =>
    by_cases hfailing : scene.state.worker.failing
    · simp only [if_pos hfailing]
      exact ⟨_, rfl, hpacket _⟩
    · simp only [if_neg hfailing]
      exact ⟨_, rfl, hpacket _⟩
  | nothing => exact ⟨scene, rfl, hworks⟩
  | failed failure =>
    by_cases hfailing : scene.state.worker.failing
    · simp only [if_pos hfailing]
      exact ⟨_, rfl, hworks⟩
    · simp only [if_neg hfailing]
      exact ⟨_, rfl, hworks⟩
  | broke => exact ⟨_, rfl, rfl⟩

/-- What a worker does changes its stream and the worker alone. -/
theorem exists_run_pull (index : Nat) {worker : Worker} (history : History)
    (hlife : worker.life = .running) (source : Pull) (scene : Scene (Recorder μ)) :
    ∃ (later : CaptureLane) (log : List LogLine),
      (pull index worker history source).run.run scene =
        (.ok (), ⟨{ scene.state.withHistory worker.stream later.history with
          workers := scene.state.workers.set index later.worker }, log⟩) ∧
      later.worker.isFinished = source.breaks ⟨worker, history⟩ := by
  obtain ⟨later, hrun, hlater⟩ := exists_run_take { state := ⟨worker, history⟩ } hlife source
  have htake : (CaptureLane.take source).runOn ⟨worker, history⟩ =
      (.ok (), later.state, later.log) := by rw [Act.runOn, hrun]
  refine ⟨later.state, scene.log ++ later.log, ?_, hlater⟩
  rw [pull, Act.run_within, htake]

end Recorder

namespace LoopPhase

/-- The saves that are going on. -/
def busy : LoopPhase → Nat
  | .saving _ => 1
  | _ => 0

/-- Whether the loop has ended. -/
def left : LoopPhase → Bool
  | .leaving => true
  | .ended => true
  | _ => false

end LoopPhase

namespace RunLoop

open LoopEvent

variable {μ : Type} {loop next last : RunLoop μ} {event : LoopEvent} {events : List LoopEvent}
  {recorder : Recorder μ}

/-! ## What a step does -/

namespace Step

theorem busy_eq (h : loop.Step event next) :
    saves [event] + next.phase.busy = requests [event] + loop.phase.busy := by
  cases h with
  | tookRequest hphase => simp [hphase, saves, requests, isSaved, isRequest, LoopPhase.busy]
  | tookFailure hphase => simp [hphase, saves, requests, isSaved, isRequest, LoopPhase.busy]
  | tookSignal hphase =>
    rename_i signal _ _ _
    cases signal <;>
      simp [hphase, saves, requests, isSaved, isRequest, StopSignal.event, LoopPhase.busy]
  | advanced hphase => simp [hphase, saves, requests, isSaved, isRequest, LoopPhase.busy]
  | @saved result goesOn scene hphase =>
    cases goesOn <;> simp [hphase, saves, requests, isSaved, isRequest, LoopPhase.busy]
  | returned hphase => simp [hphase, saves, requests, isSaved, isRequest, LoopPhase.busy]
  | _ => rfl

theorem left_eq (h : loop.Step event next) :
    next.phase.left = (loop.phase.left || event.leaves) := by
  cases h with
  | tookRequest hphase => simp [hphase, leaves, LoopPhase.left]
  | tookFailure hphase => simp [hphase, leaves, LoopPhase.left]
  | @tookSignal signal _ hphase =>
    cases signal <;> simp [hphase, leaves, StopSignal.event, LoopPhase.left]
  | advanced hphase => simp [hphase, leaves, LoopPhase.left]
  | @saved result goesOn scene hphase =>
    cases goesOn <;> simp [hphase, leaves, LoopPhase.left]
  | returned hphase => simp [hphase, leaves, LoopPhase.left]
  | _ => exact (Bool.or_false _).symm

/-- The calls of a save go on to fit its stage. -/
theorem fits (h : loop.Step event next) {calls : List MuxerCall}
    (hfits : ∀ stage, loop.phase = .saving stage → stage.Fits calls) :
    ∀ stage, next.phase = .saving stage → stage.Fits (event.callsAfter calls) := by
  cases h with
  | tookRequest => rintro _ ⟨⟩; exact rfl
  | @advanced stage later scene more hphase hstage hrun hcalls =>
    rintro _ ⟨⟩
    obtain ⟨later', desk, lines, more', hleads, hdesk, hgo⟩ := stage.goesOn loop.scene.state.desk
    have hrun' := Recorder.run_onDesk_next hleads
    rw [hrun'] at hrun
    cases hrun
    have hmore : more' = more := List.append_cancel_left (hdesk.symm.trans hcalls)
    exact hmore ▸ hgo calls (hfits stage hphase)
  | saved =>
    intro stage hstage
    dsimp only at hstage
    split at hstage <;> cases hstage
  | tookFailure | tookSignal | returned => rintro _ ⟨⟩
  | _ => exact hfits

/-- The recorder after a step of a save that is not over. -/
theorem exists_of_advanced {stage later : SaveStage} {scene : Scene (Recorder μ)}
    (hrun : (Recorder.onDesk stage.next).run.run loop.scene = (.ok later, scene)) :
    ∃ desk, scene.state = { loop.scene.state with desk := desk } := by
  obtain ⟨later', desk, lines, -, hleads, -⟩ := stage.goesOn loop.scene.state.desk
  rw [Recorder.run_onDesk_next hleads] at hrun
  cases hrun
  exact ⟨desk, rfl⟩

theorem state_of_saved {result : Except Failure SaveReport} {goesOn : Bool}
    {scene : Scene (Recorder μ)}
    (hrun : (Recorder.conclude result).run.run loop.scene = (.ok goesOn, scene)) :
    scene.state = loop.scene.state ∧ goesOn = !loop.scene.state.isIdle := by
  obtain ⟨log, hconclude⟩ := Recorder.exists_run_conclude result loop.scene
  rw [hconclude] at hrun
  cases hrun
  exact ⟨rfl, rfl⟩

theorem state_of_tookSignal {signal : StopSignal} {scene : Scene (Recorder μ)}
    (hrun : (Recorder.handle signal.event).run.run loop.scene = (.ok false, scene)) :
    scene.state = loop.scene.state := by
  cases signal <;> cases hrun <;> rfl

theorem finished_eq_of_same {index : Nat}
    (hworkers : next.scene.state.workers = loop.scene.state.workers)
    (hbreaks : event.breaks index = false) :
    (next.scene.state.workers[index]?).map (·.isFinished) =
      (loop.scene.state.workers[index]?).map fun worker =>
        worker.isFinished || event.breaks index := by
  rw [hworkers, hbreaks]
  simp only [Bool.or_false]

/-- What becomes of the workers. -/
theorem finished_eq (h : loop.Step event next) (hphase : next.phase ≠ .ended) (index : Nat) :
    (next.scene.state.workers[index]?).map (·.isFinished) =
      (loop.scene.state.workers[index]?).map fun worker =>
        worker.isFinished || event.breaks index := by
  cases h with
  | completed | delivered | tookRequest => exact finished_eq_of_same rfl rfl
  | tookFailure _ _ hrun =>
    cases hrun
    exact finished_eq_of_same rfl rfl
  | tookSignal _ _ hrun =>
    exact finished_eq_of_same (congrArg Recorder.workers (state_of_tookSignal hrun)) rfl
  | advanced _ _ hrun =>
    obtain ⟨desk, hstate⟩ := exists_of_advanced hrun
    exact finished_eq_of_same (by rw [hstate]) rfl
  | saved _ hrun =>
    exact finished_eq_of_same (congrArg Recorder.workers (state_of_saved hrun).1) rfl
  | returned => exact absurd rfl hphase
  | @pulled place worker stream scene pull hworker hlife hstream hrun =>
    obtain ⟨later, log, hpull, hlater⟩ :=
      Recorder.exists_run_pull place stream.history hlife pull loop.scene
    rw [hpull] at hrun
    cases hrun
    have hlt := (List.getElem?_eq_some_iff.1 hworker).1
    dsimp only
    rw [List.getElem?_set]
    by_cases hplace : place = index
    · subst hplace
      have hworks : worker.isFinished = false := by simp [Worker.isFinished, hlife]
      rw [if_pos rfl, if_pos hlt, hworker, Option.map_some, Option.map_some, hlater, hworks, breaks,
        beq_self_eq_true, Bool.true_and, Bool.false_or]
    · have hbreaks (broke : Bool) : breaks index (.pulled place pull broke) = false := by
        rw [breaks, beq_false_of_ne hplace, Bool.false_and]
      rw [if_neg hplace]
      simp only [hbreaks, Bool.or_false]

theorem completions_eq (h : loop.Step event next) :
    loop.completions ++ event.completion?.toList = event.taken?.toList ++ next.completions := by
  cases h with
  | tookRequest _ hready => simp [completion?, taken?, hready]
  | tookFailure _ hready => simp [completion?, taken?, hready]
  | @tookSignal signal => cases signal <;> simp [completion?, taken?, StopSignal.event]
  | _ => simp [completion?, taken?]

/-- A signal stays until it is taken. -/
theorem mem_signals (h : loop.Step event next) {signal : StopSignal} (hmem : signal ∈ loop.signals) :
    event = .took signal.event ∨ signal ∈ next.signals := by
  cases h with
  | delivered => exact .inr (List.mem_insert_of_mem hmem)
  | @tookSignal taken =>
    by_cases hsame : taken = signal
    · exact .inl (hsame ▸ rfl)
    · exact .inr ((List.mem_erase_of_ne (Ne.symm hsame)).2 hmem)
  | _ => exact .inr hmem

/-- When it has returned, no worker is left. -/
theorem stopped (h : loop.Step event next)
    (hloop : loop.phase = .ended → loop.scene.state.stopping = true ∧ loop.scene.state.workers = [])
    (hphase : next.phase = .ended) :
    next.scene.state.stopping = true ∧ next.scene.state.workers = [] := by
  cases h with
  | completed | delivered => exact hloop hphase
  | @pulled place worker stream scene pull hworker =>
    rw [(hloop hphase).2] at hworker
    cases hworker
  | @saved _ goesOn => cases goesOn <;> cases hphase
  | returned _ hrun =>
    rw [Recorder.run_stop] at hrun
    cases hrun
    exact ⟨rfl, rfl⟩
  | _ => cases hphase

/-- When the loop returns every worker is joined. -/
theorem scene_of_returned (h : loop.Step .returned next) :
    next.scene = ⟨{ loop.scene.state with workers := [], stopping := true },
      loop.scene.log ++ loop.scene.state.lanes.flatMap fun lane =>
        Recorder.stopNotes lane.worker lane.history⟩ := by
  cases h with
  | returned _ hrun =>
    rw [Recorder.run_stop] at hrun
    cases hrun
    rfl

end Step

/-! ## Runs -/

/-- A loop is as its events so far have left it. -/
structure Follows (recorder : Recorder μ) (events : List LoopEvent) (loop : RunLoop μ) : Prop where
  busy_eq : saves events + loop.phase.busy = requests events
  left_eq : loop.phase.left = events.any (·.leaves)
  fits : ∀ stage, loop.phase = .saving stage → stage.Fits (lastCalls events)
  finished_eq : loop.phase ≠ .ended → ∀ index,
    (loop.scene.state.workers[index]?).map (·.isFinished) =
      (recorder.workers[index]?).map fun worker =>
        worker.isFinished || events.any (·.breaks index)
  completions_eq : events.filterMap completion? = events.filterMap taken? ++ loop.completions
  stopped : loop.phase = .ended →
    loop.scene.state.stopping = true ∧ loop.scene.state.workers = []

theorem follows_start (kind : TriggerKind) (recorder : Recorder μ) :
    (start kind recorder).Follows recorder [] where
  busy_eq := rfl
  left_eq := rfl
  fits := nofun
  finished_eq _ index := by
    simp only [List.any_nil, Bool.or_false]
    rfl
  completions_eq := rfl
  stopped := nofun

/-- A loop that has ended stays so. -/
theorem Step.ended (h : loop.Step event next) (hphase : loop.phase = .ended) :
    next.phase = .ended := by
  cases h <;> simp_all

theorem filterMap_singleton {α β : Type} (f : α → Option β) (a : α) :
    [a].filterMap f = (f a).toList := by
  cases h : f a <;> simp [h]

/-- **A loop stays as its events leave it**, whatever happens next. -/
theorem Follows.step (h : loop.Follows recorder events) (hstep : loop.Step event next) :
    next.Follows recorder (events ++ [event]) where
  busy_eq := by
    have hstep := hstep.busy_eq
    have hbefore := h.busy_eq
    simp only [saves, requests, List.countP_append] at hstep hbefore ⊢
    omega
  left_eq := by
    rw [hstep.left_eq, h.left_eq, List.any_append, List.any_cons, List.any_nil, Bool.or_false]
  fits := by
    rw [lastCalls, List.foldl_append]
    exact hstep.fits h.fits
  finished_eq hphase index := by
    have hbefore := h.finished_eq (fun hended => hphase (hstep.ended hended)) index
    have hafter := congrArg (Option.map (· || event.breaks index)) hbefore
    rw [Option.map_map, Option.map_map] at hafter
    rw [hstep.finished_eq hphase index]
    simpa [Function.comp_def, Bool.or_assoc] using hafter
  completions_eq := by
    rw [List.filterMap_append, List.filterMap_append, filterMap_singleton, filterMap_singleton,
      h.completions_eq, List.append_assoc, hstep.completions_eq, List.append_assoc]
  stopped := hstep.stopped h.stopped

/-- The recorder has no worker that works just when all are finished by the events so far. -/
theorem Follows.isIdle_iff (h : loop.Follows recorder events) (hphase : loop.phase ≠ .ended) :
    loop.scene.state.isIdle ↔ AllFinished recorder events := by
  rw [Recorder.isIdle, List.all_eq_true]
  have hfinished := h.finished_eq hphase
  constructor
  · intro hidle index worker hworker
    have hindex := hfinished index
    rw [hworker, Option.map_some] at hindex
    obtain ⟨now, hnow, hsame⟩ := Option.map_eq_some_iff.1 hindex
    rw [hidle now (List.mem_of_getElem? hnow), eq_comm, Bool.or_eq_true, List.any_eq_true] at hsame
    exact hsame
  · intro hall now hmem
    obtain ⟨index, hnow⟩ := List.mem_iff_getElem?.1 hmem
    have hindex := hfinished index
    rw [hnow, Option.map_some] at hindex
    obtain ⟨worker, hworker, hsame⟩ := Option.map_eq_some_iff.1 hindex.symm
    rw [← hsame, Bool.or_eq_true, List.any_eq_true]
    exact hall index worker hworker

theorem Follows.balanced (h : loop.Follows recorder events) (hbusy : loop.phase.busy = 0) :
    requests events = saves events := by
  have hevents := h.busy_eq
  omega

theorem Follows.goesOn (h : loop.Follows recorder events) (hleft : loop.phase.left = false) :
    ∀ event ∈ events, event.leaves = false := by
  rw [h.left_eq, List.any_eq_false] at hleft
  exact fun event hevent => by simpa using hleft event hevent

/-- What happens to a loop is as it should be. -/
theorem Follows.fits_step (h : loop.Follows recorder events) (hstep : loop.Step event next) :
    event.Fits recorder events := by
  cases hstep with
  | tookRequest hphase | tookFailure hphase | tookSignal hphase =>
    exact ⟨h.balanced (by rw [hphase]; rfl), h.goesOn (by rw [hphase]; rfl)⟩
  | advanced hphase =>
    have hevents := h.busy_eq
    rw [hphase] at hevents
    exact hevents.symm
  | @saved result goesOn scene hphase hrun =>
    have hevents := h.busy_eq
    rw [hphase] at hevents
    refine ⟨hevents.symm, h.fits _ hphase, ?_⟩
    rw [(Step.state_of_saved hrun).2, Bool.not_eq_false', ← h.isIdle_iff (by rw [hphase]; nofun)]
  | returned hphase =>
    have hleft := h.left_eq
    rw [hphase, eq_comm, LoopPhase.left, List.any_eq_true] at hleft
    exact ⟨h.balanced (by rw [hphase]; rfl), hleft⟩
  | _ => trivial

/-- A whole run is as it should be. -/
theorem Follows.run (h : loop.Follows recorder []) (htrail : Trail Step loop events last) :
    last.Follows recorder events ∧ AtEach events fun before event _ => event.Fits recorder before :=
  htrail.keeps (fun _ _ _ _ h hstep => ⟨h.step hstep, h.fits_step hstep⟩) h

/-- A signal that was delivered stays until it is taken. -/
theorem mem_signals_of_trail (htrail : Trail Step loop events last) {signal : StopSignal}
    (hmem : signal ∈ loop.signals) : .took signal.event ∈ events ∨ signal ∈ last.signals := by
  induction htrail with
  | nil => exact .inr hmem
  | cons hstep _ ih =>
    rcases hstep.mem_signals hmem with rfl | hmem
    · exact .inl List.mem_cons_self
    · exact (ih hmem).imp_left (List.mem_cons_of_mem _)

theorem kept_signals (htrail : Trail Step loop events last) :
    AtEach events fun _ event behind => ∀ signal, event = .delivered signal →
      .took signal.event ∈ behind ∨ signal ∈ last.signals := by
  rintro before _ behind rfl signal rfl
  obtain ⟨middle, -, hrest⟩ := htrail.exists_of_append
  obtain ⟨next, hstep, hbehind⟩ := hrest.exists_of_cons
  cases hstep
  exact mem_signals_of_trail hbehind List.mem_insert_self

/-! ## What goes on by itself -/

/-- The stages of a save in turn are a run of the loop. -/
theorem exists_trail_of_ends {stage : SaveStage} {desk : SaveDesk μ}
    {result : Except Failure SaveReport} {last : SaveDesk μ} {lines : List LogLine}
    (h : SaveStage.Ends stage desk result last lines) (hphase : loop.phase = .saving stage)
    (hdesk : loop.scene.state.desk = desk) :
    ∃ more, Trail Step loop more { loop with
        scene := ⟨{ loop.scene.state with desk := last }, loop.scene.log ++ lines⟩
        phase := .saving (.ended result) } ∧
      ∀ event ∈ more, ∃ calls, event = .advanced calls := by
  induction h generalizing loop with
  | ended result desk =>
    subst hdesk
    refine ⟨[], ?_, nofun⟩
    rw [List.append_nil, ← hphase]
    exact .nil loop
  | @next stage later desk after last result lines rest hstage hleads _ ih =>
    subst hdesk
    obtain ⟨later', after', lines', calls, hleads', hcalls, -⟩ := stage.goesOn loop.scene.state.desk
    rw [SaveStage.Leads, hleads] at hleads'
    cases hleads'
    have hstep := Step.advanced hphase hstage (Recorder.run_onDesk_next hleads) hcalls
    let after' : RunLoop μ := { loop with
      scene := ⟨{ loop.scene.state with desk := after }, loop.scene.log ++ lines⟩
      phase := .saving later }
    obtain ⟨more, htrail, hmore⟩ := ih (rfl : after'.phase = .saving later) rfl
    rw [List.append_assoc] at htrail
    exact ⟨_, .cons hstep htrail, List.forall_mem_cons.2 ⟨⟨calls, rfl⟩, hmore⟩⟩

/-- **A save that goes on comes to its end.** One into which nothing falls is `SaveDesk.save`. -/
theorem exists_trail_saved {stage : SaveStage} (hphase : loop.phase = .saving stage) :
    ∃ more result goesOn later, Trail Step loop (more ++ [.saved result goesOn]) later ∧
      (∀ event ∈ more, ∃ calls, event = .advanced calls) ∧
      (stage = .naming → ∃ lines, SaveDesk.save.runOn loop.scene.state.desk =
        (result, later.scene.state.desk, lines)) := by
  obtain ⟨result, last, lines, hends, hwhole⟩ : ∃ result last lines,
      SaveStage.Ends stage loop.scene.state.desk result last lines ∧
        (stage = .naming → SaveDesk.save.runOn loop.scene.state.desk = (result, last, lines)) := by
    by_cases hstage : stage = .naming
    · subst hstage
      exact ⟨_, _, _, SaveStage.ends_naming _, fun _ => rfl⟩
    · obtain ⟨result, last, lines, hends⟩ := stage.exists_ends loop.scene.state.desk
      exact ⟨result, last, lines, hends, fun h => absurd h hstage⟩
  obtain ⟨more, htrail, hmore⟩ := exists_trail_of_ends hends hphase rfl
  obtain ⟨log, hconclude⟩ := Recorder.exists_run_conclude result
    ⟨{ loop.scene.state with desk := last }, loop.scene.log ++ lines⟩
  exact ⟨more, result, _, _, htrail.append (.single (.saved rfl hconclude)), hmore,
    fun hstage => ⟨lines, hwhole hstage⟩⟩

theorem exists_step_took {signal : StopSignal} (hphase : loop.phase = .waiting)
    (hmem : signal ∈ loop.signals) : ∃ later, loop.Step (.took signal.event) later := by
  cases signal with
  | interrupt => exact ⟨_, .tookSignal hphase hmem rfl⟩
  | terminate => exact ⟨_, .tookSignal hphase hmem rfl⟩

theorem exists_step_requested (hphase : loop.phase = .waiting) {rest : List (Except Failure Unit)}
    (hready : loop.completions = .ok () :: rest) : ∃ later, loop.Step (.took .requested) later :=
  ⟨_, .tookRequest hphase hready⟩

theorem exists_step_returned (hphase : loop.phase = .leaving) :
    ∃ later, loop.Step .returned later :=
  ⟨_, .returned hphase (Recorder.run_stop loop.scene)⟩

/-! ## Runs into whose saves nothing falls -/

/-- The loop of a recorder that waits, when nothing has come. -/
def idle (scene : Scene (Recorder μ)) : RunLoop μ := ⟨scene, [], [], .waiting⟩

/-- The loop of a recorder that has handled all that came: it waits, or goes on no more. -/
def handled (goesOn : Bool) (scene : Scene (Recorder μ)) : RunLoop μ :=
  ⟨scene, [], [], if goesOn then .waiting else .leaving⟩

/-- A signal that comes alone ends the loop. -/
theorem exists_trail_signal (signal : StopSignal) (scene : Scene (Recorder μ)) :
    ∃ later, Trail Step (idle scene) [.delivered signal, .took signal.event] (handled false later) ∧
      (Recorder.handle signal.event).run.run scene = (.ok false, later) := by
  obtain ⟨later, hhandle⟩ : ∃ later,
      (Recorder.handle signal.event).run.run scene = (.ok false, later) := by
    cases signal <;> exact ⟨_, rfl⟩
  have hnone : [signal].erase signal = [] := List.erase_cons_head signal []
  have htook : Step ⟨scene, [], [signal], .waiting⟩ (.took signal.event) _ :=
    .tookSignal rfl List.mem_cons_self hhandle
  rw [hnone] at htook
  exact ⟨later, .cons (.delivered signal) (.single htook), hhandle⟩

/-- An event that comes alone is handled by itself. -/
theorem exists_trail_handle (event : RunEvent) (scene : Scene (Recorder μ)) :
    ∃ events goesOn later, Trail Step (idle scene) events (handled goesOn later) ∧
      (Recorder.handle event).run.run scene = (.ok goesOn, later) := by
  cases event with
  | requested =>
    let begun : RunLoop μ := ⟨scene, [], [], .saving .naming⟩
    obtain ⟨more, hsave, -⟩ := exists_trail_of_ends (SaveStage.ends_naming scene.state.desk)
      (rfl : begun.phase = .saving .naming) rfl
    obtain ⟨log, hconclude⟩ := Recorder.exists_run_conclude
      (SaveDesk.save.runOn scene.state.desk).1 (Recorder.afterSave scene)
    refine ⟨_, _, _, .cons (.completed (.ok ())) (.cons (.tookRequest rfl rfl)
      (hsave.append (.single (.saved rfl hconclude)))), ?_⟩
    rw [Recorder.run_handle_requested, hconclude]
  | triggerFailed failure =>
    exact ⟨_, false, _, .cons (.completed (.error failure)) (.single (.tookFailure rfl rfl rfl)), rfl⟩
  | interrupted => exact ⟨_, false, exists_trail_signal .interrupt scene⟩
  | terminated => exact ⟨_, false, exists_trail_signal .terminate scene⟩

/-- **Events that come one after the other are handled by `Recorder.handleAll`.** -/
theorem exists_trail_handleAll (events : List RunEvent) (scene : Scene (Recorder μ)) :
    ∃ more goesOn later, Trail Step (idle scene) more (handled goesOn later) ∧
      (Recorder.handleAll events).run.run scene = (.ok goesOn, later) := by
  induction events generalizing scene with
  | nil => exact ⟨[], true, scene, .nil _, rfl⟩
  | cons event events ih =>
    obtain ⟨first, goesOn, middle, htrail, hhandle⟩ := exists_trail_handle event scene
    rw [Recorder.handleAll, Act.run_bind_ok hhandle]
    cases goesOn with
    | false => exact ⟨first, false, middle, htrail, rfl⟩
    | true =>
      obtain ⟨more, goesOn, later, hrest, hall⟩ := ih middle
      exact ⟨first ++ more, goesOn, later, htrail.append hrest, hall⟩

/-- A run that ends with its events is a run of the loop that returns. -/
theorem exists_trail_run {kind : TriggerKind} {events : List RunEvent} {recorder : Recorder μ}
    {scene : Scene (Recorder μ)}
    (hends : (Recorder.handleAll events).run.run (start kind recorder).scene =
      (.ok false, scene)) :
    ∃ more last, Trail Step (start kind recorder) more last ∧ last.phase = .ended ∧
      (Recorder.run kind events).runOn recorder = (.ok (), last.scene.state, last.scene.log) := by
  obtain ⟨more, goesOn, later, htrail, hall⟩ :=
    exists_trail_handleAll events (start kind recorder).scene
  obtain ⟨rfl, rfl⟩ : goesOn = false ∧ later = scene := by
    rw [hall] at hends
    cases hends
    exact ⟨rfl, rfl⟩
  have hstop := Recorder.run_stop later
  refine ⟨_, _, htrail.append (.single (.returned rfl hstop)), rfl, ?_⟩
  rw [Act.runOn, Recorder.run, Act.run_bind_ok (Act.run_note _ _)]
  have hwhole : (Recorder.handleAll events >>= fun _ => Recorder.stop).run.run _ = _ :=
    (Act.run_bind_ok hall).trans hstop
  exact congrArg (fun run => (run.1, run.2.state, run.2.log)) hwhole

/-! ## The loop as a whole -/

/-- What a loop keeps to, whatever has happened to it. -/
structure Orderly (recorder : Recorder μ) (events : List LoopEvent) (last : RunLoop μ) : Prop where
  /-- Each event is as it should be behind those before it: nothing is taken before the save of the
  last request is over, and so no signal is acted on during a save; the save has ended its file or
  given it up; and the loop goes on then, whether or not the save failed, just when a worker is
  left. -/
  fits : AtEach events fun before event _ => event.Fits recorder before
  /-- What the trigger completes with is taken in turn, each once. -/
  completions : events.filterMap completion? = events.filterMap taken? ++ last.completions
  /-- A signal stays until it is taken, -/
  signals : AtEach events fun _ event behind => ∀ signal, event = .delivered signal →
    .took signal.event ∈ behind ∨ signal ∈ last.signals
  /-- and can be taken whenever the loop waits, -/
  takesSignals : last.phase = .waiting → ∀ signal ∈ last.signals,
    ∃ later, last.Step (.took signal.event) later
  /-- as a request can. -/
  takesRequests : last.phase = .waiting → ∀ rest, last.completions = .ok () :: rest →
    ∃ later, last.Step (.took .requested) later
  /-- A save that goes on comes to its end. If it has just begun and nothing falls into it, it is
  `SaveDesk.save`. -/
  saves : ∀ stage, last.phase = .saving stage → ∃ more result goesOn later,
    Trail Step last (more ++ [.saved result goesOn]) later ∧
      (∀ event ∈ more, ∃ calls, event = .advanced calls) ∧
      (stage = .naming → ∃ lines, SaveDesk.save.runOn last.scene.state.desk =
        (result, later.scene.state.desk, lines))
  /-- A loop that goes on no more returns, -/
  returns : last.phase = .leaving → ∃ later, last.Step .returned later
  /-- and with this joins every worker, which has finished then. -/
  joins : ∀ later, last.Step .returned later →
    later.scene = ⟨{ last.scene.state with workers := [], stopping := true },
      last.scene.log ++ last.scene.state.lanes.flatMap fun lane =>
        Recorder.stopNotes lane.worker lane.history⟩ ∧
    ∀ lane ∈ last.scene.state.lanes, (CaptureLane.join.runOn lane).2.1.worker.isFinished
  /-- When it has returned the workers were told to stop, and none is left. -/
  stopped : last.phase = .ended →
    last.scene.state.stopping = true ∧ last.scene.state.workers = []

/-- **A recorder saves once for each request, and stops cleanly.** This holds of all that can come
to it, in any order, and of all that it can take first. A run in which nothing falls into a save is
such a loop too. -/
theorem saves_and_stops (kind : TriggerKind) (recorder : Recorder μ) :
    (∀ events last, Trail Step (start kind recorder) events last →
      Orderly recorder events last) ∧
    ∀ events scene, (Recorder.handleAll events).run.run (start kind recorder).scene =
        (.ok false, scene) →
      ∃ more last, Trail Step (start kind recorder) more last ∧ last.phase = .ended ∧
        (Recorder.run kind events).runOn recorder =
          (.ok (), last.scene.state, last.scene.log) := by
  refine ⟨fun events last h => ?_, fun events scene hends => exists_trail_run hends⟩
  obtain ⟨hlast, hfits⟩ := (follows_start kind recorder).run h
  exact
    { fits := hfits
      completions := hlast.completions_eq
      signals := kept_signals h
      takesSignals := fun hphase _ => exists_step_took hphase
      takesRequests := fun hphase _ => exists_step_requested hphase
      saves := fun _ => exists_trail_saved
      returns := exists_step_returned
      joins := fun later hstep =>
        ⟨hstep.scene_of_returned, fun lane _ => lane.isFinished_join⟩
      stopped := hlast.stopped }

/-- A recorder with one worker, and with a muxer that refuses the header of every clip. -/
def sampleRecorder : Recorder PickyMuxer.Counts where
  seconds := 10
  desk := {
    saver := Saver.sample (PickyMuxer.muxer ⟨"header", 0, 0⟩) {}
    world := ⟨⟨[], []⟩, "/bin", []⟩
    home := ⟨some "/home", none⟩
    timing := ⟨"1ms", "2ms"⟩ }
  workers := [{ stream := 0, kind := .video, source := "screen" }]

/-- A request is taken, and an interrupt is delivered during the save: the save comes to its end, the
loop goes on, and the interrupt waits for it. -/
theorem saves_and_stops_interrupted :
    let taken : List LoopEvent := [.completed (.ok ()), .took .requested, .delivered .interrupt]
    ∃ more result later, Trail Step (start .socket sampleRecorder)
        (taken ++ (more ++ [.saved result true])) later ∧
      StopSignal.interrupt ∈ later.signals ∧
      ∃ lines, SaveDesk.save.runOn sampleRecorder.desk =
        (result, later.scene.state.desk, lines) := by
  intro taken
  have horderly := (saves_and_stops .socket sampleRecorder).1
  have hbegun : Trail Step (start .socket sampleRecorder) taken _ :=
    .cons (.completed (.ok ())) (.cons (.tookRequest rfl rfl) (.single (.delivered .interrupt)))
  obtain ⟨more, result, goesOn, later, hsave, hmore, hwhole⟩ :=
    (horderly _ _ hbegun).saves .naming rfl
  obtain ⟨lines, hdesk⟩ := hwhole rfl
  have hall := hbegun.append hsave
  -- the worker goes on, since nothing but the save does anything
  have hworks : ¬AllFinished sampleRecorder (taken ++ more) := by
    intro hfinished
    rcases hfinished 0 _ rfl with hfinished | ⟨event, hevent, hbreaks⟩
    · cases hfinished
    · rcases List.mem_append.1 hevent with hevent | hevent
      · simp only [taken, List.mem_cons, List.not_mem_nil, or_false] at hevent
        rcases hevent with rfl | rfl | rfl <;> cases hbreaks
      · obtain ⟨calls, rfl⟩ := hmore event hevent
        cases hbreaks
  have hsaved := (horderly _ _ hall).fits (taken ++ more) (.saved result goesOn) [] (by simp)
  have hgoesOn : goesOn = true := by simpa using mt hsaved.2.2.1 hworks
  refine ⟨more, result, later, hgoesOn ▸ hall, ?_, lines, hdesk⟩
  refine ((horderly _ _ hall).signals [.completed (.ok ()), .took .requested] _
    (more ++ [.saved result goesOn]) rfl .interrupt rfl).resolve_left fun htook => ?_
  rcases List.mem_append.1 htook with htook | htook
  · obtain ⟨calls, hcalls⟩ := hmore _ htook
    cases hcalls
  · cases List.mem_singleton.1 htook

end RunLoop

end InstantReplay
