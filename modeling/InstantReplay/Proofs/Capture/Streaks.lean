import InstantReplay.Capture.Shift
import InstantReplay.Proofs.Act
import InstantReplay.Proofs.Events
import InstantReplay.Proofs.History.Retention
import Mathlib.Data.List.DropRight

/-!
# Streaks

A streak is a longest run of pulls without a packet. The worker remembers of the pulls so far only
whether the streak at their end has a failure, and how long the next pause is. Both follow from the
number of failures in that streak (`CaptureLane.Follows`), and so do the lines it notes
(`Pull.notes`). One pull keeps this (`CaptureLane.Follows.exists_take`), and so do any pulls in turn
(`CaptureLane.Follows.exists_run`). It breaks the worker just when the history breaks down with its
packet; the worker handles no more pulls then.
-/

namespace InstantReplay

namespace Pull

def isPacket : Pull → Bool
  | .packet _ => true
  | _ => false

def isFailure : Pull → Bool
  | .failed _ => true
  | _ => false

def packet? : Pull → Option Packet
  | .packet taken => some taken
  | _ => none

/-- The streak that pulls end with: the longest run at their end without a packet. -/
def streak (pulls : List Pull) : List Pull := pulls.rtakeWhile fun pull => !pull.isPacket

/-- The failures of the streak that pulls end with. -/
def failures (pulls : List Pull) : Nat := (streak pulls).countP isFailure

/-- The packets that pulls give, on a stream. -/
def packets (stream : Nat) (pulls : List Pull) : List Packet :=
  (pulls.filterMap packet?).map (·.onStream stream)

/-- The pause due after a pull behind others: after the first failure of a streak the first one, and
after each further failure twice as long, up to the longest one. -/
def pauseAfter (earlier : List Pull) : Pull → Nat
  | .failed _ => min (Worker.firstPause * 2 ^ failures earlier) Worker.longestPause
  | _ => 0

/-- The pauses due after pulls, for each failure one. -/
def pauses (pulls : List Pull) : List Nat :=
  gather (fun _ earlier pull => if pull.isFailure then [pauseAfter earlier pull] else []) [] []
    pulls

/-- The lines due for a pull behind others: a warning for the first failure of a streak only, and a
recovery for the packet that ends a streak with a failure. -/
def notes (worker : Worker) (earlier : List Pull) : Pull → List LogLine
  | .packet taken =>
    let source := worker.source
    let stream := worker.stream
    let pts := taken.pts.toInt
    let size := taken.size
    (if failures earlier = 0 then [] else [.info s!"{source} recovered"]) ++
      [.trace s!"stream {stream}: pts={pts} size={size}"]
  | .failed failure =>
    let source := worker.source
    let reason := failure.message
    if failures earlier = 0 then [.warn s!"{source} failed, retrying: {reason}"]
    else [.debug s!"{source}: {reason}"]
  | _ => []

/-- The lines due for pulls in turn, behind others. -/
def allNotes (worker : Worker) (earlier : List Pull) : List Pull → List LogLine
  | [] => []
  | pull :: rest => notes worker earlier pull ++ allNotes worker (earlier ++ [pull]) rest

variable {pulls : List Pull}

@[simp] theorem failures_concat_packet (taken : Packet) :
    failures (pulls ++ [.packet taken]) = 0 := by
  rw [failures, streak, List.rtakeWhile_concat_neg _ _ _ (by simp [isPacket]), List.countP_nil]

/-- A pull that gives nothing does not end a streak. -/
@[simp] theorem failures_concat_nothing : failures (pulls ++ [.nothing]) = failures pulls := by
  rw [failures, streak, List.rtakeWhile_concat_pos _ _ _ (by simp [isPacket]), List.countP_append]
  rfl

@[simp] theorem failures_concat_failed (failure : Failure) :
    failures (pulls ++ [.failed failure]) = failures pulls + 1 := by
  rw [failures, streak, List.rtakeWhile_concat_pos _ _ _ (by simp [isPacket]), List.countP_append]
  rfl

theorem pauses_concat (pull : Pull) : pauses (pulls ++ [pull]) =
    pauses pulls ++ if pull.isFailure then [pauseAfter pulls pull] else [] :=
  gather_concat _ _ _ _ _

@[simp] theorem packets_concat_packet (stream : Nat) (taken : Packet) :
    packets stream (pulls ++ [.packet taken]) =
      packets stream pulls ++ [taken.onStream stream] := by
  rw [packets, List.filterMap_append, List.map_append]
  rfl

@[simp] theorem packets_concat_nothing (stream : Nat) :
    packets stream (pulls ++ [.nothing]) = packets stream pulls := by
  rw [packets, List.filterMap_append]
  exact congrArg _ (List.append_nil _)

@[simp] theorem packets_concat_failed (stream : Nat) (failure : Failure) :
    packets stream (pulls ++ [.failed failure]) = packets stream pulls := by
  rw [packets, List.filterMap_append]
  exact congrArg _ (List.append_nil _)

theorem notes_nothing (worker : Worker) (earlier : List Pull) :
    notes worker earlier .nothing = [] :=
  rfl

theorem length_filterMap_packet? : (pulls.filterMap packet?).length = pulls.countP isPacket := by
  rw [List.length_filterMap_eq_countP]
  refine congrArg (pulls.countP ·) (funext fun pull => ?_)
  cases pull <;> rfl

theorem ofResult_ne_broke (result : Except Failure (Option Packet)) :
    ofResult result ≠ .broke := by
  rcases result with failure | _ | packet <;> exact nofun

end Pull

/-- A packet does not stop a worker. -/
theorem Worker.life_afterPacket {worker : Worker} (hrunning : worker.life = .running)
    (outcome : Except Overflow Unit) : (worker.afterPacket outcome).life ≠ .stopped := by
  rw [afterPacket, hrunning]
  rcases outcome with _ | _ <;> exact nofun

namespace CaptureLane

variable {fresh lane : CaptureLane} {pulls : List Pull}

/-- The lane of a new worker, behind the pulls it has handled. -/
structure Follows (fresh : CaptureLane) (pulls : List Pull) (lane : CaptureLane) : Prop where
  stream : lane.worker.stream = fresh.worker.stream
  kind : lane.worker.kind = fresh.worker.kind
  source : lane.worker.source = fresh.worker.source
  /-- It counts the packets, but not one that broke it. -/
  packets : lane.worker.packets + (if lane.worker.life = .broken then 1 else 0) =
    pulls.countP Pull.isPacket
  errors : lane.worker.errors = pulls.countP Pull.isFailure
  failing : lane.worker.failing = decide (Pull.failures pulls ≠ 0)
  pause : lane.worker.pause =
    min (Worker.firstPause * 2 ^ Pull.failures pulls) Worker.longestPause
  pauses : lane.worker.pauses = Pull.pauses pulls
  history : lane.history = fresh.history.pushAll (Pull.packets fresh.worker.stream pulls)
  /-- The worker is broken just if the history broke down with one of the packets. -/
  breaks : lane.worker.life = .broken ↔
    ¬fresh.history.TakesAll (Pull.packets fresh.worker.stream pulls)

section Start

variable {stream : Nat} {source : String} {history : History}

theorem life_of_start (hstart : start stream source history none = .ok fresh) :
    fresh.worker.life = .running := by
  cases hstart
  rfl

/-- A new worker has handled no pull. -/
theorem follows_nil (hstart : start stream source history none = .ok fresh) :
    fresh.Follows [] fresh := by
  cases hstart
  exact ⟨rfl, rfl, rfl, rfl, rfl, rfl, rfl, rfl, rfl, iff_of_false nofun (not_not_intro .nil)⟩

end Start

/-- The history of a worker that is not broken took all packets. -/
theorem Follows.takesAll (h : fresh.Follows pulls lane) (hlife : lane.worker.life ≠ .broken) :
    fresh.history.TakesAll (Pull.packets fresh.worker.stream pulls) :=
  not_not.1 (mt h.breaks.2 hlife)

/-- It does not matter whether a worker that runs has stopped since. -/
theorem Follows.stopped (h : fresh.Follows pulls lane) (hrunning : lane.worker.life = .running) :
    fresh.Follows pulls { lane with worker := { lane.worker with life := .stopped } } where
  stream := h.stream
  kind := h.kind
  source := h.source
  packets := by
    rw [← h.packets, hrunning]
    rfl
  errors := h.errors
  failing := h.failing
  pause := h.pause
  pauses := h.pauses
  history := h.history
  breaks := by
    rw [← h.breaks, hrunning]
    exact iff_of_false nofun nofun

/-- The pause due is the one the worker has in store. -/
theorem Follows.pauseAfter_failed (h : fresh.Follows pulls lane)
    (failure : Failure) : Pull.pauseAfter pulls (.failed failure) = lane.worker.pause :=
  h.pause.symm

theorem nextPause_min (failures : Nat) :
    Worker.nextPause (min (Worker.firstPause * 2 ^ failures) Worker.longestPause) =
      min (Worker.firstPause * 2 ^ (failures + 1)) Worker.longestPause := by
  rw [Worker.nextPause, Nat.pow_succ, ← Nat.mul_assoc]
  omega

theorem Follows.packet (h : fresh.Follows pulls lane) (hrunning : lane.worker.life = .running)
    (packet : Packet) :
    let pushed := lane.history.push (packet.onStream fresh.worker.stream)
    fresh.Follows (pulls ++ [.packet packet]) ⟨lane.worker.afterPacket pushed.1, pushed.2⟩ where
  stream := h.stream
  kind := h.kind
  source := h.source
  packets := by
    have hbefore := h.packets
    rw [List.countP_append, ← hbefore, hrunning, Worker.afterPacket]
    rcases (lane.history.push (packet.onStream fresh.worker.stream)).1 with ⟨⟩ | ⟨⟩
    · rfl
    · show _ + (if lane.worker.life = .broken then 1 else 0) = _
      rw [hrunning]
      rfl
  errors := by
    rw [List.countP_append, ← h.errors]
    rfl
  failing := by
    rw [Pull.failures_concat_packet]
    rfl
  pause := by
    rw [Pull.failures_concat_packet]
    show (if lane.worker.failing then Worker.firstPause else lane.worker.pause) = _
    rw [h.failing, h.pause]
    by_cases hnone : Pull.failures pulls = 0
    · rw [if_neg (by simp [hnone]), hnone]
    · rw [if_pos (by simp [hnone])]
      rfl
  pauses := by
    rw [Pull.pauses_concat, ← h.pauses]
    exact (List.append_nil _).symm
  history := by
    rw [Pull.packets_concat_packet, h.history]
    exact (History.pushAll_concat _ _).symm
  breaks := by
    have htakes := h.takesAll (by rw [hrunning]; exact nofun)
    rw [Pull.packets_concat_packet, History.takesAll_concat, ← h.history, Worker.afterPacket]
    rcases (lane.history.push (packet.onStream fresh.worker.stream)).1 with ⟨⟩ | ⟨⟩
    · exact iff_of_true rfl (fun hall => nomatch hall.2)
    · exact iff_of_false (by rw [hrunning]; exact nofun) (not_not_intro ⟨htakes, rfl⟩)

/-- A pull that gives nothing changes nothing. -/
theorem Follows.nothing (h : fresh.Follows pulls lane) :
    fresh.Follows (pulls ++ [.nothing]) lane where
  stream := h.stream
  kind := h.kind
  source := h.source
  packets := by
    rw [List.countP_append, ← h.packets]
    rfl
  errors := by
    rw [List.countP_append, ← h.errors]
    rfl
  failing := by rw [Pull.failures_concat_nothing, h.failing]
  pause := by rw [Pull.failures_concat_nothing, h.pause]
  pauses := by
    rw [Pull.pauses_concat, ← h.pauses]
    exact (List.append_nil _).symm
  history := by rw [Pull.packets_concat_nothing, h.history]
  breaks := by rw [Pull.packets_concat_nothing, ← h.breaks]

theorem Follows.failed (h : fresh.Follows pulls lane) (failure : Failure) :
    fresh.Follows (pulls ++ [.failed failure])
      { lane with worker := lane.worker.afterFailure } where
  stream := h.stream
  kind := h.kind
  source := h.source
  packets := by
    rw [List.countP_append, ← h.packets]
    rfl
  errors := by
    rw [List.countP_append, ← h.errors]
    rfl
  failing := by
    rw [Pull.failures_concat_failed]
    exact (decide_eq_true (Nat.succ_ne_zero _)).symm
  pause := by
    rw [Pull.failures_concat_failed, ← nextPause_min, ← h.pause]
    rfl
  pauses := by
    rw [Pull.pauses_concat, ← h.pauses, h.pauseAfter_failed]
    rfl
  history := by rw [Pull.packets_concat_failed, h.history]
  breaks := by
    rw [Pull.packets_concat_failed, ← h.breaks]
    rfl

/-- **What a worker does with a pull follows from the streak it stands in.** -/
theorem Follows.exists_take (scene : Scene CaptureLane) {pull : Pull}
    (h : fresh.Follows pulls scene.state) (hrunning : scene.state.worker.life = .running)
    (hpull : pull ≠ .broke) :
    ∃ later, (take pull).run.run scene =
        (.ok (), ⟨later, scene.log ++ Pull.notes fresh.worker pulls pull⟩) ∧
      fresh.Follows (pulls ++ [pull]) later ∧ later.worker.life ≠ .stopped := by
  have hworks : scene.state.worker.life ≠ .stopped := by rw [hrunning]; exact nofun
  rw [take, Act.run_bind_ok (Act.run_state scene)]
  dsimp only
  rw [h.source, h.stream, h.failing]
  cases pull with
  | packet packet =>
    by_cases hnone : Pull.failures pulls = 0
    · simp only [hnone, ne_eq, not_true_eq_false, decide_false, Bool.false_eq_true, if_false]
      refine ⟨_, ?_, h.packet hrunning packet, Worker.life_afterPacket hrunning _⟩
      rw [Pull.notes, if_pos hnone]
      rfl
    · simp only [hnone, ne_eq, not_false_eq_true, decide_true, if_true]
      refine ⟨_, ?_, h.packet hrunning packet, Worker.life_afterPacket hrunning _⟩
      rw [Pull.notes, if_neg hnone]
      simp only [← List.append_assoc]
      rfl
  | nothing =>
    refine ⟨_, ?_, h.nothing, hworks⟩
    rw [Pull.notes_nothing, List.append_nil]
    rfl
  | failed failure =>
    by_cases hnone : Pull.failures pulls = 0
    · simp only [hnone, ne_eq, not_true_eq_false, decide_false, Bool.false_eq_true, if_false]
      refine ⟨_, ?_, h.failed failure, hworks⟩
      rw [Pull.notes, if_pos hnone]
      rfl
    · simp only [hnone, ne_eq, not_false_eq_true, decide_true, if_true]
      refine ⟨_, ?_, h.failed failure, hworks⟩
      rw [Pull.notes, if_neg hnone]
      rfl
  | broke => exact absurd rfl hpull

/-- A worker that has not stopped runs, unless the history broke down with one of the packets. -/
theorem Follows.running (h : fresh.Follows pulls lane) (hlife : lane.worker.life ≠ .stopped)
    (htakes : fresh.history.TakesAll (Pull.packets fresh.worker.stream pulls)) :
    lane.worker.life = .running := by
  have hbroken := mt h.breaks.1 (not_not_intro htakes)
  cases hwhich : lane.worker.life with
  | running => rfl
  | stopped => exact absurd hwhich hlife
  | broken => exact absurd hwhich hbroken

/-- What a worker does with pulls in turn, of which none but the last one breaks it. -/
theorem Follows.exists_run {pulls : List Pull} (hpulls : ∀ pull ∈ pulls, pull ≠ .broke)
    {earlier : List Pull} (scene : Scene CaptureLane) (h : fresh.Follows earlier scene.state)
    (hlife : scene.state.worker.life ≠ .stopped)
    (hworks : AtEach pulls fun before _ _ =>
      fresh.history.TakesAll (Pull.packets fresh.worker.stream (earlier ++ before))) :
    ∃ later, (run pulls).run.run scene =
        (.ok (), ⟨later, scene.log ++ Pull.allNotes fresh.worker earlier pulls⟩) ∧
      fresh.Follows (earlier ++ pulls) later ∧ later.worker.life ≠ .stopped := by
  induction pulls generalizing earlier scene with
  | nil =>
    refine ⟨scene.state, ?_, by rwa [List.append_nil], hlife⟩
    rw [Pull.allNotes, List.append_nil]
    rfl
  | cons pull rest ih =>
    obtain ⟨hpull, hrest⟩ := List.forall_mem_cons.1 hpulls
    have hrunning := h.running hlife (by simpa using hworks [] pull rest rfl)
    obtain ⟨middle, htake, hmiddle, hmiddleLife⟩ := h.exists_take scene hrunning hpull
    obtain ⟨later, hrun, hlater, hlast⟩ := ih hrest ⟨middle, _⟩ hmiddle hmiddleLife
      fun before other behind hsplit => by
        simpa only [List.append_assoc, List.singleton_append] using
          hworks (pull :: before) other behind (congrArg _ hsplit)
    refine ⟨later, ?_, by rwa [List.append_cons], hlast⟩
    rw [run, Act.run_bind_ok (Act.run_state scene), Worker.isFinished, hrunning]
    show (take pull >>= fun _ => run rest).run.run scene = _
    rw [Act.run_bind_ok htake, hrun, Pull.allNotes, List.append_assoc]

/-- The pulls say whether a worker that has not stopped is broken. -/
theorem Follows.life_eq {other : CaptureLane} (h : fresh.Follows pulls lane)
    (hother : fresh.Follows pulls other) (hlife : lane.worker.life ≠ .stopped)
    (hotherLife : other.worker.life ≠ .stopped) : lane.worker.life = other.worker.life := by
  by_cases htakes : fresh.history.TakesAll (Pull.packets fresh.worker.stream pulls)
  · exact (h.running hlife htakes).trans (hother.running hotherLife htakes).symm
  · exact (h.breaks.2 htakes).trans (hother.breaks.2 htakes).symm

/-- The pulls and whether the worker has stopped leave nothing open about its lane. -/
theorem Follows.eq_of_life_eq {other : CaptureLane} (h : fresh.Follows pulls lane)
    (hother : fresh.Follows pulls other) (hlife : lane.worker.life = other.worker.life) :
    lane = other := by
  obtain ⟨⟨stream, kind, source, packets, errors, failing, pause, pauses, life⟩, history⟩ := lane
  obtain ⟨⟨_, _, _, _, _, _, _, _, _⟩, _⟩ := other
  have hpackets := h.packets.trans hother.packets.symm
  rw [hlife] at hpackets
  simp only [CaptureLane.mk.injEq, Worker.mk.injEq]
  exact ⟨⟨h.stream.trans hother.stream.symm, h.kind.trans hother.kind.symm,
    h.source.trans hother.source.symm, Nat.add_right_cancel hpackets,
    h.errors.trans hother.errors.symm, h.failing.trans hother.failing.symm,
    h.pause.trans hother.pause.symm, h.pauses.trans hother.pauses.symm, hlife⟩,
    h.history.trans hother.history.symm⟩

end CaptureLane

end InstantReplay
