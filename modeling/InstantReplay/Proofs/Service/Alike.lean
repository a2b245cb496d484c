import InstantReplay.Proofs.Service.Session
import InstantReplay.Proofs.Wire.Reach

/-!
# Two visits of the same client

Where the system gives the same answers, the service sends equally much of the same messages to a
client that does the same, whatever the backend did before (`Visit.Alike.abreast_serve`), as long as
the backend makes no difference itself (`CaptureMachine.Independent`). Only the times of the frames
follow the clock.
-/

namespace InstantReplay

open Outbound

variable {β ς : Type}

/-- What a request comes to depends on the request alone, and what the captures of a session come to
depends on the session alone: not on what happened to the backend before. -/
structure CaptureMachine.Independent (machine : CaptureMachine β ς) : Prop where
  opens : ∀ (device : String) (framerate : Int32) (first second : β),
    ((machine.openSession device framerate).runOn first).1 =
      ((machine.openSession device framerate).runOn second).1
  captures : ∀ (device : String) (framerate : Int32) (first second : β) (session : ς),
    ((machine.openSession device framerate).runOn first).1 = .ok (some session) →
      ∀ rounds,
        machine.captures session rounds
            ((machine.openSession device framerate).runOn first).2.1 =
          machine.captures session rounds
            ((machine.openSession device framerate).runOn second).2.1

namespace Visit

variable {first second : Visit β} {cells others front : List Cell} {α : Type}

/-! ## Two visits of the same client -/

/-- Two visits of a client that sends the same and leaves at the same message, to which the system
gives the same answers. The backends and the clocks may differ. -/
structure Alike (first second : Visit β) : Prop where
  inbound : first.inbound = second.inbound
  outbound : first.outbound.Twin second.outbound
  passing : SendAnswer.takes 0 ∉ first.outbound.messages
  patience : first.patience = second.patience
  times : ∀ time ∈ first.times, 0 ≤ time
  others : ∀ time ∈ second.times, 0 ≤ time

/-- Two actions of the service in such visits: they come to the same, and send equally much. -/
structure Abreast (first second : Visit β) (cells others : List Cell)
    (done other : Except Failure α × Scene (Visit β)) : Prop where
  result_eq : done.1 = other.1
  alike : done.2.state.Alike other.2.state
  reach : ∃ count, first.outbound.Reaches cells count done.2.state.outbound ∧
    second.outbound.Reaches others count other.2.state.outbound ∧
    ∀ value, done.1 = .ok value → count = cells.length

theorem Alike.withBackends (h : first.Alike second) (backend other : β) :
    Alike { first with backend } { second with backend := other } :=
  ⟨h.inbound, h.outbound, h.passing, h.patience, h.times, h.others⟩

/-- Actions that send nothing. -/
theorem abreast_of_idle {done other : Except Failure α × Scene (Visit β)}
    (hresult : done.1 = other.1) (halike : done.2.state.Alike other.2.state)
    (hdone : done.2.state.outbound = first.outbound)
    (hother : other.2.state.outbound = second.outbound) :
    Abreast first second [] [] done other :=
  ⟨hresult, halike, 0, .zero (by rw [hdone]) (by rw [hdone]; exact List.Subset.refl _) _,
    .zero (by rw [hother]) (by rw [hother]; exact List.Subset.refl _) _, fun _ _ => rfl⟩

/-- The client's end as the next message finds it. -/
def offered (visit : Visit β) : Outbound :=
  { visit.outbound with gone := if visit.patience = some 0 then some Errno.brokenPipe else none }

theorem Alike.offered (h : first.Alike second) : first.offered.Twin second.offered :=
  ⟨h.outbound.messages, h.outbound.writes, by rw [Visit.offered, Visit.offered, h.patience]⟩

theorem run_send (f : Outbound → Except Failure Unit × Outbound) (visit : Visit β)
    (log : List LogLine) :
    (sendBy f).run.run ⟨visit, log⟩ =
      ((f visit.offered).1,
        ⟨{ visit with outbound := (f visit.offered).2, patience := visit.patience.map (· - 1) },
          log⟩) := by
  rw [sendBy, Act.run_bind_ok (Act.run_step _ _), Act.run_ofExcept]
  rfl

/-- A message leaves the backend and the clock. -/
theorem state_of_sendBy {f : Outbound → Except Failure Unit × Outbound} {visit : Visit β}
    {log : List LogLine} {result : Except Failure Unit} {later : Scene (Visit β)}
    (h : (sendBy f).run.run ⟨visit, log⟩ = (result, later)) :
    later.state.backend = visit.backend ∧ later.state.times = visit.times := by
  rw [run_send] at h
  cases h
  exact ⟨rfl, rfl⟩

/-- Two messages that come equally far. -/
theorem Alike.abreast_sendBy (h : first.Alike second)
    {f g : Outbound → Except Failure Unit × Outbound}
    (htogether : Together first.offered second.offered cells others (f first.offered)
      (g second.offered)) (log lines : List LogLine) :
    Abreast first second cells others ((sendBy f).run.run ⟨first, log⟩)
      ((sendBy g).run.run ⟨second, lines⟩) := by
  obtain ⟨count, hfirst, hsecond, hwhole⟩ := htogether.reach
  rw [run_send, run_send]
  refine ⟨htogether.result_eq, ⟨h.inbound, htogether.twin, ?_, ?_, h.times, h.others⟩, count,
    ⟨hfirst.cells_eq, hfirst.count_le, hfirst.messages⟩,
    ⟨hsecond.cells_eq, hsecond.count_le, hsecond.messages⟩, fun value hvalue => hwhole hvalue⟩
  · exact fun hmem => h.passing (hfirst.messages hmem)
  · exact congrArg (Option.map (· - 1)) h.patience

/-- Actions in turn: the second ones send behind what the first ones sent, or nothing. -/
theorem Abreast.bind {γ : Type} {action : Act (Visit β) γ} {next : γ → Act (Visit β) α}
    {log lines : List LogLine} {fronts backs : List Cell}
    (h : Abreast first second front fronts (action.run.run ⟨first, log⟩)
      (action.run.run ⟨second, lines⟩)) (hlength : front.length = fronts.length)
    (hnext : ∀ value middle later, action.run.run ⟨first, log⟩ = (.ok value, middle) →
      action.run.run ⟨second, lines⟩ = (.ok value, later) →
      Abreast middle.state later.state cells backs ((next value).run.run middle)
        ((next value).run.run later)) :
    Abreast first second (front ++ cells) (fronts ++ backs)
      ((action >>= next).run.run ⟨first, log⟩) ((action >>= next).run.run ⟨second, lines⟩) := by
  rcases hfirst : action.run.run ⟨first, log⟩ with ⟨result, middle⟩
  rcases hsecond : action.run.run ⟨second, lines⟩ with ⟨other, later⟩
  rw [hfirst, hsecond] at h
  obtain ⟨hresult, halike, count, hdone, hother, hwhole⟩ := h
  obtain rfl : result = other := hresult
  cases result with
  | error failure =>
    rw [Act.run_bind_error hfirst, Act.run_bind_error hsecond]
    exact ⟨rfl, halike, count, hdone.inside cells, hother.inside backs, nofun⟩
  | ok value =>
    obtain rfl : count = front.length := hwhole value rfl
    rw [Act.run_bind_ok hfirst, Act.run_bind_ok hsecond]
    obtain ⟨hresult, hlast, more, hmore, hothers, hrest⟩ := hnext value middle later hfirst hsecond
    refine ⟨hresult, hlast, front.length + more, hdone.behind hmore, ?_, fun value hvalue => ?_⟩
    · rw [hlength] at hother ⊢
      exact hother.behind hothers
    · rw [hrest value hvalue, List.length_append]

/-! ## Captures -/

/-- The message that answers a capture with this frame. -/
def messageFor (times : List Int64) : Option Frame → Int64 × Option Frame
  | none => (FrameMessage.noFrame, none)
  | some frame => (times.headD 0, some frame)

/-- What is left of the clock after this message. -/
def timesAfter (times : List Int64) : Option Frame → List Int64
  | none => times
  | some _ => times.tail

theorem messagesFor_cons (times : List Int64) (frame : Option Frame)
    (frames : List (Option Frame)) : messagesFor times (frame :: frames) =
      messageFor times frame :: messagesFor (timesAfter times frame) frames := by
  cases frame <;> rfl

theorem mem_times_of_mem_timesAfter {times : List Int64} {frame : Option Frame} {time : Int64}
    (h : time ∈ timesAfter times frame) : time ∈ times := by
  cases frame with
  | none => exact h
  | some frame => exact List.mem_of_mem_tail h

theorem alike_messageFor {times others : List Int64} (htimes : ∀ time ∈ times, 0 ≤ time)
    (hothers : ∀ time ∈ others, 0 ≤ time) (frame : Option Frame) :
    FrameMessage.Alike (messageFor times frame) (messageFor others frame) := by
  cases frame with
  | none => exact ⟨rfl, Iff.rfl⟩
  | some frame =>
    refine ⟨rfl, iff_of_false ?_ ?_⟩
    · exact Int64.not_lt.2 (headD_nonneg htimes)
    · exact Int64.not_lt.2 (headD_nonneg hothers)

theorem run_sendFrame (frame : Option Frame) (visit : Visit β) (log : List LogLine) :
    (sendFrame frame).run.run ⟨visit, log⟩ =
      (sendBy (FrameMessage.send (messageFor visit.times frame).1
        (messageFor visit.times frame).2)).run.run
          ⟨{ visit with times := timesAfter visit.times frame }, log⟩ := by
  cases frame with
  | none => rfl
  | some frame =>
    rw [sendFrame, Act.run_bind_ok (Act.run_step _ _)]
    rfl

/-- A message leaves the backend, and takes its time from the clock. -/
theorem state_of_sendFrame {frame : Option Frame} {visit : Visit β} {log : List LogLine}
    {result : Except Failure Unit} {later : Scene (Visit β)}
    (h : (sendFrame frame).run.run ⟨visit, log⟩ = (result, later)) :
    later.state.backend = visit.backend ∧ later.state.times = timesAfter visit.times frame := by
  rw [run_sendFrame] at h
  exact state_of_sendBy h

/-- **A capture is answered alike** in both visits. -/
theorem Alike.abreast_sendFrame (h : first.Alike second) (frame : Option Frame)
    (log lines : List LogLine) :
    Abreast first second
      (FrameMessage.cells (messageFor first.times frame).1 (messageFor first.times frame).2)
      (FrameMessage.cells (messageFor second.times frame).1 (messageFor second.times frame).2)
      ((sendFrame frame).run.run ⟨first, log⟩) ((sendFrame frame).run.run ⟨second, lines⟩) := by
  have hticked : Alike { first with times := timesAfter first.times frame }
      { second with times := timesAfter second.times frame } :=
    ⟨h.inbound, h.outbound, h.passing, h.patience,
      fun time htime => h.times time (mem_times_of_mem_timesAfter htime),
      fun time htime => h.others time (mem_times_of_mem_timesAfter htime)⟩
  have htogether := FrameMessage.together_send hticked.offered hticked.passing
    (alike_messageFor h.times h.others frame)
  rw [run_sendFrame, run_sendFrame]
  obtain ⟨hresult, halike, hreach⟩ := hticked.abreast_sendBy htogether log lines
  exact ⟨hresult, halike, hreach⟩

/-- One round: the captures are over, or the next one is answered. -/
theorem captureRounds_succ_cases (machine : CaptureMachine β ς) (session : ς) (rounds : Nat)
    (visit : Visit β) (log : List LogLine) :
    (∃ inOrder backend lines, machine.captures session (rounds + 1) visit.backend = ([], inOrder) ∧
      (captureRounds machine session (rounds + 1)).run.run ⟨visit, log⟩ =
        (.ok inOrder, ⟨{ visit with backend }, lines⟩)) ∨
    ∃ capture backend lines,
      machine.captures session (rounds + 1) visit.backend =
        (capture :: (machine.captures session rounds backend).1,
          (machine.captures session rounds backend).2) ∧
      (captureRounds machine session (rounds + 1)).run.run ⟨visit, log⟩ =
        (sendFrame (frameOf capture) >>= fun _ => captureRounds machine session rounds).run.run
          ⟨{ visit with backend }, lines⟩ := by
  rw [captureRounds, Act.run_bind_ok (Act.run_state _), CaptureMachine.captures]
  by_cases hrunning : machine.isRunning visit.backend
  · rw [if_pos hrunning, if_neg (by simp [hrunning]), Act.run_bind_ok (run_onBackend _ _)]
    rcases hcapture : (machine.capture session).runOn visit.backend with
      ⟨failure | _ | frame, backend, lines⟩
    · refine Or.inr ⟨.error failure, backend,
        log ++ lines ++ [.debug ("Capture attempt failed: " ++ failure.message)], rfl, ?_⟩
      rw [Act.run_bind_ok (Act.run_note _ _)]
      rfl
    · exact Or.inl ⟨false, backend, _, rfl, rfl⟩
    · exact Or.inr ⟨.ok frame, backend, _, rfl, rfl⟩
  · rw [if_neg hrunning, if_pos (by simp [hrunning])]
    exact Or.inl ⟨true, visit.backend, log, rfl, rfl⟩

/-- The messages of two visits with the same captures. -/
theorem Alike.abreast_captureRounds (machine : CaptureMachine β ς) (session : ς) (rounds : Nat)
    (h : first.Alike second)
    (hcaptures : machine.captures session rounds first.backend =
      machine.captures session rounds second.backend) (log lines : List LogLine) :
    Abreast first second
      (FrameMessage.cellsOf (messagesFor first.times
        ((machine.captures session rounds first.backend).1.map frameOf)))
      (FrameMessage.cellsOf (messagesFor second.times
        ((machine.captures session rounds first.backend).1.map frameOf)))
      ((captureRounds machine session rounds).run.run ⟨first, log⟩)
      ((captureRounds machine session rounds).run.run ⟨second, lines⟩) := by
  induction rounds generalizing first second log lines with
  | zero => exact abreast_of_idle rfl h rfl rfl
  | succ rounds ih =>
    rcases captureRounds_succ_cases machine session rounds first log with
      ⟨inOrder, backend, notes, hnone, hrun⟩ | ⟨capture, backend, notes, hcapture, hrun⟩
    · rcases captureRounds_succ_cases machine session rounds second lines with
        ⟨other, backend', notes', hother, hrun'⟩ | ⟨other, backend', notes', hother, hrun'⟩
      · rw [hnone, hother] at hcaptures
        obtain rfl : inOrder = other := (Prod.mk.inj hcaptures).2
        rw [hrun, hrun', hnone]
        exact abreast_of_idle rfl (h.withBackends backend backend') rfl rfl
      · rw [hnone, hother] at hcaptures
        cases (Prod.mk.inj hcaptures).1
    · rcases captureRounds_succ_cases machine session rounds second lines with
        ⟨other, backend', notes', hother, hrun'⟩ | ⟨other, backend', notes', hother, hrun'⟩
      · rw [hcapture, hother] at hcaptures
        cases (Prod.mk.inj hcaptures).1
      · rw [hcapture, hother] at hcaptures
        obtain ⟨hcons, hinOrder⟩ := Prod.mk.inj hcaptures
        obtain ⟨rfl, hrest⟩ := List.cons.inj hcons
        have halike := h.withBackends backend backend'
        have hfirst := halike.abreast_sendFrame (frameOf capture) notes notes'
        rw [hrun, hrun', hcapture, List.map_cons, messagesFor_cons, messagesFor_cons,
          FrameMessage.cellsOf, FrameMessage.cellsOf, List.flatMap_cons, List.flatMap_cons]
        obtain ⟨hresult, hlater, hreach⟩ := hfirst.bind
          (alike_messageFor h.times h.others (frameOf capture)).length_cells
          fun value middle later hmiddle hlater => by
            obtain ⟨hbackend, htimes⟩ := state_of_sendFrame hmiddle
            obtain ⟨hbackend', htimes'⟩ := state_of_sendFrame hlater
            have hnext := hfirst.alike
            rw [hmiddle, hlater] at hnext
            have hsame : machine.captures session rounds middle.state.backend =
                machine.captures session rounds later.state.backend := by
              rw [hbackend, hbackend']
              exact Prod.ext hrest hinOrder
            have hrounds := ih hnext hsame middle.log later.log
            rw [hbackend, htimes, htimes'] at hrounds
            exact hrounds
        exact ⟨hresult, hlater, hreach⟩

/-! ## Sessions -/

theorem run_readRequest (visit : Visit β) (log : List LogLine) :
    readRequest.run.run ⟨visit, log⟩ =
      ((CaptureRequest.receive visit.inbound).1,
        ⟨{ visit with inbound := (CaptureRequest.receive visit.inbound).2 }, log⟩) := by
  rw [readRequest, Act.run_bind_ok (Act.run_step _ _), Act.run_ofExcept]

/-- **Two visits of the same client are served alike**, if the backend makes no difference. -/
theorem Alike.abreast_serve {machine : CaptureMachine β ς} (hmachine : machine.Independent)
    (h : first.Alike second) (rounds : Nat) (log lines : List LogLine) :
    ∃ front frames, Abreast first second
      (front ++ FrameMessage.cellsOf (messagesFor first.times frames))
      (front ++ FrameMessage.cellsOf (messagesFor second.times frames))
      ((serve machine rounds).run.run ⟨first, log⟩)
      ((serve machine rounds).run.run ⟨second, lines⟩) := by
  have hread := run_readRequest first log
  have hread' := run_readRequest second lines
  rw [← h.inbound] at hread'
  rcases hrequest : CaptureRequest.receive first.inbound with ⟨failure | request, rest⟩
  · rw [hrequest] at hread hread'
    rw [serve, Act.run_bind_error hread, Act.run_bind_error hread']
    exact ⟨[], [], abreast_of_idle rfl
      ⟨rfl, h.outbound, h.passing, h.patience, h.times, h.others⟩ rfl rfl⟩
  · rw [hrequest] at hread hread'
    have hsame := hmachine.opens request.device request.framerate first.backend second.backend
    have hcaptures :=
      hmachine.captures request.device request.framerate first.backend second.backend
    rw [serve, Act.run_bind_ok hread, Act.run_bind_ok hread', Act.run_bind_ok (Act.run_note _ _),
      Act.run_bind_ok (Act.run_note _ _), Act.run_bind_ok (run_onBackend _ _),
      Act.run_bind_ok (run_onBackend _ _)]
    dsimp only
    rcases hfirst : (machine.openSession request.device request.framerate).runOn first.backend with
      ⟨opened, backend, notes⟩
    rcases hsecond : (machine.openSession request.device request.framerate).runOn second.backend
      with ⟨opened', backend', notes'⟩
    rw [hfirst, hsecond] at hsame hcaptures
    obtain rfl : opened = opened' := hsame
    have halike : Alike { first with inbound := rest, backend }
        { second with inbound := rest, backend := backend' } :=
      ⟨rfl, h.outbound, h.passing, h.patience, h.times, h.others⟩
    rcases opened with failure | _ | session
    · exact ⟨[], [], abreast_of_idle rfl halike rfl rfl⟩
    · exact ⟨[], [], abreast_of_idle rfl halike rfl rfl⟩
    · have hparams := halike.abreast_sendBy (DeviceParams.together_send halike.offered
        halike.passing (machine.params session) (machine.device session))
        (log ++ [requestNote request] ++ notes) (lines ++ [requestNote request] ++ notes')
      obtain ⟨hresult, hlater, hreach⟩ := hparams.bind rfl
        fun value middle later hmiddle hlater => by
          obtain ⟨hbackend, htimes⟩ := state_of_sendBy hmiddle
          obtain ⟨hbackend', htimes'⟩ := state_of_sendBy hlater
          have hnext := hparams.alike
          rw [hmiddle, hlater] at hnext
          have hsame : machine.captures session rounds middle.state.backend =
              machine.captures session rounds later.state.backend := by
            rw [hbackend, hbackend']
            exact hcaptures session rfl rounds
          have hrounds := hnext.abreast_captureRounds machine session rounds hsame middle.log
            later.log
          rw [hbackend, htimes, htimes'] at hrounds
          exact hrounds
      refine ⟨(machine.params session).cells (machine.device session),
        (machine.captures session rounds backend).1.map frameOf, hresult, hlater, hreach⟩

/-! ## How long a session lasts -/

variable {visit : Visit β} {count rounds more : Nat}

/-- A message to a client that stays for some more: one fewer. -/
theorem patience_of_sendBy {f : Outbound → Except Failure Unit × Outbound} (visit : Visit β)
    {log : List LogLine} {later : Scene (Visit β)} (hpatience : visit.patience = some count)
    (hf : ∀ outbound code, outbound.gone = some code → (f outbound).1 ≠ .ok ())
    (h : (sendBy f).run.run ⟨visit, log⟩ = (.ok (), later)) :
    ∃ left, count = left + 1 ∧ later.state.patience = some left := by
  rw [run_send] at h
  cases count with
  | zero =>
    have hgone : visit.offered.gone = some Errno.brokenPipe := by rw [offered, if_pos hpatience]
    exact absurd (congrArg Prod.fst h) (hf _ _ hgone)
  | succ left =>
    cases (Prod.mk.inj h).2
    exact ⟨left, rfl, by rw [hpatience]; rfl⟩

theorem patience_of_sendFrame {frame : Option Frame} (visit : Visit β) {log : List LogLine}
    {later : Scene (Visit β)} (hpatience : visit.patience = some count)
    (h : (sendFrame frame).run.run ⟨visit, log⟩ = (.ok (), later)) :
    ∃ left, count = left + 1 ∧ later.state.patience = some left := by
  rw [run_sendFrame] at h
  exact patience_of_sendBy { visit with times := timesAfter visit.times frame } hpatience
    (fun outbound code hgone => FrameMessage.send_ne_ok hgone _ _) h

theorem captureRounds_of_patience (machine : CaptureMachine β ς) (session : ς)
    (hpatience : visit.patience = some count) (hrounds : count < rounds) (hmore : count < more)
    (log : List LogLine) :
    (captureRounds machine session rounds).run.run ⟨visit, log⟩ =
      (captureRounds machine session more).run.run ⟨visit, log⟩ := by
  induction rounds generalizing visit count more log with
  | zero => omega
  | succ rounds ih =>
    obtain ⟨more, rfl⟩ := Nat.exists_eq_add_one_of_ne_zero (Nat.ne_zero_of_lt hmore)
    have hanswer (frame : Option Frame) (backend : β) (log : List LogLine) :
        (sendFrame frame >>= fun _ => captureRounds machine session rounds).run.run
            ⟨{ visit with backend }, log⟩ =
          (sendFrame frame >>= fun _ => captureRounds machine session more).run.run
            ⟨{ visit with backend }, log⟩ := by
      rcases hsend : (sendFrame frame).run.run ⟨{ visit with backend }, log⟩ with
        ⟨failure | ⟨⟩, later⟩
      · rw [Act.run_bind_error hsend, Act.run_bind_error hsend]
      · obtain ⟨left, rfl, hleft⟩ := patience_of_sendFrame { visit with backend } hpatience hsend
        rw [Act.run_bind_ok hsend, Act.run_bind_ok hsend]
        exact ih hleft (by omega) (by omega) later.log
    rw [captureRounds, captureRounds, Act.run_bind_ok (Act.run_state _),
      Act.run_bind_ok (Act.run_state _)]
    by_cases hrunning : machine.isRunning visit.backend
    · rw [if_neg (by simp [hrunning]), if_neg (by simp [hrunning]),
        Act.run_bind_ok (run_onBackend _ _), Act.run_bind_ok (run_onBackend _ _)]
      rcases (machine.capture session).runOn visit.backend with
        ⟨failure | _ | frame, backend, lines⟩
      · rw [Act.run_bind_ok (Act.run_note _ _), Act.run_bind_ok (Act.run_note _ _)]
        exact hanswer none backend _
      · rfl
      · exact hanswer frame backend _
    · rw [if_pos (by simp [hrunning]), if_pos (by simp [hrunning])]

/-- **A session ends when its client is gone**: more captures change nothing. -/
theorem serve_of_patience (machine : CaptureMachine β ς) (hpatience : visit.patience = some count)
    (hrounds : count ≤ rounds) (hmore : count ≤ more) (log : List LogLine) :
    (serve machine rounds).run.run ⟨visit, log⟩ = (serve machine more).run.run ⟨visit, log⟩ := by
  have hread := run_readRequest visit log
  rcases hrequest : CaptureRequest.receive visit.inbound with ⟨failure | request, rest⟩
  · rw [hrequest] at hread
    rw [serve, serve, Act.run_bind_error hread, Act.run_bind_error hread]
  · rw [hrequest] at hread
    rw [serve, serve, Act.run_bind_ok hread, Act.run_bind_ok hread,
      Act.run_bind_ok (Act.run_note _ _), Act.run_bind_ok (Act.run_note _ _),
      Act.run_bind_ok (run_onBackend _ _), Act.run_bind_ok (run_onBackend _ _)]
    dsimp only
    rcases (machine.openSession request.device request.framerate).runOn visit.backend with
      ⟨failure | _ | session, backend, lines⟩
    · rfl
    · rfl
    · dsimp only
      rcases hsend : (sendBy ((machine.params session).send (machine.device session))).run.run
          ⟨{ visit with inbound := rest, backend }, log ++ [requestNote request] ++ lines⟩ with
        ⟨failure | ⟨⟩, later⟩
      · rw [Act.run_bind_error hsend, Act.run_bind_error hsend]
      · obtain ⟨left, rfl, hleft⟩ := patience_of_sendBy { visit with inbound := rest, backend }
          hpatience (fun outbound code hgone => DeviceParams.send_ne_ok hgone _ _) hsend
        rw [Act.run_bind_ok hsend, Act.run_bind_ok hsend]
        exact captureRounds_of_patience machine session hleft hrounds hmore later.log

end Visit

end InstantReplay
