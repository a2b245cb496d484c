import InstantReplay.Proofs.Service.Client
import InstantReplay.Service.Session

/-!
# What the service makes of a session

A client that cannot be served is sent nothing. Any other is sent the parameters of the device and
then one message for every capture, in their order, whatever the captures come to
(`Visit.exists_captureRounds`). Over the channel, the client sees the captures as they were, but for
the times of the frames and the reasons of failures (`Visit.serve_seen`).
-/

namespace InstantReplay

variable {β ς : Type}

/-- What the captures of a session come to, at most `rounds` of them, while the service is to go on,
and whether the backend is in order after them. Where a capture breaks down, it was the last. -/
def CaptureMachine.captures (machine : CaptureMachine β ς) (session : ς) :
    Nat → β → List (Except Failure (Option Frame)) × Bool
  | 0, _ => ([], true)
  | rounds + 1, backend =>
    if machine.isRunning backend then
      match (machine.capture session).runOn backend with
      | (.ok none, _, _) => ([], false)
      | (.ok (some frame), backend, _) =>
        ((captures machine session rounds backend).1.cons (.ok frame),
          (captures machine session rounds backend).2)
      | (.error failure, backend, _) =>
        ((captures machine session rounds backend).1.cons (.error failure),
          (captures machine session rounds backend).2)
    else ([], true)

namespace Visit

/-- The frame of a capture; a failure has none. -/
def frameOf : Except Failure (Option Frame) → Option Frame
  | .ok frame => frame
  | .error _ => none

/-- The messages that answer captures. Each frame takes a time of the clock. -/
def messagesFor : List Int64 → List (Option Frame) → List (Int64 × Option Frame)
  | _, [] => []
  | times, some frame :: rest => (times.headD 0, some frame) :: messagesFor times.tail rest
  | times, none :: rest => (FrameMessage.noFrame, none) :: messagesFor times rest

/-- A client sees a capture: its frame with some time, or that there is none. -/
def Seen (capture received : Except Failure (Option Frame)) : Prop :=
  ∃ pts : Int64, received = .ok ((frameOf capture).map fun frame => { frame with pts })

/-- The client stays, the socket works, and the clock never shows a negative time. -/
structure Attended (visit : Visit β) : Prop where
  works : visit.outbound.Working
  patience : visit.patience = none
  times : ∀ time ∈ visit.times, 0 ≤ time

variable {scene : Scene (Visit β)} {sent : Outbound}

/-! ## Messages -/

theorem headD_nonneg {times : List Int64} (h : ∀ time ∈ times, 0 ≤ time) :
    0 ≤ times.headD 0 := by
  cases times with
  | nil => exact Int64.le_refl 0
  | cons time times => exact h time List.mem_cons_self

@[simp] theorem length_messagesFor (times : List Int64) (frames : List (Option Frame)) :
    (messagesFor times frames).length = frames.length := by
  induction frames generalizing times with
  | nil => rfl
  | cons frame frames ih => cases frame <;> simp [messagesFor, ih]

theorem canSend_messagesFor {times : List Int64} {frames : List (Option Frame)}
    (hframes : ∀ frame, some frame ∈ frames → frame.Sendable) :
    ∀ message ∈ messagesFor times frames, FrameMessage.CanSend message.1 message.2 := by
  induction frames generalizing times with
  | nil => simp [messagesFor]
  | cons frame frames ih =>
    have hrest : ∀ other, some other ∈ frames → other.Sendable := fun other hother =>
      hframes other (List.mem_cons_of_mem _ hother)
    cases frame with
    | none =>
      rw [messagesFor, List.forall_mem_cons]
      exact ⟨Or.inl (by decide), ih hrest⟩
    | some frame =>
      rw [messagesFor, List.forall_mem_cons]
      refine ⟨Or.inr ?_, ih hrest⟩
      rintro _ ⟨⟩
      exact hframes frame List.mem_cons_self

theorem forall₂_seen {times : List Int64} (htimes : ∀ time ∈ times, 0 ≤ time)
    (captures : List (Except Failure (Option Frame))) :
    List.Forall₂ Seen captures ((messagesFor times (captures.map frameOf)).map fun message =>
      .ok (FrameMessage.delivered message.1 message.2)) := by
  induction captures generalizing times with
  | nil => exact List.Forall₂.nil
  | cons capture captures ih =>
    rw [List.map_cons]
    cases hframe : frameOf capture with
    | none =>
      rw [messagesFor, List.map_cons]
      refine List.Forall₂.cons ⟨0, ?_⟩ (ih htimes)
      rw [hframe]
      rfl
    | some frame =>
      rw [messagesFor, List.map_cons]
      refine List.Forall₂.cons ⟨times.headD 0, ?_⟩
        (ih fun time htime => htimes time (List.mem_of_mem_tail htime))
      rw [hframe, FrameMessage.delivered, if_neg (Int64.not_lt.2 (headD_nonneg htimes))]

theorem run_sendBy (scene : Scene (Visit β)) (h : scene.state.Attended)
    {f : Outbound → Except Failure Unit × Outbound} {result : Except Failure Unit}
    (hsend : f scene.state.outbound = (result, sent)) :
    (sendBy f).run.run scene =
      (result, { scene with state := { scene.state with outbound := sent } }) := by
  obtain ⟨⟨backend, inbound, outbound, patience, times⟩, log⟩ := scene
  obtain ⟨hworks, hpatience, -⟩ := h
  obtain rfl : patience = none := hpatience
  have hgone : ({ outbound with gone := none } : Outbound) = outbound := by
    rw [← hworks.gone]
  rw [sendBy, Act.run_bind_ok (Act.run_step _ _)]
  dsimp only at hsend ⊢
  rw [if_neg (by simp), hgone, hsend, Act.run_ofExcept]
  rfl

/-- **A capture is answered** by one message. -/
theorem exists_sendFrame (scene : Scene (Visit β)) (h : scene.state.Attended)
    {frame : Option Frame} (hframe : ∀ picture ∈ frame, picture.Sendable) :
    ∃ message later, (sendFrame frame).run.run scene = (.ok (), later) ∧ later.state.Attended ∧
      later.state.backend = scene.state.backend ∧
      scene.state.outbound.Adds (FrameMessage.cells message.1 message.2) later.state.outbound ∧
      ∀ frames, messagesFor scene.state.times (frame :: frames) =
        message :: messagesFor later.state.times frames := by
  cases frame with
  | none =>
    obtain ⟨sent, hsend, hworks⟩ := FrameMessage.exists_send h.works
      (Or.inl (by decide) : FrameMessage.CanSend FrameMessage.noFrame none)
    refine ⟨(FrameMessage.noFrame, none), { scene with state := { scene.state with outbound := sent } },
      ?_, ⟨hworks, h.patience, h.times⟩, rfl, (FrameMessage.adds_send h.works.toSteady hsend).1,
      fun _ => rfl⟩
    rw [sendFrame, run_sendBy scene h hsend]
  | some frame =>
    have hcan : FrameMessage.CanSend (scene.state.times.headD 0) (some frame) := Or.inr hframe
    obtain ⟨sent, hsend, hworks⟩ := FrameMessage.exists_send h.works hcan
    have htimes : ∀ time ∈ scene.state.times.tail, 0 ≤ time := fun time htime =>
      h.times time (List.mem_of_mem_tail htime)
    have hticked : Attended { scene.state with times := scene.state.times.tail } :=
      ⟨h.works, h.patience, htimes⟩
    refine ⟨(scene.state.times.headD 0, some frame),
      { scene with state := { scene.state with
          outbound := sent
          times := scene.state.times.tail } },
      ?_, ⟨hworks, h.patience, htimes⟩, rfl, (FrameMessage.adds_send h.works.toSteady hsend).1,
      fun _ => rfl⟩
    rw [sendFrame, Act.run_bind_ok (Act.run_step _ _)]
    exact run_sendBy _ hticked hsend

/-! ## Captures -/

theorem run_onBackend {α : Type} (action : Act β α) (scene : Scene (Visit β)) :
    (onBackend action).attempt.run.run scene =
      (.ok (action.runOn scene.state.backend).1,
        { state := { scene.state with backend := (action.runOn scene.state.backend).2.1 }
          log := scene.log ++ (action.runOn scene.state.backend).2.2 }) := by
  rw [Act.run_attempt, onBackend, Act.run_within]

/-- **Captures are answered one by one**, whatever they come to. -/
theorem exists_captureRounds (machine : CaptureMachine β ς) (session : ς) (rounds : Nat)
    (scene : Scene (Visit β)) (h : scene.state.Attended)
    (hframes : ∀ frame, some frame ∈
      (machine.captures session rounds scene.state.backend).1.map frameOf → frame.Sendable) :
    ∃ later, (captureRounds machine session rounds).run.run scene =
        (.ok (machine.captures session rounds scene.state.backend).2, later) ∧
      scene.state.outbound.Adds
        (FrameMessage.cellsOf (messagesFor scene.state.times
          ((machine.captures session rounds scene.state.backend).1.map frameOf)))
        later.state.outbound := by
  induction rounds generalizing scene with
  | zero => exact ⟨scene, rfl, Outbound.Adds.refl h.works.toSteady⟩
  | succ rounds ih =>
    rw [captureRounds, Act.run_bind_ok (Act.run_state scene)]
    rw [CaptureMachine.captures] at hframes ⊢
    by_cases hrunning : machine.isRunning scene.state.backend
    · rw [if_pos hrunning] at hframes ⊢
      rw [if_neg (by simp [hrunning]), Act.run_bind_ok (run_onBackend _ scene)]
      -- Whatever the capture comes to, it is answered, and the others after it.
      have hanswer {backend : β} {lines : List LogLine} (frame : Option Frame)
          (hall : ∀ picture, some picture ∈
            frame :: (machine.captures session rounds backend).1.map frameOf →
              picture.Sendable) :
          ∃ later, (sendFrame frame >>= fun _ => captureRounds machine session rounds).run.run
              ⟨{ scene.state with backend := backend }, lines⟩ =
                (.ok (machine.captures session rounds backend).2, later) ∧
            scene.state.outbound.Adds (FrameMessage.cellsOf (messagesFor scene.state.times
              (frame :: (machine.captures session rounds backend).1.map frameOf)))
              later.state.outbound := by
        have hmiddle : Attended { scene.state with backend := backend } :=
          ⟨h.works, h.patience, h.times⟩
        obtain ⟨message, middle, hsend, hattended, hbackend, hadds, hmessages⟩ :=
          exists_sendFrame ⟨{ scene.state with backend := backend }, lines⟩ hmiddle
            fun picture hpicture => hall picture (List.mem_cons.2 (Or.inl hpicture.symm))
        dsimp only at hbackend
        subst hbackend
        obtain ⟨later, hrest, hlater⟩ := ih middle hattended fun picture hpicture =>
          hall picture (List.mem_cons_of_mem _ hpicture)
        refine ⟨later, by rw [Act.run_bind_ok hsend, hrest], ?_⟩
        rw [hmessages, FrameMessage.cellsOf, List.flatMap_cons]
        exact hadds.trans hlater
      rcases hcapture : (machine.capture session).runOn scene.state.backend with
        ⟨failure | _ | frame, backend, lines⟩
      · rw [hcapture] at hframes
        obtain ⟨later, hrun, hlater⟩ := hanswer none hframes
        exact ⟨later, by rw [Act.run_bind_ok (Act.run_note _ _)]; exact hrun, hlater⟩
      · exact ⟨_, rfl, Outbound.Adds.refl h.works.toSteady⟩
      · rw [hcapture] at hframes
        exact hanswer frame hframes
    · rw [if_neg hrunning]
      rw [if_pos (by simp [hrunning])]
      exact ⟨scene, rfl, Outbound.Adds.refl h.works.toSteady⟩

/-! ## The session -/

variable {visit : Visit β} {request : CaptureRequest}

theorem outbound_serve_of_malformed (machine : CaptureMachine β ς) (rounds : Nat)
    (hfilled : visit.inbound.Filled)
    (hmalformed : ∀ request : CaptureRequest, ¬ request.toBytes <+: visit.inbound.unread) :
    ((serve machine rounds).runOn visit).2.1.outbound = visit.outbound := by
  rcases hreceive : CaptureRequest.receive visit.inbound with ⟨failure | request, rest⟩
  · have hread : (readRequest (β := β)).run.run { state := visit } =
        (.error failure, { state := { visit with inbound := rest } }) := by
      rw [readRequest, Act.run_bind_ok (Act.run_step _ _), Act.run_ofExcept, hreceive]
    rw [Act.runOn, serve, Act.run_bind_error hread]
  · exact absurd (CaptureRequest.isPrefix_of_receive hfilled hreceive) (hmalformed request)

/-- A session, once its request is read and the device was asked for. -/
theorem exists_serve (machine : CaptureMachine β ς) (rounds : Nat)
    (hfilled : visit.inbound.Filled) (hfront : request.toBytes <+: visit.inbound.unread)
    {opened : Except Failure (Option ς)} {backend : β} {lines : List LogLine}
    (hopened : (machine.openSession request.device request.framerate).runOn visit.backend =
      (opened, backend, lines)) :
    ∃ inbound log, (serve machine rounds).run.run { state := visit } =
      (match opened with
        | .ok none => (.ok false, ⟨{ visit with inbound, backend }, log⟩)
        | .error _ => (.ok true, ⟨{ visit with inbound, backend }, log⟩)
        | .ok (some session) =>
          (sendBy ((machine.params session).send (machine.device session)) >>= fun _ =>
            captureRounds machine session rounds).run.run ⟨{ visit with inbound, backend }, log⟩) := by
  obtain ⟨inbound, hreceive, -⟩ := CaptureRequest.exists_receive hfilled hfront
  have hread : (readRequest (β := β)).run.run { state := visit } =
      (.ok request, { state := { visit with inbound } }) := by
    rw [readRequest, Act.run_bind_ok (Act.run_step _ _), Act.run_ofExcept, hreceive]
  rw [serve, Act.run_bind_ok hread, Act.run_bind_ok (Act.run_note _ _),
    Act.run_bind_ok (run_onBackend _ _), hopened]
  rcases opened with failure | _ | session
  · exact ⟨inbound, _, rfl⟩
  · exact ⟨inbound, _, rfl⟩
  · exact ⟨inbound, _, rfl⟩

theorem outbound_serve_of_refused (machine : CaptureMachine β ς) (rounds : Nat)
    (hfilled : visit.inbound.Filled) (hfront : request.toBytes <+: visit.inbound.unread)
    {opened : Except Failure (Option ς)} {backend : β} {lines : List LogLine}
    (hopened : (machine.openSession request.device request.framerate).runOn visit.backend =
      (opened, backend, lines)) (hnone : ∀ session, opened ≠ .ok (some session)) :
    ((serve machine rounds).runOn visit).2.1.outbound = visit.outbound := by
  obtain ⟨inbound, log, hserve⟩ := exists_serve machine rounds hfilled hfront hopened
  rw [Act.runOn, hserve]
  rcases opened with failure | _ | session
  · rfl
  · rfl
  · exact absurd rfl (hnone session)

theorem outbound_serve_of_tooLarge (machine : CaptureMachine β ς) (rounds : Nat)
    (h : visit.Attended) (hfilled : visit.inbound.Filled)
    (hfront : request.toBytes <+: visit.inbound.unread) {session : ς} {backend : β}
    {lines : List LogLine}
    (hopened : (machine.openSession request.device request.framerate).runOn visit.backend =
      (.ok (some session), backend, lines))
    (hsize : maxParamsSize < (machine.params session).toJson.length) :
    ((serve machine rounds).runOn visit).2.1.outbound = visit.outbound := by
  obtain ⟨inbound, log, hserve⟩ := exists_serve machine rounds hfilled hfront hopened
  have hrejected : ∃ failure, (machine.params session).send (machine.device session)
      visit.outbound = (.error failure, visit.outbound) := by
    simp only [DeviceParams.send, DeviceParams.toBytes, if_pos hsize]
    exact ⟨_, rfl⟩
  obtain ⟨failure, hsend⟩ := hrejected
  have hattended : Attended { visit with inbound, backend } := ⟨h.works, h.patience, h.times⟩
  rw [Act.runOn, hserve]
  dsimp only
  rw [Act.run_bind_error (run_sendBy ⟨_, log⟩ hattended hsend)]

/-- The service shows a client the captures of a session: it sends the parameters and then one
message for every capture, and however the client receives them, it has the session and sees the
captures in their order. -/
structure Shows (machine : CaptureMachine β ς) (rounds : Nat) (visit : Visit β)
    (request : CaptureRequest) (session : ς) (backend : β) : Prop where
  outcome : ((serve machine rounds).runOn visit).1 =
    .ok (machine.captures session rounds backend).2
  sent : ((serve machine rounds).runOn visit).2.1.outbound.cells =
    (machine.params session).cells (machine.device session) ++
      FrameMessage.cellsOf (messagesFor visit.times
        ((machine.captures session rounds backend).1.map frameOf))
  seen : ∀ (door : ServiceDoor) (inbound : Inbound) (others : List (Except IoError Inbound))
    (path : String), door.coming = .ok inbound :: others →
      (∀ answer ∈ door.writes, answer.Goes) →
      WireSession.Receives ((serve machine rounds).runOn visit).2.1.outbound
        { inbound with refusals := door.refusals } →
      ∃ channel later lines,
        (CaptureChannel.connect path request.device request.framerate).runOn door =
          (.ok channel, later, lines) ∧
        channel.params = machine.params session ∧ channel.device = machine.device session ∧
        List.Forall₂ Seen (machine.captures session rounds backend).1
          (channel.received (machine.captures session rounds backend).1.length later)

theorem shows_of_opened (machine : CaptureMachine β ς) (rounds : Nat) (h : visit.Attended)
    (hnew : visit.outbound.sent = []) (hfilled : visit.inbound.Filled)
    (hfront : request.toBytes <+: visit.inbound.unread) {session : ς} {backend : β}
    {lines : List LogLine}
    (hopened : (machine.openSession request.device request.framerate).runOn visit.backend =
      (.ok (some session), backend, lines))
    (hsize : (machine.params session).toJson.length ≤ maxParamsSize)
    (hframes : ∀ frame, some frame ∈
      (machine.captures session rounds backend).1.map frameOf → frame.Sendable) :
    Shows machine rounds visit request session backend := by
  obtain ⟨unread, log, hserve⟩ := exists_serve machine rounds hfilled hfront hopened
  obtain ⟨sent, hsend, hworks⟩ :=
    DeviceParams.exists_send h.works hsize (machine.device session)
  have hattended : Attended { visit with inbound := unread, backend } :=
    ⟨h.works, h.patience, h.times⟩
  have hopens : Attended { visit with inbound := unread, backend, outbound := sent } :=
    ⟨hworks, h.patience, h.times⟩
  obtain ⟨later, hrun, hadds⟩ := exists_captureRounds machine session rounds
    ⟨{ visit with inbound := unread, backend, outbound := sent }, log⟩ hopens hframes
  have hall : (serve machine rounds).runOn visit =
      (.ok (machine.captures session rounds backend).2, later.state, later.log) := by
    rw [Act.runOn, hserve]
    dsimp only
    rw [Act.run_bind_ok (run_sendBy ⟨_, log⟩ hattended hsend), hrun]
  have hcells : later.state.outbound.cells =
      (machine.params session).cells (machine.device session) ++
        FrameMessage.cellsOf (messagesFor visit.times
          ((machine.captures session rounds backend).1.map frameOf)) := by
    have hfirst := (DeviceParams.adds_send h.works.toSteady hsend).1.cells_eq
    rw [hadds.cells_eq, hfirst, Outbound.cells, hnew, List.flatMap_nil, List.nil_append]
  refine ⟨by rw [hall], by rw [hall]; exact hcells, ?_⟩
  intro door inbound others path hcoming hwrites hreceives
  rw [hall] at hreceives
  obtain ⟨last, notes, hconnect, hbrings⟩ := CaptureChannel.exists_connect path request hcoming
    hwrites (hreceives.reliable hadds.steady) hsize (hreceives.cells_eq.trans hcells)
  let channel : CaptureChannel :=
    ⟨path, machine.params session, machine.device session, door.opened.length⟩
  refine ⟨channel, last, notes, hconnect, rfl, rfl, ?_⟩
  -- Nothing comes after the last message.
  rw [← List.append_nil (FrameMessage.cellsOf _)] at hbrings
  have hreceived : channel.received _ last = _ :=
    CaptureChannel.received_eq hbrings (canSend_messagesFor hframes)
  rw [length_messagesFor, List.length_map] at hreceived
  rw [hreceived]
  exact forall₂_seen h.times _

/-- **A client sees the captures of its session.** To a client without a request, or whose device
cannot be opened, nothing is sent, and neither are parameters that do not fit in a message. Any
other client is shown the captures. -/
theorem serve_seen (machine : CaptureMachine β ς) (rounds : Nat) (h : visit.Attended)
    (hnew : visit.outbound.sent = []) (hfilled : visit.inbound.Filled) :
    ((∀ request : CaptureRequest, ¬ request.toBytes <+: visit.inbound.unread) →
      ((serve machine rounds).runOn visit).2.1.outbound.sent = []) ∧
    ∀ request : CaptureRequest, request.toBytes <+: visit.inbound.unread →
      ∀ opened backend lines,
        (machine.openSession request.device request.framerate).runOn visit.backend =
          (opened, backend, lines) →
        match opened with
        | .ok (some session) =>
          (maxParamsSize < (machine.params session).toJson.length →
            ((serve machine rounds).runOn visit).2.1.outbound.sent = []) ∧
          ((machine.params session).toJson.length ≤ maxParamsSize →
            (∀ frame, some frame ∈ (machine.captures session rounds backend).1.map frameOf →
              frame.Sendable) →
            Shows machine rounds visit request session backend)
        | _ => ((serve machine rounds).runOn visit).2.1.outbound.sent = [] := by
  constructor
  · intro hmalformed
    rw [outbound_serve_of_malformed machine rounds hfilled hmalformed, hnew]
  intro request hfront opened backend lines hopened
  rcases opened with failure | _ | session
  · rw [outbound_serve_of_refused machine rounds hfilled hfront hopened (by simp), hnew]
  · rw [outbound_serve_of_refused machine rounds hfilled hfront hopened (by simp), hnew]
  · constructor
    · intro hsize
      rw [outbound_serve_of_tooLarge machine rounds h hfilled hfront hopened hsize, hnew]
    · exact shows_of_opened machine rounds h hnew hfilled hfront hopened

def sampleFrame : Frame := ⟨⟨64, 32, ⟨842094158⟩, 0⟩, .shared [⟨0, 64, 0, 0⟩] [⟨⟨#[9]⟩⟩], 3⟩

def sampleRequest : CaptureRequest := ⟨"card", 60, by decide, by decide⟩

/-- A session with a picture, a failure and a capture without a picture. -/
def sampleVisit : Visit ScriptedBackend where
  backend :=
    { devices := [("card", .params WireSession.sampleParams none)]
      scripts := [[.frame sampleFrame, .failed "busy", .nothing]] }
  inbound := { segments := [⟨sampleRequest.toBytes, []⟩], cuts := [1, 2] }
  outbound := WireSession.sampleOutbound
  patience := none
  times := [5, 9]

theorem serve_seen_sample : ∃ backend,
    ScriptedBackend.machine.captures WireSession.sampleParams 3 backend =
      ([.ok (some sampleFrame), .error (.capture "busy"), .ok none], true) ∧
    Shows ScriptedBackend.machine 3 sampleVisit sampleRequest WireSession.sampleParams backend := by
  have htimes : ∀ time ∈ sampleVisit.times, 0 ≤ time := by
    simp only [sampleVisit, List.forall_mem_cons]
    exact ⟨by decide, by decide, by simp⟩
  have hattended : sampleVisit.Attended := ⟨WireSession.working_sampleOutbound, rfl, htimes⟩
  have hfilled : sampleVisit.inbound.Filled := ⟨by decide +kernel⟩
  refine ⟨_, ?_, ((serve_seen ScriptedBackend.machine 3 hattended rfl hfilled).2 sampleRequest
    (by simp [sampleVisit, Inbound.unread]) (.ok (some WireSession.sampleParams)) _ _ rfl).2
      WireSession.length_toJson_sampleParams ?_⟩
  · rfl
  · intro frame hframe
    change some frame ∈ [some sampleFrame, none, none] at hframe
    obtain rfl : frame = sampleFrame := by simpa using hframe
    exact ⟨rfl, List.cons_ne_nil _ _, by decide, by decide, by decide⟩

/-- A device whose name alone is longer than the parameters may be. -/
def longParams : DeviceParams :=
  ⟨String.ofList (List.replicate 65537 'x'), 64, 32, ⟨842094158⟩, 0, 30⟩

def autoRequest : CaptureRequest := ⟨"auto", 30, by decide, by decide⟩

def longNamed : Visit ScriptedBackend where
  backend := { devices := [("auto", .params longParams none)], scripts := [[.nothing]] }
  inbound := { segments := [⟨autoRequest.toBytes, []⟩] }
  outbound := {}
  patience := none

theorem utf8ByteSize_replicate (n : Nat) :
    (String.ofList (List.replicate n 'x')).utf8ByteSize = n := by
  rw [← Utf8.length_toUTF8, Utf8.toUTF8_ofList, List.length_flatMap, List.map_replicate,
    List.sum_replicate_nat]
  exact Nat.mul_one n

theorem length_toJson_longParams : maxParamsSize < longParams.toJson.length := by
  have hname : longParams.device.utf8ByteSize = 65537 := utf8ByteSize_replicate 65537
  have hjson := longParams.utf8ByteSize_le_length_toJson
  rw [hname] at hjson
  exact Nat.lt_of_lt_of_le (by decide) hjson

/-- The device of this client can be opened, but nothing is sent. -/
theorem not_shows_longNamed : longNamed.Attended ∧ longNamed.inbound.Filled ∧
    longNamed.inbound.unread = autoRequest.toBytes ∧ ∃ backend lines,
      (ScriptedBackend.machine.openSession autoRequest.device autoRequest.framerate).runOn
        longNamed.backend = (.ok (some longParams), backend, lines) ∧
      ((serve ScriptedBackend.machine 1).runOn longNamed).2.1.outbound.sent = [] ∧
      ¬ Shows ScriptedBackend.machine 1 longNamed autoRequest longParams backend := by
  have hattended : longNamed.Attended :=
    ⟨⟨⟨by simp [longNamed], by simp [longNamed], by simp [longNamed]⟩, rfl, by simp [longNamed],
      by simp [longNamed]⟩, rfl, by simp [longNamed]⟩
  have hfilled : longNamed.inbound.Filled := ⟨by decide +kernel⟩
  have hunread : longNamed.inbound.unread = autoRequest.toBytes := by
    simp [longNamed, Inbound.unread]
  have hfront : autoRequest.toBytes <+: longNamed.inbound.unread :=
    ⟨[], by rw [hunread, List.append_nil]⟩
  have hsent := outbound_serve_of_tooLarge ScriptedBackend.machine 1 hattended hfilled hfront
    rfl length_toJson_longParams
  refine ⟨hattended, hfilled, hunread, _, _, rfl, by rw [hsent]; rfl, ?_⟩
  intro hshows
  -- The parameters alone would be four bytes or more.
  have hlength := congrArg List.length hshows.sent
  have hnone : longNamed.outbound.cells.length = 0 := rfl
  rw [hsent, hnone, List.length_append, DeviceParams.cells, Cell.length_attach,
    List.length_append, Words.length_bytes32] at hlength
  omega

end Visit

end InstantReplay
