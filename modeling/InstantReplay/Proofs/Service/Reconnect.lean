import InstantReplay.Proofs.Service.Door
import InstantReplay.Proofs.Wire.Session
import Mathlib.Data.List.Induction

/-!
# The sessions of a capture device

A capture device has a session with the service, or opens one when it is asked for a frame. A
session ends with the first receive that fails.

One call of the device goes through at most two of five stages (`ServiceCapture.Stage`): the session
is there already, the handshake is given up, it is completed, a receive succeeds, or it fails and
the session is given up. What is true at any time (`ServiceCapture.Sound`) is kept by each stage. So
a device never receives over a connection that is not the last one made, whose handshake was not
completed or over which a receive has failed (`ServiceCapture.exists_record`).
-/

namespace InstantReplay

namespace ServiceCapture

variable {capture later : ServiceCapture} {events trace : List DoorEvent}

/-- What a part of a call does: the events, and the device behind them. -/
inductive Stage (capture : ServiceCapture) : List DoorEvent → ServiceCapture → Prop
  | kept {channel : CaptureChannel} (hchannel : capture.channel = some channel) :
    Stage capture [] capture
  | abandoned {events : List DoorEvent} {door : ServiceDoor} (hchannel : capture.channel = none)
    (htrail : Trail ServiceDoor.Moves capture.door events door)
    (hevents : DoorEvent.Abandoned events) :
    Stage capture events { capture with door }
  | completed {number : Nat} {request : CaptureRequest} {reply : DeviceParams × Descriptor}
    {door : ServiceDoor} (hchannel : capture.channel = none)
    (htrail :
      Trail ServiceDoor.Moves capture.door (DoorEvent.handshake number request reply) door) :
    Stage capture (DoorEvent.handshake number request reply)
      { capture with
        door
        channel := some ⟨capture.path, reply.1, reply.2, number⟩
        sessions := capture.sessions + 1 }
  | received {channel : CaptureChannel} {frame : Option Frame} {door : ServiceDoor}
    (hchannel : capture.channel = some channel)
    (hmove : capture.door.Moves (.received channel.connection (.ok frame)) door) :
    Stage capture [.received channel.connection (.ok frame)] { capture with door }
  | broken {channel : CaptureChannel} {failure : Failure} {door : ServiceDoor}
    (hchannel : capture.channel = some channel)
    (hmove : capture.door.Moves (.received channel.connection (.error failure)) door) :
    Stage capture [.received channel.connection (.error failure)]
      { capture with door, channel := none }

theorem run_onDoor {α : Type} {action : Act ServiceDoor α} {result : Except Failure α}
    {door : ServiceDoor} {lines : List LogLine} {scene : Scene ServiceCapture}
    (h : action.runOn scene.state.door = (result, door, lines)) :
    (onDoor action).run.run scene =
      (result, ⟨{ scene.state with door }, scene.log ++ lines⟩) := by
  rw [onDoor, Act.run_within, h]

/-- A device that is asked for its session keeps the one it has, or goes through a handshake. -/
theorem exists_session (scene : Scene ServiceCapture) : ∃ result later log events,
    session.run.run scene = (result, ⟨later, log⟩) ∧ Stage scene.state events later ∧
      (∀ number outcome, .received number outcome ∉ events) ∧
      ((∃ failure, result = .error failure) ∨
        ∃ channel, result = .ok channel ∧ later.channel = some channel) := by
  rw [session, Act.run_bind_ok (Act.run_state scene)]
  cases hchannel : scene.state.channel with
  | some channel =>
    exact ⟨_, _, _, _, rfl, .kept hchannel, fun _ _ => List.not_mem_nil,
      Or.inr ⟨channel, rfl, hchannel⟩⟩
  | none =>
    obtain ⟨result, door, lines, events, hconnect, htrail, hevents⟩ :=
      CaptureChannel.exists_connect_events scene.state.path scene.state.device
        scene.state.framerate scene.state.door
    rcases hevents with ⟨failure, rfl, habandoned⟩ | ⟨number, request, reply, rfl, rfl⟩
    · rw [Act.run_bind_error (run_onDoor hconnect)]
      exact ⟨_, _, _, _, rfl, .abandoned hchannel htrail habandoned, habandoned.not_received,
        Or.inl ⟨failure, rfl⟩⟩
    rw [Act.run_bind_ok (run_onDoor hconnect)]
    rcases hlimit : door.limit with ⟨refusal, limited⟩
    have hmoves := htrail.append (.single (.limit hlimit))
    have hasked : (Act.step ServiceDoor.limit).runOn door = (.ok refusal, limited, []) := by
      rw [Act.runOn, Act.run_step, hlimit]
    rw [Act.run_bind_ok (run_onDoor hasked)]
    cases refusal with
    | some code =>
      have habandoned := DoorEvent.Abandoned.unlimited number request reply code
      exact ⟨_, _, _, _, rfl, .abandoned hchannel hmoves habandoned, habandoned.not_received,
        Or.inl ⟨_, rfl⟩⟩
    | none =>
      dsimp only
      rw [Act.run_bind_ok (Act.run_change _ _)]
      by_cases hagain : 1 < scene.state.sessions + 1
      · simp only [if_pos hagain]
        exact ⟨_, _, _, _, rfl, .completed hchannel hmoves, DoorEvent.not_received_handshake,
          Or.inr ⟨_, rfl, rfl⟩⟩
      · simp only [if_neg hagain]
        exact ⟨_, _, _, _, rfl, .completed hchannel hmoves, DoorEvent.not_received_handshake,
          Or.inr ⟨_, rfl, rfl⟩⟩

/-- A call of the device. -/
inductive Call
  | connect
  | next

/-- The device behind a call, whatever the call comes to. -/
def after (capture : ServiceCapture) : Call → ServiceCapture
  | .connect => (connect.runOn capture).2.1
  | .next => (next.runOn capture).2.1

/-- A call gets the session, or fails. The next frame is then received. -/
theorem exists_stages (capture : ServiceCapture) (call : Call) : ∃ events middle,
    Stage capture events middle ∧ (∀ number outcome, .received number outcome ∉ events) ∧
      (capture.after call = middle ∧
          (call = .next → ∃ failure, (next.runOn capture).1 = .error failure) ∨
        call = .next ∧
          ∃ number, Stage middle [.received number (next.runOn capture).1]
            (capture.after call)) := by
  obtain ⟨result, middle, log, events, hsession, hstage, hnone, hresult⟩ :=
    exists_session { state := capture }
  refine ⟨events, middle, hstage, hnone, ?_⟩
  cases call with
  | connect =>
    refine Or.inl ⟨?_, nofun⟩
    rw [after, Act.runOn, connect, Act.run_bind, hsession]
    cases result <;> rfl
  | next =>
    rw [after, Act.runOn, next]
    rcases hresult with ⟨failure, rfl⟩ | ⟨channel, rfl, hchannel⟩
    · rw [Act.run_bind_error hsession]
      exact Or.inl ⟨rfl, fun _ => ⟨failure, rfl⟩⟩
    · rcases hreceive : middle.door.receive channel.connection FrameMessage.receive with
        ⟨outcome, door⟩
      have hnext : channel.next.runOn middle.door = (outcome, door, []) := by
        rw [Act.runOn, CaptureChannel.next, Act.run_bind_ok (Act.run_step _ _), Act.run_ofExcept,
          hreceive]
      have htried := Act.run_attempt (onDoor channel.next) ⟨middle, log⟩
      rw [run_onDoor hnext] at htried
      rw [Act.run_bind_ok hsession, Act.run_bind_ok htried]
      refine Or.inr ⟨rfl, channel.connection, ?_⟩
      cases outcome with
      | ok frame => exact .received hchannel (.receive hreceive)
      | error failure => exact .broken hchannel (.receive hreceive)

/-! ## What is true at any time -/

/-- The last handshake was completed and gave this connection, and all since were receives over it
that succeeded. -/
def Standing (trace : List DoorEvent) (number : Nat) : Prop :=
  ∃ earlier request reply frames,
    trace = earlier ++ (DoorEvent.handshake number request reply ++ frames) ∧
    (∀ event ∈ frames, ∃ frame, event = .received number (.ok frame)) ∧
    ∀ failure, .received number (.error failure) ∉ earlier

variable {number : Nat}

theorem Standing.safe (h : Standing trace number) : DoorEvent.Safe trace number := by
  obtain ⟨earlier, request, reply, frames, rfl, hframes, hearlier⟩ := h
  have hnone : frames.filterMap DoorEvent.opened? = [] := by
    refine List.filterMap_eq_nil_iff.2 fun event hevent => ?_
    obtain ⟨frame, rfl⟩ := hframes event hevent
    rfl
  refine ⟨?_, ⟨request, reply, earlier, frames, List.append_assoc _ _ _⟩, fun failure => ?_⟩
  · rw [List.filterMap_append, List.filterMap_append, hnone, List.append_nil]
    exact List.getLast?_concat
  · simp only [List.mem_append, not_or]
    refine ⟨hearlier failure, DoorEvent.not_received_handshake _ _, fun hmem => ?_⟩
    obtain ⟨frame, hframe⟩ := hframes _ hmem
    cases hframe

/-- What was done since the handshake: receives that succeeded. -/
theorem Standing.exists_lastAttempt (h : Standing trace number) : ∃ request reply frames,
    (∀ event ∈ frames, ∃ frame, event = .received number (.ok frame)) ∧
    ∀ rest, (∀ event ∈ rest, event.isAttempt = false) → DoorEvent.lastAttempt (trace ++ rest) =
      DoorEvent.handshake number request reply ++ (frames ++ rest) := by
  obtain ⟨earlier, request, reply, frames, rfl, hframes, -⟩ := h
  refine ⟨request, reply, frames, hframes, fun rest hrest => ?_⟩
  rw [List.append_assoc, List.append_assoc]
  refine DoorEvent.lastAttempt_handshake_append number request reply fun event hevent => ?_
  rcases List.mem_append.1 hevent with hevent | hevent
  · obtain ⟨frame, rfl⟩ := hframes event hevent
    rfl
  · exact hrest event hevent

theorem Standing.stands (h : Standing trace number) : DoorEvent.Stands trace := by
  obtain ⟨request, reply, frames, hframes, hlast⟩ := h.exists_lastAttempt
  have hlast := hlast [] nofun
  rw [List.append_nil, List.append_nil] at hlast
  refine ⟨number, request, reply, frames, hlast, fun other failure hmem => ?_⟩
  obtain ⟨frame, hframe⟩ := hframes _ hmem
  cases hframe

theorem Standing.not_stands_concat (h : Standing trace number) (other : Nat) (failure : Failure) :
    ¬ DoorEvent.Stands (trace ++ [.received other (.error failure)]) := by
  rintro ⟨latest, request, reply, since, hlast, hsince⟩
  obtain ⟨_, _, frames, _, hstanding⟩ := h.exists_lastAttempt
  rw [hstanding _ (List.forall_mem_singleton.2 rfl)] at hlast
  obtain ⟨-, rfl⟩ := List.append_inj hlast rfl
  exact hsince other failure (List.mem_append_right frames (List.mem_singleton_self _))

theorem Standing.concat (h : Standing trace number) (frame : Option Frame) :
    Standing (trace ++ [.received number (.ok frame)]) number := by
  obtain ⟨earlier, request, reply, frames, rfl, hframes, hearlier⟩ := h
  refine ⟨earlier, request, reply, frames ++ [.received number (.ok frame)],
    by simp only [List.append_assoc], ?_, hearlier⟩
  rw [List.forall_mem_append, List.forall_mem_singleton]
  exact ⟨hframes, frame, rfl⟩

/-- What is true of a device behind the calls it made to the service. -/
structure Sound (trace : List DoorEvent) (capture : ServiceCapture) : Prop where
  safe : AtEach trace fun before event _ =>
    ∀ number outcome, event = .received number outcome → DoorEvent.Safe before number
  held : ∀ channel, capture.channel = some channel →
    Standing trace channel.connection ∧ channel.connection < capture.door.opened.length
  lost : capture.channel = none → ¬ DoorEvent.Stands trace
  sessions : ∀ rest, DoorEvent.handshakes (trace ++ rest) =
    capture.sessions + DoorEvent.handshakes rest
  /-- A number that comes later was never received over. -/
  fresh : ∀ number outcome, .received number outcome ∈ trace → number < capture.door.opened.length

theorem Stage.trail (h : Stage capture events later) :
    Trail ServiceDoor.Moves capture.door events later.door := by
  cases h with
  | kept => exact .nil _
  | abandoned _ htrail _ => exact htrail
  | completed _ htrail => exact htrail
  | received _ hmove => exact .single hmove
  | broken _ hmove => exact .single hmove

theorem Stage.handshakes_append (h : Stage capture events later) (rest : List DoorEvent) :
    capture.sessions + DoorEvent.handshakes (events ++ rest) =
      later.sessions + DoorEvent.handshakes rest := by
  cases h with
  | kept => rfl
  | abandoned _ _ hevents => rw [hevents.handshakes_append]
  | completed => rw [DoorEvent.handshakes_handshake_append, Nat.add_assoc, Nat.add_comm 1]
  | received => rfl
  | broken => rfl

/-- Only a receive needs to be safe. -/
theorem Sound.safe_append (h : Sound trace capture)
    (hevents : ∀ number outcome, .received number outcome ∉ events) :
    AtEach (trace ++ events) fun before event _ =>
      ∀ number outcome, event = .received number outcome → DoorEvent.Safe before number := by
  refine AtEach.append h.safe fun before event behind hsplit number outcome hevent => ?_
  refine absurd ?_ (hevents number outcome)
  rw [hsplit, hevent]
  exact List.mem_append_right before List.mem_cons_self

theorem Sound.safe_concat (h : Sound trace capture) (hstanding : Standing trace number)
    (outcome : Except Failure (Option Frame)) :
    AtEach (trace ++ [.received number outcome]) fun before event _ =>
      ∀ number outcome, event = .received number outcome → DoorEvent.Safe before number := by
  refine AtEach.append h.safe (AtEach.cons ?_ .nil)
  rintro _ _ ⟨⟩
  rw [List.append_nil]
  exact hstanding.safe

/-- A handshake that is completed gives a connection over which nothing was received. -/
theorem Sound.standing_handshake (h : Sound trace capture) {request : CaptureRequest}
    {reply : DeviceParams × Descriptor} {door : ServiceDoor}
    (htrail :
      Trail ServiceDoor.Moves capture.door (DoorEvent.handshake number request reply) door) :
    Standing (trace ++ DoorEvent.handshake number request reply) number ∧
      number < door.opened.length := by
  obtain ⟨opened, hopened, hrest⟩ := htrail.exists_of_cons
  obtain ⟨hnumber, hlt⟩ := hopened.length_opened.2 number rfl
  refine ⟨⟨trace, request, reply, [], by rw [List.append_nil], nofun, fun failure hmem => ?_⟩,
    Nat.lt_of_lt_of_le hlt (ServiceDoor.length_opened_le hrest)⟩
  exact absurd (h.fresh number _ hmem) (hnumber ▸ Nat.lt_irrefl _)

theorem Stage.sound (h : Stage capture events later) (hsound : Sound trace capture) :
    Sound (trace ++ events) later := by
  have hsessions : ∀ rest, DoorEvent.handshakes (trace ++ events ++ rest) =
      later.sessions + DoorEvent.handshakes rest := fun rest => by
    rw [List.append_assoc, hsound.sessions, h.handshakes_append]
  have hle := ServiceDoor.length_opened_le h.trail
  -- A receive that is new is one over the connection held.
  have hfresh : (∀ number outcome, .received number outcome ∈ events →
        number < later.door.opened.length) → ∀ number outcome,
      .received number outcome ∈ trace ++ events → number < later.door.opened.length := by
    intro hevents number outcome hmem
    rcases List.mem_append.1 hmem with hmem | hmem
    · exact Nat.lt_of_lt_of_le (hsound.fresh number outcome hmem) hle
    · exact hevents number outcome hmem
  cases h with
  | kept =>
    rw [List.append_nil]
    exact hsound
  | abandoned hchannel htrail hevents =>
    have hnone := hevents.not_received
    exact ⟨hsound.safe_append hnone, fun channel h => (nomatch hchannel.symm.trans h),
      fun _ hstands => hsound.lost hchannel (hevents.stands_of_append hstands), hsessions,
      hfresh fun number outcome hmem => absurd hmem (hnone number outcome)⟩
  | @completed number request reply door hchannel htrail =>
    have hnone := @DoorEvent.not_received_handshake number request reply
    refine ⟨hsound.safe_append hnone, ?_, nofun, hsessions,
      hfresh fun number outcome hmem => absurd hmem (hnone number outcome)⟩
    rintro _ ⟨⟩
    exact hsound.standing_handshake htrail
  | @received channel frame door hchannel hmove =>
    obtain ⟨hstanding, hlt⟩ := hsound.held channel hchannel
    have hlt := Nat.lt_of_lt_of_le hlt hle
    refine ⟨hsound.safe_concat hstanding _, ?_, fun hnone => (nomatch hchannel.symm.trans hnone),
      hsessions, hfresh ?_⟩
    · intro other hother
      obtain rfl := Option.some.inj (hchannel.symm.trans hother)
      exact ⟨hstanding.concat frame, hlt⟩
    · simp only [List.mem_singleton]
      rintro _ _ ⟨⟩
      exact hlt
  | @broken channel failure door hchannel hmove =>
    obtain ⟨hstanding, hlt⟩ := hsound.held channel hchannel
    refine ⟨hsound.safe_concat hstanding _, nofun, fun _ => hstanding.not_stands_concat _ failure,
      hsessions, hfresh ?_⟩
    simp only [List.mem_singleton]
    rintro _ _ ⟨⟩
    exact Nat.lt_of_lt_of_le hlt hle

/-! ## A run of calls -/

/-- What one call does: its events, and how the device comes out of it. -/
structure Course (capture : ServiceCapture) (call : Call) (events : List DoorEvent) : Prop where
  trail : Trail ServiceDoor.Moves capture.door events (capture.after call).door
  /-- A call connects once at most, -/
  attempts : events.countP DoorEvent.isAttempt ≤ 1
  /-- and only without a session. -/
  unheld : ∀ event ∈ events, event.isAttempt → capture.channel = none
  sessions : (capture.after call).sessions = capture.sessions + DoorEvent.handshakes events
  /-- What is received is what the call gives, -/
  answer : ∀ number outcome, .received number outcome ∈ events →
    call = .next ∧ (next.runOn capture).1 = outcome
  /-- and it gives no other frame. -/
  frame : ∀ frame, call = .next → (next.runOn capture).1 = .ok frame →
    ∃ number, .received number (.ok frame) ∈ events

theorem Stage.attempts (h : Stage capture events later) :
    events.countP DoorEvent.isAttempt ≤ 1 ∧
      ∀ event ∈ events, event.isAttempt → capture.channel = none := by
  cases h with
  | kept => exact ⟨Nat.zero_le 1, nofun⟩
  | abandoned hchannel _ hevents => exact ⟨hevents.countP_isAttempt_le, fun _ _ _ => hchannel⟩
  | completed hchannel => exact ⟨Nat.le_refl 1, fun _ _ _ => hchannel⟩
  | received => exact ⟨Nat.zero_le 1, List.forall_mem_singleton.2 nofun⟩
  | broken => exact ⟨Nat.zero_le 1, List.forall_mem_singleton.2 nofun⟩

/-- A call takes one course, and it keeps what is true at any time. -/
theorem exists_course (hsound : Sound trace capture) (call : Call) : ∃ events,
    Course capture call events ∧ Sound (trace ++ events) (capture.after call) := by
  obtain ⟨events, middle, hstage, hnone, ⟨hafter, hfailed⟩ | ⟨rfl, number, hreceived⟩⟩ :=
    exists_stages capture call
  · subst hafter
    refine ⟨events, ⟨hstage.trail, hstage.attempts.1, hstage.attempts.2, ?_, ?_, ?_⟩,
      hstage.sound hsound⟩
    · have hsessions := hstage.handshakes_append []
      rw [List.append_nil] at hsessions
      exact hsessions.symm
    · exact fun number outcome hmem => absurd hmem (hnone number outcome)
    · intro frame hcall hframe
      obtain ⟨failure, hfailure⟩ := hfailed hcall
      exact nomatch hfailure.symm.trans hframe
  · refine ⟨events ++ [.received number (next.runOn capture).1],
      ⟨hstage.trail.append hreceived.trail, ?_, ?_, ?_, ?_, ?_⟩, ?_⟩
    · rw [List.countP_append]
      exact hstage.attempts.1
    · rw [List.forall_mem_append, List.forall_mem_singleton]
      exact ⟨hstage.attempts.2, nofun⟩
    · rw [hstage.handshakes_append]
      exact (hreceived.handshakes_append []).symm
    · intro other outcome hmem
      obtain ⟨-, rfl⟩ : other = number ∧ outcome = (next.runOn capture).1 := by
        simpa [hnone] using hmem
      exact ⟨rfl, rfl⟩
    · intro frame _ hframe
      exact ⟨number, List.mem_append_right events (by rw [hframe]; exact List.mem_singleton_self _)⟩
    · rw [← List.append_assoc]
      exact hreceived.sound (hstage.sound hsound)

/-- The device behind calls, whatever each of them comes to. -/
def afterAll (capture : ServiceCapture) (calls : List Call) : ServiceCapture :=
  calls.foldl after capture

theorem afterAll_concat (capture : ServiceCapture) (calls : List Call) (call : Call) :
    capture.afterAll (calls ++ [call]) = (capture.afterAll calls).after call := by
  rw [afterAll, List.foldl_append, List.foldl_cons, List.foldl_nil, afterAll]

/-- What a device does over all sequences of calls: `trace calls` is what it does in these. -/
structure Record (start : ServiceCapture) (trace : List Call → List DoorEvent) : Prop where
  nil : trace [] = []
  /-- What one more call does comes behind what the calls before it did. -/
  concat : ∀ calls call, ∃ events, trace (calls ++ [call]) = trace calls ++ events ∧
    Course (start.afterAll calls) call events
  /-- It receives over the last connection only, after its handshake and before a failure. -/
  safe : ∀ calls, AtEach (trace calls) fun before event _ =>
    ∀ number outcome, event = .received number outcome → DoorEvent.Safe before number
  /-- It has a session as long as the last handshake stands. -/
  held : ∀ calls, (start.afterAll calls).channel.isSome ↔ DoorEvent.Stands (trace calls)
  /-- It counts the handshakes that were completed. -/
  sessions : ∀ calls, (start.afterAll calls).sessions = DoorEvent.handshakes (trace calls)

theorem Sound.held_iff (h : Sound trace capture) :
    capture.channel.isSome ↔ DoorEvent.Stands trace := by
  cases hchannel : capture.channel with
  | none => exact iff_of_false Bool.false_ne_true (h.lost hchannel)
  | some channel => exact iff_of_true rfl (h.held channel hchannel).1.stands

theorem Sound.sessions_eq (h : Sound trace capture) :
    capture.sessions = DoorEvent.handshakes trace := by
  have hsessions := h.sessions []
  rw [List.append_nil] at hsessions
  exact hsessions.symm

/-- A device that made no call yet. -/
theorem sound_nil (path device : String) (framerate : Int32) (door : ServiceDoor) :
    Sound [] ⟨path, device, framerate, door, none, 0⟩ where
  safe := .nil
  held := nofun
  lost _ := by
    rintro ⟨number, request, reply, since, hlast, -⟩
    cases hlast
  sessions rest := (Nat.zero_add _).symm
  fresh := nofun

/-- **A capture device never receives over a broken session.** Whatever its calls and the answers
of the service, a device that starts without a session receives only over the connection made last,
behind its complete handshake, as long as every receive over it succeeded. A call connects once at
most and only without a session, a session is held as long as the last handshake stands, and the
handshakes completed are those it counts. -/
theorem exists_record (path device : String) (framerate : Int32) (door : ServiceDoor) :
    ∃ trace, Record ⟨path, device, framerate, door, none, 0⟩ trace := by
  have hnil := sound_nil path device framerate door
  generalize ServiceCapture.mk path device framerate door none 0 = start at hnil ⊢
  choose! events hcourse hkept using
    fun (trace : List DoorEvent) (calls : List Call) (h : Sound trace (start.afterAll calls)) =>
      exists_course h
  have hsound : ∀ calls, Sound (gather events [] [] calls) (start.afterAll calls) := fun calls => by
    induction calls using List.reverseRecOn with
    | nil => exact hnil
    | append_singleton calls call ih =>
      rw [gather_concat, afterAll_concat]
      exact hkept _ calls ih call
  exact ⟨gather events [] [], rfl,
    fun calls call =>
      ⟨_, gather_concat events [] [] calls call, hcourse _ calls (hsound calls) call⟩,
    fun calls => (hsound calls).safe, fun calls => (hsound calls).held_iff,
    fun calls => (hsound calls).sessions_eq⟩

/-! ## A session that is lost and a new one -/

/-- What so many calls for a frame give. -/
def frames : Nat → ServiceCapture → List (Except Failure (Option Frame))
  | 0, _ => []
  | count + 1, capture => (next.runOn capture).1 :: frames count (capture.after .next)

/-- A connection that brings the parameters and messages, and is then closed. -/
def sampleInbound (messages : List (Int64 × Option Frame)) : Inbound :=
  (FrameMessage.sendAll messages (WireSession.sampleParams.send ⟨⟨#[1]⟩⟩ {}).2).2.toInbound

/-- A service that is lost behind the first message, and is back after one attempt. -/
def sampleStart : ServiceCapture where
  path := "capture.sock"
  device := "card"
  framerate := 60
  door := { coming := [.ok (sampleInbound (WireSession.sampleMessages.take 1)),
    .error (.os Errno.connectionRefused), .ok (sampleInbound (WireSession.sampleMessages.drop 2))] }

/-- A frame comes over the first connection and the next receive fails. The attempt at a new session
is refused, and another one succeeds; what follows comes over the second connection. -/
theorem exists_record_reconnected :
    let heard := WireSession.sampleMessages.map fun message =>
      Except.ok (FrameMessage.delivered message.1 message.2)
    let after (count : Nat) := sampleStart.afterAll (List.replicate count .next)
    frames 5 sampleStart = heard.take 1 ++
      [.error (.protocol "connection closed unexpectedly"),
        .error (.serviceUnavailable ("Failed to connect to capture service at \"capture.sock\": " ++
          "Connection refused (os error 111)"))] ++ heard.drop 2 ∧
    (List.range 6).map (fun count => (after count).channel.map (·.connection)) =
      [none, some 0, none, none, some 1, some 1] ∧
    ∃ trace, Record sampleStart trace ∧
      (∀ count ≤ 5, DoorEvent.Stands (trace (List.replicate count .next)) ↔
        count = 1 ∨ 4 ≤ count) ∧
      DoorEvent.handshakes (trace (List.replicate 5 .next)) = 2 := by
  intro heard after
  obtain ⟨trace, hrecord⟩ := exists_record "capture.sock" "card" 60 sampleStart.door
  have hheld : ∀ count ≤ 5, (after count).channel.isSome ↔ count = 1 ∨ 4 ≤ count := by
    decide +kernel
  refine ⟨by decide +kernel, by decide +kernel, trace, hrecord, fun count hcount => ?_, ?_⟩
  · exact (hrecord.held _).symm.trans (hheld count hcount)
  · rw [← hrecord.sessions]
    decide +kernel

end ServiceCapture

end InstantReplay
