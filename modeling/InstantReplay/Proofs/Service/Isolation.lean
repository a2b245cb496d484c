import InstantReplay.Proofs.Service.Alike
import InstantReplay.Service.Basic

/-!
# Sessions do not see each other

A service takes turn after turn and serves one client in each. No client ends it, and a session
leaves nothing behind that a later client could notice: a client of a service with any history is
told what it would be told if it were the only one, but for the times of its frames
(`CaptureService.takeTurns_isolated`). A turn is given a number of captures, so that it has an end;
once there are enough of them for its client, the number does not matter
(`CaptureService.takeTurn_of_patience`).
-/

namespace InstantReplay

namespace CaptureService

variable {β ς : Type} {service later : CaptureService β} {caller : Caller} {log : List LogLine}

/-- What the system and the clock do while the service takes a turn, and the most captures in it. -/
structure Turn where
  answers : ServiceAnswers := {}
  times : List Int64 := []
  rounds : Nat

namespace Turn

/-- Whether a client passes the check of its user. -/
def admits (turn : Turn) (options : ServiceOptions) (caller : Caller) : Bool :=
  options.allowed.isEmpty || (turn.answers.user.isEmpty && decide (caller.user ∈ options.allowed))

/-- The visit of a client. -/
def visit (turn : Turn) (caller : Caller) (backend : β) : Visit β where
  backend := backend
  inbound := caller.inbound
  outbound := { messages := turn.answers.messages, writes := turn.answers.writes }
  patience := caller.patience
  times := turn.times

/-- What a client has received when the service closes its connection. -/
def reply (turn : Turn) (machine : CaptureMachine β ς) (options : ServiceOptions)
    (caller : Caller) (backend : β) : Inbound :=
  if turn.admits options caller then
    ((Visit.serve machine turn.rounds).run.run ⟨turn.visit caller backend, []⟩).2.state.reply
  else (turn.visit caller backend).reply

/-- Accepting and starting a thread do not fail but for interruptions, a call that passes
descriptors takes a byte at least, and the clock never shows a negative time. -/
structure Calm (turn : Turn) : Prop where
  accepts : Inbound.afterInterruptions turn.answers.accept = []
  threads : turn.answers.thread = []
  passing : SendAnswer.takes 0 ∉ turn.answers.messages
  times : ∀ time ∈ turn.times, 0 ≤ time

end Turn

/-- The service meets a turn. -/
def meeting (turn : Turn) (service : CaptureService β) : CaptureService β :=
  { service with port := { service.port with answers := turn.answers, times := turn.times } }

/-- The service takes a turn: what it says, and the service after it. -/
def takeTurn (machine : CaptureMachine β ς) (turn : Turn) (service : CaptureService β) :
    Except Failure Bool × CaptureService β :=
  let (result, later, _) := (acceptOne machine turn.rounds).runOn (service.meeting turn)
  (result, later)

/-- The service takes turns. -/
def takeTurns (machine : CaptureMachine β ς) :
    List Turn → CaptureService β → List (Except Failure Bool) × CaptureService β
  | [], service => ([], service)
  | turn :: turns, service =>
    let (result, later) := service.takeTurn machine turn
    let (results, last) := takeTurns machine turns later
    (result :: results, last)

/-! ## One turn -/

/-- The service when it has accepted the first client that waits. -/
def accepted (service : CaptureService β) : CaptureService β :=
  { service with port := { service.port with
      answers := { service.port.answers with accept := [] }
      waiting := service.port.waiting.tail } }

theorem run_acceptCaller (service : CaptureService β)
    (haccepts : Inbound.afterInterruptions service.port.answers.accept = []) (log : List LogLine) :
    acceptCaller.run.run ⟨service, log⟩ =
      (.ok service.port.waiting.head?, ⟨service.accepted, log⟩) := by
  rw [acceptCaller, Act.run_bind_ok (Act.run_state _)]
  simp only [haccepts]
  rfl

/-- The check of a user notes what it turns down, and uses up one answer at most. -/
theorem exists_admits (service : CaptureService β) (caller : Caller) (log : List LogLine) :
    ∃ users lines, (admits caller).run.run ⟨service, log⟩ =
      (.ok (service.options.allowed.isEmpty ||
          (service.port.answers.user.isEmpty && decide (caller.user ∈ service.options.allowed))),
        ⟨answering (fun answers => { answers with user := users }) service, lines⟩) := by
  rw [admits, Act.run_bind_ok (Act.run_state _)]
  dsimp only
  by_cases hall : service.options.allowed.isEmpty
  · rw [if_pos hall, hall]
    exact ⟨service.port.answers.user, log, rfl⟩
  rw [if_neg hall, Bool.eq_false_iff.2 hall]
  cases husers : service.port.answers.user with
  | cons code rest =>
    exact ⟨rest, log ++ [.warn ("Failed to read peer credentials: " ++ (IoError.os code).text)],
      rfl⟩
  | nil =>
    have hsame : answering (fun answers => { answers with user := [] }) service = service := by
      rw [answering, ← husers]
    by_cases hmem : caller.user ∈ service.options.allowed
    · refine ⟨[], log, ?_⟩
      rw [hsame]
      simp only [if_pos hmem, decide_eq_true hmem]
      rfl
    · let user := caller.user
      refine ⟨[], log ++ [.warn s!"Rejecting capture client with uid {user}"], ?_⟩
      rw [hsame]
      simp only [if_neg hmem, decide_eq_false hmem]
      rfl

/-- What a turn leaves of a service when it has dealt with a client: so many sessions more, and this
reply. -/
structure DealsWith (service later : CaptureService β) (served : Bool) (rest : List Caller)
    (reply : Nat × Inbound) : Prop where
  options : later.options = service.options
  waiting : later.port.waiting = rest
  replies : later.port.replies = service.port.replies ++ [reply]
  sessions : later.sessions = service.sessions + served.toNat

theorem exists_serve (machine : CaptureMachine β ς) (rounds : Nat) (caller : Caller)
    (service : CaptureService β) (hthreads : service.port.answers.thread = [])
    (log : List LogLine) :
    ∃ later lines, (serve machine rounds caller).run.run ⟨service, log⟩ = (.ok (), ⟨later, lines⟩) ∧
      DealsWith service later true service.port.waiting (caller.number,
        ((Visit.serve machine rounds).run.run ⟨service.visit caller, []⟩).2.state.reply) := by
  rw [serve, Act.run_bind_ok (Act.run_change _ _), Act.run_bind_ok (Act.run_state _)]
  simp only [hthreads, Act.runOn]
  have hvisit : visit { service with sessions := service.sessions + 1 } caller =
      service.visit caller := rfl
  rw [hvisit]
  rcases (Visit.serve machine rounds).run.run ⟨service.visit caller, []⟩ with
    ⟨outcome, ⟨visit, lines⟩⟩
  dsimp only
  rw [Act.run_bind_ok (Act.run_forM_note _ _), Act.run_bind_ok (Act.run_note _ _),
    Act.run_bind_ok (Act.run_change _ _), Act.run_bind_ok (Act.run_change _ _), depart]
  exact ⟨_, _, rfl, ⟨rfl, rfl, rfl, rfl⟩⟩

/-- **A client that waits is dealt with**, whatever it does. -/
theorem exists_takeTurn (machine : CaptureMachine β ς) {turn : Turn} (hcalm : turn.Calm)
    {rest : List Caller} (hwaiting : service.port.waiting = caller :: rest) :
    ∃ later, service.takeTurn machine turn = (.ok (turn.admits service.options caller), later) ∧
      DealsWith service later (turn.admits service.options caller) rest
        (caller.number, turn.reply machine service.options caller service.backend) := by
  have haccept := run_acceptCaller (service.meeting turn) hcalm.accepts []
  have hhead : (service.meeting turn).port.waiting = caller :: rest := hwaiting
  rw [hhead] at haccept
  obtain ⟨users, lines, hadmits⟩ := exists_admits (service.meeting turn).accepted caller []
  change (admits caller).run.run _ = (.ok (turn.admits service.options caller), _) at hadmits
  rw [takeTurn, Act.runOn, acceptOne, Act.run_bind_ok haccept]
  dsimp only [List.head?_cons]
  rw [Act.run_bind_ok hadmits, Turn.reply]
  have hrest : (service.meeting turn).accepted.port.waiting = rest := congrArg List.tail hhead
  cases hpasses : turn.admits service.options caller with
  | true =>
    obtain ⟨later, notes, hserve, hdeals⟩ := exists_serve machine turn.rounds caller
      (answering (fun answers => { answers with user := users }) (service.meeting turn).accepted)
      hcalm.threads lines
    rw [if_pos rfl, if_pos rfl, Act.run_bind_ok hserve]
    exact ⟨later, rfl, hdeals.options, hdeals.waiting.trans hrest, hdeals.replies, hdeals.sessions⟩
  | false =>
    rw [if_neg Bool.false_ne_true, if_neg Bool.false_ne_true, Act.run_bind_ok (Act.run_state _),
      depart, Act.run_bind_ok (Act.run_change _ _)]
    exact ⟨_, rfl, rfl, hrest, rfl, rfl⟩

/-- Without a client nothing is done. -/
theorem exists_takeTurn_nil (machine : CaptureMachine β ς) {turn : Turn} (hcalm : turn.Calm)
    (hwaiting : service.port.waiting = []) :
    ∃ later, service.takeTurn machine turn = (.ok false, later) ∧
      later.options = service.options ∧ later.port.waiting = [] ∧
      later.port.replies = service.port.replies ∧ later.sessions = service.sessions := by
  have haccept := run_acceptCaller (service.meeting turn) hcalm.accepts []
  have hhead : (service.meeting turn).port.waiting = [] := hwaiting
  rw [hhead] at haccept
  rw [takeTurn, Act.runOn, acceptOne, Act.run_bind_ok haccept]
  exact ⟨_, rfl, rfl, congrArg List.tail hwaiting, rfl, rfl⟩

theorem serve_of_patience (machine : CaptureMachine β ς) {count rounds more : Nat}
    (hpatience : caller.patience = some count) (hrounds : count ≤ rounds) (hmore : count ≤ more)
    (service : CaptureService β) (log : List LogLine) :
    (serve machine rounds caller).run.run ⟨service, log⟩ =
      (serve machine more caller).run.run ⟨service, log⟩ := by
  have hvisit : ((Visit.serve machine rounds).runOn
      (visit { service with sessions := service.sessions + 1 } caller)) =
      (Visit.serve machine more).runOn
        (visit { service with sessions := service.sessions + 1 } caller) := by
    rw [Act.runOn, Act.runOn, Visit.serve_of_patience machine hpatience hrounds hmore]
  rw [serve, serve, Act.run_bind_ok (Act.run_change _ _), Act.run_bind_ok (Act.run_change _ _),
    Act.run_bind_ok (Act.run_state _), Act.run_bind_ok (Act.run_state _)]
  simp only [hvisit]

/-- **A turn ends when its client is gone**, whatever number of captures it is given. -/
theorem takeTurn_of_patience (machine : CaptureMachine β ς) {turn : Turn} (hcalm : turn.Calm)
    {rest : List Caller} (hwaiting : service.port.waiting = caller :: rest) {count more : Nat}
    (hpatience : caller.patience = some count) (hrounds : count ≤ turn.rounds)
    (hmore : count ≤ more) :
    service.takeTurn machine { turn with rounds := more } = service.takeTurn machine turn := by
  have haccept := run_acceptCaller (service.meeting turn) hcalm.accepts []
  have hhead : (service.meeting turn).port.waiting = caller :: rest := hwaiting
  rw [hhead, List.head?_cons] at haccept
  have hmeeting : service.meeting { turn with rounds := more } = service.meeting turn := rfl
  rw [takeTurn, takeTurn, Act.runOn, Act.runOn, acceptOne, acceptOne, hmeeting,
    Act.run_bind_ok haccept, Act.run_bind_ok haccept]
  dsimp only
  rcases hadmits : (admits caller).run.run ⟨(service.meeting turn).accepted, []⟩ with
    ⟨failure | passes, later⟩
  · rw [Act.run_bind_error hadmits, Act.run_bind_error hadmits]
  · rw [Act.run_bind_ok hadmits, Act.run_bind_ok hadmits]
    cases passes with
    | true =>
      rw [if_pos rfl, if_pos rfl, Act.run_bind, Act.run_bind,
        serve_of_patience machine hpatience hmore hrounds]
    | false => rfl

/-! ## Many turns -/

/-- A service that was just bound, with clients that wait. -/
def fresh (options : ServiceOptions) (host : SocketHost) (backend : β) (callers : List Caller) :
    CaptureService β :=
  ⟨options, { host, waiting := callers }, backend, 0⟩

/-- Two replies differ in nothing but the times of frames: they have equally much of the same
messages, where the frames take their times from one clock and the other. -/
def SameButTimes (times others : List Int64) (first second : Inbound) : Prop :=
  first.ending = second.ending ∧ ∃ front frames count,
    first.cells =
      (front ++ FrameMessage.cellsOf (Visit.messagesFor times frames)).take count ∧
    second.cells =
      (front ++ FrameMessage.cellsOf (Visit.messagesFor others frames)).take count

/-- **A reply depends on the turn and the client alone**, but for the times of frames. -/
theorem Turn.Calm.reply_sameButTimes {machine : CaptureMachine β ς}
    (hmachine : machine.Independent) {turn : Turn} (hcalm : turn.Calm) {times : List Int64}
    (htimes : ∀ time ∈ times, 0 ≤ time) (options : ServiceOptions) (caller : Caller)
    (first second : β) :
    SameButTimes turn.times times (turn.reply machine options caller first)
      (Turn.reply { turn with times } machine options caller second) := by
  have hadmits : Turn.admits { turn with times } options caller = turn.admits options caller := rfl
  rw [Turn.reply, Turn.reply, hadmits]
  cases turn.admits options caller with
  | false => exact ⟨rfl, [], [], 0, rfl, rfl⟩
  | true =>
    have halike : Visit.Alike (turn.visit caller first)
        (Turn.visit { turn with times } caller second) :=
      ⟨rfl, .refl _, hcalm.passing, rfl, hcalm.times, htimes⟩
    obtain ⟨front, frames, -, hlater, count, hfirst, hsecond, -⟩ :=
      halike.abreast_serve hmachine turn.rounds [] []
    refine ⟨?_, front, frames, count, hfirst.cells_eq, hsecond.cells_eq⟩
    rw [if_pos rfl, if_pos rfl, Visit.reply, Visit.reply, hlater.inbound]

/-- What a client of a service was told: its own reply, none if it was turned down, and what it
would have been told if it were the only client of a fresh service, but for the times of frames. -/
structure Isolated (machine : CaptureMachine β ς) (options : ServiceOptions)
    (guest : Turn × Caller) (reply : Nat × Inbound) : Prop where
  number : reply.1 = guest.2.number
  rejected : guest.1.admits options guest.2 = false → reply.2.segments = []
  alone : ∀ (host : SocketHost) (backend : β) (times : List Int64), (∀ time ∈ times, 0 ≤ time) →
    ∃ later other, (fresh options host backend [guest.2]).takeTurn machine
        { guest.1 with times } = (.ok (guest.1.admits options guest.2), later) ∧
      later.port.replies = [(guest.2.number, other)] ∧
      SameButTimes guest.1.times times reply.2 other

theorem Turn.Calm.isolated {machine : CaptureMachine β ς} (hmachine : machine.Independent)
    {turn : Turn} (hcalm : turn.Calm) (options : ServiceOptions) (caller : Caller) (backend : β) :
    Isolated machine options (turn, caller)
      (caller.number, turn.reply machine options caller backend) := by
  refine ⟨rfl, fun hrejected => ?_, fun host other times htimes => ?_⟩
  · rw [Turn.reply, hrejected]
    rfl
  · have hother : Turn.Calm { turn with times } :=
      ⟨hcalm.accepts, hcalm.threads, hcalm.passing, htimes⟩
    obtain ⟨later, hturn, hdeals⟩ := exists_takeTurn machine hother
      (rfl : (fresh options host other [caller]).port.waiting = [caller])
    exact ⟨later, _, hturn, hdeals.replies,
      hcalm.reply_sameButTimes hmachine htimes options caller backend other⟩

/-- What a service says in its turns: whether a client was served. -/
def said (options : ServiceOptions) (turns : List Turn) (callers : List Caller) :
    List (Except Failure Bool) :=
  (turns.zip callers).map (fun guest => .ok (guest.1.admits options guest.2)) ++
    List.replicate (turns.length - callers.length) (.ok false)

theorem exists_takeTurns {machine : CaptureMachine β ς} (hmachine : machine.Independent)
    (turns : List Turn) (hcalm : ∀ turn ∈ turns, turn.Calm) {callers : List Caller}
    (hwaiting : service.port.waiting = callers) :
    ∃ later replies, takeTurns machine turns service =
        (said service.options turns callers, later) ∧
      later.sessions = service.sessions +
        (turns.zip callers).countP (fun guest => guest.1.admits service.options guest.2) ∧
      later.port.replies = service.port.replies ++ replies ∧
      List.Forall₂ (Isolated machine service.options) (turns.zip callers) replies := by
  induction turns generalizing service callers with
  | nil =>
    have hsaid : said service.options [] callers = [] := by simp [said]
    exact ⟨service, [], by rw [takeTurns, hsaid], rfl, (List.append_nil _).symm, .nil⟩
  | cons turn turns ih =>
    obtain ⟨hturn, hturns⟩ := List.forall_mem_cons.1 hcalm
    cases callers with
    | nil =>
      obtain ⟨middle, htake, hoptions, hmiddle, hreplies, hsessions⟩ :=
        exists_takeTurn_nil machine hturn hwaiting
      obtain ⟨later, replies, hrest, hcount, hlater, hall⟩ := ih hturns hmiddle
      refine ⟨later, replies, ?_, ?_, ?_, ?_⟩
      · simp only [takeTurns, htake, hrest, hoptions, said, List.zip_nil_right, List.map_nil,
          List.nil_append, List.length_cons, List.length_nil, Nat.sub_zero, List.replicate_succ]
      · rw [hcount, hsessions, hoptions, List.zip_nil_right, List.zip_nil_right]
      · rw [hlater, hreplies]
      · rw [hoptions, List.zip_nil_right] at hall
        exact hall
    | cons caller callers =>
      obtain ⟨middle, htake, hdeals⟩ := exists_takeTurn machine hturn hwaiting
      obtain ⟨later, replies, hrest, hcount, hlater, hall⟩ := ih hturns hdeals.waiting
      rw [hdeals.options] at hrest hcount hall
      refine ⟨later, (caller.number, turn.reply machine service.options caller service.backend) ::
        replies, ?_, ?_, ?_, ?_⟩
      · simp only [takeTurns, htake, hrest, said, List.zip_cons_cons, List.map_cons,
          List.cons_append, List.length_cons, Nat.add_sub_add_right]
      · rw [hcount, hdeals.sessions, List.zip_cons_cons, List.countP_cons]
        cases turn.admits service.options caller with
        | true =>
          simp only [Bool.toNat_true, if_true]
          omega
        | false =>
          simp only [Bool.toNat_false, Bool.false_eq_true, if_false]
          omega
      · rw [hlater, hdeals.replies, List.append_assoc, List.singleton_append]
      · exact .cons (hturn.isolated hmachine service.options caller service.backend) hall

/-- **Sessions do not see each other, and none ends the service.** The clients of a fresh service
may do anything; while it takes turns, it says in each whether it served a client, it has counted
the clients that passed the check of their user, and every client has its own reply: nothing if it
was turned down, and else what it would have been told as the only client, but for the times of
frames. -/
theorem takeTurns_isolated {machine : CaptureMachine β ς} (hmachine : machine.Independent)
    (options : ServiceOptions) (host : SocketHost) (backend : β) (callers : List Caller)
    (turns : List Turn) (hcalm : ∀ turn ∈ turns, turn.Calm) :
    ∃ later, takeTurns machine turns (fresh options host backend callers) =
        ((turns.zip callers).map (fun guest => .ok (guest.1.admits options guest.2)) ++
          List.replicate (turns.length - callers.length) (.ok false), later) ∧
      later.sessions =
        (turns.zip callers).countP (fun guest => guest.1.admits options guest.2) ∧
      List.Forall₂ (Isolated machine options) (turns.zip callers) later.port.replies := by
  obtain ⟨later, replies, hrun, hsessions, hreplies, hall⟩ := exists_takeTurns hmachine turns hcalm
    (rfl : (fresh options host backend callers).port.waiting = callers)
  have hreplies : later.port.replies = replies := hreplies
  rw [← hreplies] at hall
  exact ⟨later, hrun, hsessions.trans (Nat.zero_add _), hall⟩

/-- A camera that starts over in each session, and shows a picture in every second capture. -/
def sampleCamera : CaptureMachine Nat DeviceParams where
  openSession device _ := do
    Act.change fun _ => 0
    if device = "card" then return some WireSession.sampleParams
    throw (.capture ("no such device: " ++ device))
  params session := session
  device _ := ⟨"card".toUTF8⟩
  capture _ := do
    let count ← Act.step fun count => (count, count + 1)
    return some (if count % 2 = 0 then some Visit.sampleFrame else none)
  isRunning _ := true

theorem independent_sampleCamera : sampleCamera.Independent := by
  have hsame (device : String) (framerate : Int32) (first second : Nat) :
      (sampleCamera.openSession device framerate).runOn first =
        (sampleCamera.openSession device framerate).runOn second := rfl
  refine ⟨fun device framerate first second => ?_, fun device framerate first second _ _ _ => ?_⟩
  · rw [hsame device framerate first second]
  · rw [hsame device framerate first second]

/-- A client that breaks off its request, one that may not connect, and one that leaves after three
messages. -/
def sampleCallers : List Caller := [
  { number := 0, user := 1000, inbound := { segments := [⟨[30, 0, 0], []⟩] } },
  { number := 1, user := 7, inbound := { segments := [⟨Visit.sampleRequest.toBytes, []⟩] } },
  { number := 2, user := 1000, inbound := { segments := [⟨Visit.sampleRequest.toBytes, []⟩] },
    patience := some 3 }]

/-- A turn for each of them and one more, the third with a write that is cut. -/
def sampleTurns : List Turn := [
  { rounds := 4 }, { rounds := 4 },
  { answers := { accept := [Errno.interrupted], writes := [.takes 5] }
    times := [5, 9]
    rounds := 4 },
  { rounds := 4 }]

/-- What a client makes of its reply: the parameters and the device, and the frames up to the first
failure, at most `count` of them. -/
def heard (count : Nat) (reply : Inbound) :
    Except Failure ((DeviceParams × Descriptor) × List (Except Failure (Option Frame))) :=
  match DeviceParams.receive reply with
  | (.ok opened, rest) => .ok (opened, (FrameMessage.receiveAll count rest).1)
  | (.error failure, _) => .error failure

/-- The first two clients hear nothing, the third one hears what it would hear alone until it leaves:
the device, a picture with the time of its own turn, and that there is none. -/
theorem takeTurns_isolated_sample :
    sampleCamera.Independent ∧ (∀ turn ∈ sampleTurns, turn.Calm) ∧
      ∃ later, takeTurns sampleCamera sampleTurns
          (fresh { allowed := [1000] } { files := .ofDirectories [] [] } 7 sampleCallers) =
        ([.ok true, .ok false, .ok true, .ok false], later) ∧
        later.sessions = 2 ∧ List.Forall₂ (Isolated sampleCamera { allowed := [1000] })
          (sampleTurns.zip sampleCallers) later.port.replies ∧
        later.port.replies.map (fun reply => heard 3 reply.2) =
          [.error DeviceParams.refused, .error DeviceParams.refused,
            .ok ((WireSession.sampleParams, ⟨"card".toUTF8⟩),
              [.ok (FrameMessage.delivered 5 (some Visit.sampleFrame)), .ok none,
                .error (.protocol "connection closed unexpectedly")])] := by
  have hcalm : ∀ turn ∈ sampleTurns, turn.Calm := by
    have htimes : ∀ time ∈ ([5, 9] : List Int64), 0 ≤ time := by
      simp only [List.forall_mem_cons]
      exact ⟨by decide, by decide, nofun⟩
    have hplain : Turn.Calm { rounds := 4 } := ⟨rfl, rfl, nofun, nofun⟩
    simp only [sampleTurns, List.forall_mem_cons]
    exact ⟨hplain, hplain, ⟨rfl, rfl, nofun, htimes⟩, hplain, nofun⟩
  obtain ⟨later, hrun, hsessions, hisolated⟩ := takeTurns_isolated independent_sampleCamera
    { allowed := [1000] } { files := .ofDirectories [] [] } 7 sampleCallers sampleTurns hcalm
  refine ⟨independent_sampleCamera, hcalm, later, hrun, hsessions, hisolated, ?_⟩
  obtain rfl := congrArg Prod.snd hrun
  decide +kernel

end CaptureService

end InstantReplay
