import InstantReplay.Proofs.Service.Isolation
import Mathlib.Logic.Relation

/-!
# A client that is not served

A client connects, writes its request and reads the reply; the service accepts it, checks its user,
reads the request, opens the device and closes the connection. The client is not served if its user
is not among those who may connect, or if the device cannot be opened (`Encounter.refuses_iff`). The
steps of the two may come in any order (`Encounter.Step`), so the connection may be closed before the
client has written, while it writes, or while it reads, and with or without unread bytes. A client
that is not served meets the end in a write that fails, as the end of the stream, or as a reset; in
each case its call says that the service is unavailable, and it does get that far
(`Encounter.learns_unavailable`).

The steps do not repeat what the client and the service compute. They record how the calls of the
client were answered and what the service has read; what comes of it is what `CaptureChannel.connect`
and `CaptureService.Turn.reply` make of these records.
-/

namespace InstantReplay

open CaptureService (Turn)

/-! ## The client's part -/

namespace Outbound

variable {bytes left : List UInt8} {answers : List SendAnswer}

/-- Behind these answers, so much of a write is left. -/
def Leaves (bytes : List UInt8) (answers : List SendAnswer) (left : List UInt8) : Prop :=
  ∀ (more : List SendAnswer) (outbound : Outbound), outbound.gone = none → ∃ later : Outbound,
    later.gone = none ∧ writeRounds bytes (answers ++ more) outbound = writeRounds left more later

/-- With these answers, a write succeeds. -/
def Completes (bytes : List UInt8) (answers : List SendAnswer) : Prop :=
  ∀ outbound : Outbound, outbound.gone = none →
    ∃ later, writeRounds bytes answers outbound = (.ok (), later)

/-- With these answers, a write fails. -/
def Breaks (bytes : List UInt8) (answers : List SendAnswer) : Prop :=
  ∀ outbound : Outbound, outbound.gone = none →
    ∃ error later, writeRounds bytes answers outbound = (.error error, later)

theorem Leaves.nil (bytes : List UInt8) : Leaves bytes [] bytes :=
  fun _ outbound hgone => ⟨outbound, hgone, rfl⟩

theorem Leaves.takes (h : Leaves bytes answers left) {count : Nat} (hcount : count < left.length) :
    Leaves bytes (answers ++ [.takes count]) (left.drop count) := by
  intro more outbound hgone
  obtain ⟨middle, hmiddle, hrounds⟩ := h (.takes count :: more) outbound hgone
  refine ⟨middle.put (left.take count) [], by rw [gone_put, hmiddle], ?_⟩
  rw [List.append_assoc, List.singleton_append, hrounds, writeRounds, hmiddle]
  dsimp only
  rw [if_neg (Nat.not_le.2 hcount)]

theorem Leaves.interrupted (h : Leaves bytes answers left) :
    Leaves bytes (answers ++ [.refused Errno.interrupted]) left := by
  intro more outbound hgone
  obtain ⟨later, hlater, hrounds⟩ := h (.refused Errno.interrupted :: more) outbound hgone
  refine ⟨later, hlater, ?_⟩
  rw [List.append_assoc, List.singleton_append, hrounds, writeRounds, if_pos rfl]

theorem Leaves.completes (h : Leaves bytes answers left) :
    Completes bytes (answers ++ [.takes left.length]) := by
  intro outbound hgone
  obtain ⟨middle, hmiddle, hrounds⟩ := h [.takes left.length] outbound hgone
  refine ⟨{ middle.put left [] with writes := [] }, ?_⟩
  rw [hrounds, writeRounds, hmiddle]
  dsimp only
  rw [if_pos (Nat.le_refl _)]

theorem Leaves.breaks (h : Leaves bytes answers left) {code : Errno}
    (hcode : code ≠ Errno.interrupted) : Breaks bytes (answers ++ [.refused code]) := by
  intro outbound hgone
  obtain ⟨middle, -, hrounds⟩ := h [.refused code] outbound hgone
  refine ⟨.os code, { middle with writes := [] }, ?_⟩
  rw [hrounds, writeRounds, if_neg hcode]

end Outbound

namespace CaptureChannel

variable {door : ServiceDoor} {inbound : Inbound} {others : List (Except IoError Inbound)}

theorem toBytes_ne_nil (request : CaptureRequest) : request.toBytes ≠ [] := by
  rw [CaptureRequest.toBytes, Ne, List.append_eq_nil_iff, not_and]
  exact fun _ => List.cons_ne_nil _ _

theorem writeAll_eq (request : CaptureRequest) (answers : List SendAnswer) :
    Outbound.writeAll { writes := answers } request.toBytes =
      Outbound.writeRounds request.toBytes answers { writes := answers } := by
  rw [Outbound.writeAll, if_neg (by rw [List.isEmpty_iff]; exact toBytes_ne_nil request)]

/-- A client whose write fails learns that the service is unavailable. -/
theorem connect_of_breaks (path : String) (request : CaptureRequest)
    (hcoming : door.coming = .ok inbound :: others)
    (hwrites : Outbound.Breaks request.toBytes door.writes) :
    ∃ reason, ((connect path request.device request.framerate).runOn door).1 =
      .error (.serviceUnavailable reason) := by
  have hmake : CaptureRequest.make request.device request.framerate = .ok request :=
    CaptureRequest.make_eq_ok_iff.2 ⟨rfl, rfl⟩
  obtain ⟨error, later, hwrite⟩ := hwrites { writes := door.writes } rfl
  rw [← writeAll_eq] at hwrite
  refine ⟨"Capture service closed the connection: " ++ error.text, ?_⟩
  rw [Act.runOn, connect, hmake, Act.run_bind_ok (Act.run_ofExcept _ _),
    Act.run_bind_ok (Act.run_step _ _)]
  simp only [ServiceDoor.connect, hcoming]
  rw [Act.run_bind_ok (Act.run_note _ _), Act.run_bind_ok (Act.run_step _ _)]
  simp only [ServiceDoor.write, hwrite]
  rfl

/-- A stream that has ended before its first byte is taken for a service that is unavailable. -/
theorem receive_of_ended (hsegments : inbound.segments = []) (hending : inbound.ending ≠ .silent)
    (hrefusals : Inbound.afterInterruptions inbound.refusals = []) :
    (DeviceParams.receive inbound).1 = .error DeviceParams.refused := by
  have htake : ∃ later, ({ inbound with refusals := [] } : Inbound).take 4 =
      (if inbound.ending = .reset then .error (.os Errno.connectionReset) else .ok ([], []),
        later) := by
    cases hend : inbound.ending with
    | silent => exact absurd hend hending
    | closed =>
      rw [if_neg nofun, Inbound.take]
      simp only [hsegments]
      exact ⟨_, rfl⟩
    | reset =>
      rw [if_pos rfl, Inbound.take]
      simp only [hsegments]
      exact ⟨_, rfl⟩
  obtain ⟨later, htake⟩ := htake
  rw [DeviceParams.receive, Inbound.receiveExact, Inbound.receive]
  simp only [hrefusals, htake]
  by_cases hreset : inbound.ending = .reset
  · simp only [if_pos hreset]
    rfl
  · simp only [if_neg hreset]
    rfl

/-- A client that is told nothing learns that the service is unavailable. -/
theorem connect_of_ended (path : String) (request : CaptureRequest)
    (hcoming : door.coming = .ok inbound :: others)
    (hwrites : Outbound.Completes request.toBytes door.writes)
    (hsegments : inbound.segments = []) (hending : inbound.ending ≠ .silent)
    (hrefusals : Inbound.afterInterruptions door.refusals = []) :
    ∃ reason, ((connect path request.device request.framerate).runOn door).1 =
      .error (.serviceUnavailable reason) := by
  have hmake : CaptureRequest.make request.device request.framerate = .ok request :=
    CaptureRequest.make_eq_ok_iff.2 ⟨rfl, rfl⟩
  obtain ⟨later, hwrite⟩ := hwrites { writes := door.writes } rfl
  rw [← writeAll_eq] at hwrite
  have hreceive : (DeviceParams.receive { inbound with refusals := door.refusals }).1 =
      .error DeviceParams.refused := receive_of_ended hsegments hending hrefusals
  refine ⟨"service closed the connection without sending codec parameters", ?_⟩
  rw [Act.runOn, connect, hmake, Act.run_bind_ok (Act.run_ofExcept _ _),
    Act.run_bind_ok (Act.run_step _ _)]
  simp only [ServiceDoor.connect, hcoming]
  rw [Act.run_bind_ok (Act.run_note _ _), Act.run_bind_ok (Act.run_step _ _)]
  simp only [ServiceDoor.write, hwrite]
  rw [Act.run_bind_ok (Act.run_step _ _)]
  simp only [ServiceDoor.receive, List.getElem?_concat_length]
  rw [hreceive, Act.run_bind_error (Act.run_ofExcept _ _)]
  rfl

end CaptureChannel

/-! ## The steps of the two -/

/-- A client with a valid request comes to a service, in a turn of it. -/
structure Encounter (β ς : Type) where
  machine : CaptureMachine β ς
  options : ServiceOptions
  turn : Turn
  backend : β
  /-- Who comes. What it sends is its request. -/
  caller : Caller
  request : CaptureRequest

namespace Encounter

/-- How far the client is. -/
inductive Client
  | outside
  /-- It is connected, and these bytes of its request are left to be written. -/
  | writing (left : List UInt8)
  | reading
  /-- A write was refused. -/
  | refused
  /-- It met the end of the connection in its read. -/
  | told (ending : StreamEnd)
  deriving DecidableEq

/-- How far the service is. -/
inductive Service
  | away
  /-- It has accepted the client and will check its user. -/
  | checking
  | reading
  /-- The device is open; the parameters are sent next. -/
  | serving
  /-- It will close the connection. -/
  | closing
  | closed
  deriving DecidableEq

/-- A state of the encounter. -/
structure Meeting where
  client : Client := .outside
  service : Service := .away
  /-- The bytes that the client has written. -/
  written : List UInt8 := []
  /-- How its writes were answered. -/
  answers : List SendAnswer := []
  /-- How its read was interrupted. -/
  refusals : List Errno := []
  /-- How many of the bytes the service has read. -/
  taken : Nat := 0
  /-- How many more calls of the client will be interrupted. -/
  interruptions : Nat

variable {β ς : Type} (e : Encounter β ς)

/-- What the service has read, when the client has sent these bytes and then waits. -/
def heard (bytes : List UInt8) : Inbound :=
  { e.caller.inbound with segments := (Outbound.put {} bytes []).sent, ending := .silent }

/-- The bytes that the service has read. -/
def Meeting.bytes (m : Meeting) : List UInt8 := m.written.take m.taken

/-- What the service makes of a request for a device. -/
def opened (request : CaptureRequest) : Except Failure (Option ς) :=
  ((e.machine.openSession request.device request.framerate).runOn e.backend).1

/-- The service does not serve the client: its user may not connect or is not known, or the device
cannot be opened. -/
def Refuses : Prop :=
  e.turn.admits e.options e.caller = false ∨ ∀ session, e.opened e.request ≠ .ok (some session)

/-- The check of a user in terms of who may connect; where anybody may, only the device counts. -/
theorem refuses_iff : e.Refuses ↔
    (e.options.allowed ≠ [] ∧
      (e.turn.answers.user ≠ [] ∨ e.caller.user ∉ e.options.allowed)) ∨
      ∀ session, e.opened e.request ≠ .ok (some session) := by
  rw [Refuses, Turn.admits, Bool.or_eq_false_iff, Bool.and_eq_false_iff, decide_eq_false_iff_not,
    List.isEmpty_eq_false_iff, List.isEmpty_eq_false_iff]

/-- One step of the client or of the service. A call of the client that writes may take less than it
is given, fails once the connection is closed, and may be interrupted before; a read waits for the
connection to be closed, and ends in one of two ways. The service may give up a client that has not
sent its whole request. -/
inductive Step : Meeting → Meeting → Prop
  | connect {m : Meeting} (h : m.client = .outside) :
    Step m { m with client := .writing e.request.toBytes }
  | write {m : Meeting} {left : List UInt8} {count : Nat} (h : m.client = .writing left)
    (hopen : m.service ≠ .closed) (hpos : 0 < count) (hcount : count < left.length) :
    Step m { m with
      client := .writing (left.drop count)
      written := m.written ++ left.take count
      answers := m.answers ++ [.takes count] }
  | complete {m : Meeting} {left : List UInt8} (h : m.client = .writing left)
    (hopen : m.service ≠ .closed) :
    Step m { m with
      client := .reading
      written := m.written ++ left
      answers := m.answers ++ [.takes left.length] }
  | interruptWrite {m : Meeting} {left : List UInt8} {others : Nat} (h : m.client = .writing left)
    (hothers : m.interruptions = others + 1) :
    Step m { m with
      answers := m.answers ++ [.refused Errno.interrupted]
      interruptions := others }
  | refuse {m : Meeting} {left : List UInt8} (h : m.client = .writing left)
    (hclosed : m.service = .closed) :
    Step m { m with client := .refused, answers := m.answers ++ [.refused Errno.brokenPipe] }
  | interruptRead {m : Meeting} {others : Nat} (h : m.client = .reading)
    (hothers : m.interruptions = others + 1) :
    Step m { m with
      refusals := m.refusals ++ [Errno.interrupted]
      interruptions := others }
  | read {m : Meeting} {ending : StreamEnd} (h : m.client = .reading)
    (hclosed : m.service = .closed) (hending : ending ≠ .silent) :
    Step m { m with client := .told ending }
  | accept {m : Meeting} (h : m.service = .away) (hcame : m.client ≠ .outside) :
    Step m { m with service := .checking }
  | reject {m : Meeting} (h : m.service = .checking)
    (hadmits : e.turn.admits e.options e.caller = false) :
    Step m { m with service := .closing }
  | pass {m : Meeting} (h : m.service = .checking)
    (hadmits : e.turn.admits e.options e.caller = true) :
    Step m { m with service := .reading }
  | take {m : Meeting} {more : Nat} (h : m.service = .reading) (hpos : 0 < more)
    (hmore : m.taken + more ≤ m.written.length) :
    Step m { m with taken := m.taken + more }
  | giveUp {m : Meeting} {failure : Failure} (h : m.service = .reading)
    (hread : (CaptureRequest.receive (e.heard m.bytes)).1 = .error failure) :
    Step m { m with service := .closing }
  | opens {m : Meeting} {request : CaptureRequest} {session : ς} (h : m.service = .reading)
    (hread : (CaptureRequest.receive (e.heard m.bytes)).1 = .ok request)
    (hopened : e.opened request = .ok (some session)) :
    Step m { m with service := .serving }
  | fails {m : Meeting} {request : CaptureRequest} (h : m.service = .reading)
    (hread : (CaptureRequest.receive (e.heard m.bytes)).1 = .ok request)
    (hopened : ∀ session, e.opened request ≠ .ok (some session)) :
    Step m { m with service := .closing }
  | close {m : Meeting} (h : m.service = .closing) : Step m { m with service := .closed }

/-- The start, where so many calls of the client will be interrupted. -/
def start (interruptions : Nat) : Meeting := { interruptions }

/-- The client's call has returned. -/
def Meeting.Finished (m : Meeting) : Prop := m.client = .refused ∨ ∃ ending, m.client = .told ending

/-- What the service has sent when it closes the connection, which is what its turn leaves
(`CaptureService.exists_takeTurn`). -/
def reply (m : Meeting) : Inbound :=
  e.turn.reply e.machine e.options { e.caller with inbound := e.heard m.bytes } e.backend

/-- How the end of the connection shows to the client's read. -/
def Meeting.ending (m : Meeting) : StreamEnd :=
  match m.client with
  | .told ending => ending
  | _ => .closed

/-- What the calls of the client come to. -/
def door (m : Meeting) : ServiceDoor where
  coming := [.ok { e.reply m with ending := m.ending }]
  writes := m.answers
  refusals := m.refusals

/-- What the client's call returns. -/
def outcome (path : String) (m : Meeting) : Except Failure CaptureChannel :=
  ((CaptureChannel.connect path e.request.device e.request.framerate).runOn (e.door m)).1

/-! ## What is true at any time -/

variable {e}

/-- What is true of the client's part, where it is. -/
def ClientSound (e : Encounter β ς) (m : Meeting) : Prop :=
  match m.client with
  | .outside => m.written = [] ∧ m.answers = [] ∧ m.service = .away
  | .writing left => left ≠ [] ∧ m.written ++ left = e.request.toBytes ∧
      Outbound.Leaves e.request.toBytes m.answers left
  | .reading => m.written = e.request.toBytes ∧
      Outbound.Completes e.request.toBytes m.answers
  | .refused => m.service = .closed ∧ Outbound.Breaks e.request.toBytes m.answers
  | .told ending => m.service = .closed ∧ ending ≠ .silent ∧
      Outbound.Completes e.request.toBytes m.answers

/-- The invariant of a client that is not served. -/
structure Sound (e : Encounter β ς) (m : Meeting) : Prop where
  client : e.ClientSound m
  passed : m.service = .reading → e.turn.admits e.options e.caller = true
  unserved : m.service ≠ .serving
  front : m.written <+: e.request.toBytes
  refusals : Inbound.afterInterruptions m.refusals = []

theorem sound_start (e : Encounter β ς) (interruptions : Nat) : e.Sound (start interruptions) :=
  ⟨⟨rfl, rfl, rfl⟩, nofun, nofun, List.nil_prefix, rfl⟩

theorem Sound.bytes_prefix {m : Meeting} (h : e.Sound m) : m.bytes <+: e.request.toBytes :=
  (List.take_prefix _ _).trans h.front

theorem unread_heard (e : Encounter β ς) (bytes : List UInt8) : (e.heard bytes).unread = bytes := by
  cases bytes with
  | nil => rfl
  | cons byte bytes => exact List.append_nil _

theorem filled_heard (e : Encounter β ς) (bytes : List UInt8) : (e.heard bytes).Filled := by
  cases bytes with
  | nil => exact ⟨nofun⟩
  | cons byte bytes =>
    refine ⟨fun segment hsegment => ?_⟩
    obtain rfl := List.mem_singleton.1 hsegment
    exact List.cons_ne_nil _ _

theorem receive_heard (e : Encounter β ς) {bytes : List UInt8} {request : CaptureRequest}
    (hfront : request.toBytes <+: bytes) :
    (CaptureRequest.receive (e.heard bytes)).1 = .ok request := by
  rw [← unread_heard e bytes] at hfront
  obtain ⟨later, hreceive, -⟩ := CaptureRequest.exists_receive (filled_heard e bytes) hfront
  rw [hreceive]

/-- Of the front of a request, only the whole request can be read. -/
theorem eq_of_receive {bytes : List UInt8} {request : CaptureRequest}
    (hfront : bytes <+: e.request.toBytes)
    (hread : (CaptureRequest.receive (e.heard bytes)).1 = .ok request) :
    request = e.request ∧ bytes = e.request.toBytes := by
  have hinside : request.toBytes <+: bytes := by
    have hprefix := CaptureRequest.isPrefix_of_receive (filled_heard e bytes)
      (Prod.ext hread rfl : CaptureRequest.receive (e.heard bytes) = (.ok request, _))
    rwa [unread_heard] at hprefix
  have hsame : request = e.request := by
    have hboth := (receive_heard e (hinside.trans hfront)).symm.trans
      (receive_heard e (List.prefix_refl _))
    exact Except.ok.inj hboth
  subst hsame
  exact ⟨rfl, hfront.eq_of_length (Nat.le_antisymm hfront.length_le hinside.length_le)⟩

/-- A step of the service leaves what is true of the client. -/
theorem Sound.of_service {m : Meeting} (h : e.Sound m) (service : Service) (taken : Nat)
    (hcame : m.client ≠ .outside) (hopen : m.service ≠ .closed)
    (hpassed : service = .reading → e.turn.admits e.options e.caller = true)
    (hunserved : service ≠ .serving) : e.Sound { m with service, taken } := by
  refine ⟨?_, hpassed, hunserved, h.front, h.refusals⟩
  have hclient := h.client
  rw [ClientSound] at hclient ⊢
  dsimp only
  cases hcase : m.client with
  | outside => exact absurd hcase hcame
  | writing left =>
    rw [hcase] at hclient
    exact hclient
  | reading =>
    rw [hcase] at hclient
    exact hclient
  | refused =>
    rw [hcase] at hclient
    exact absurd hclient.1 hopen
  | told ending =>
    rw [hcase] at hclient
    exact absurd hclient.1 hopen

theorem Sound.came {m : Meeting} (h : e.Sound m) (hservice : m.service ≠ .away) :
    m.client ≠ .outside := by
  have hclient := h.client
  intro hcase
  rw [ClientSound, hcase] at hclient
  exact hservice hclient.2.2

theorem afterInterruptions_concat {refusals : List Errno}
    (h : Inbound.afterInterruptions refusals = []) :
    Inbound.afterInterruptions (refusals ++ [Errno.interrupted]) = [] := by
  induction refusals with
  | nil => rfl
  | cons code refusals ih =>
    rw [Inbound.afterInterruptions] at h
    split at h
    · rename_i hcode
      rw [List.cons_append, Inbound.afterInterruptions, if_pos hcode]
      exact ih h
    · cases h

/-- **Every step keeps the invariant**, if the client is not to be served. -/
theorem sound_of_step (hrefuses : e.Refuses) {m next : Meeting} (hsound : e.Sound m)
    (hstep : e.Step m next) : e.Sound next := by
  have ⟨hclient, hpassed, hunserved, hfront, hrefusals⟩ := hsound
  cases hstep with
  | connect h =>
    rw [ClientSound, h] at hclient
    obtain ⟨hwritten, hanswers, -⟩ := hclient
    refine ⟨⟨CaptureChannel.toBytes_ne_nil e.request, ?_, ?_⟩, hpassed, hunserved, hfront,
      hrefusals⟩
    · rw [hwritten, List.nil_append]
    · rw [hanswers]
      exact .nil _
  | @write left count h hopen hpos hcount =>
    rw [ClientSound, h] at hclient
    obtain ⟨hleft, hbytes, hleaves⟩ := hclient
    have hrest : m.written ++ left.take count ++ left.drop count = e.request.toBytes := by
      rw [List.append_assoc, List.take_append_drop, hbytes]
    refine ⟨⟨?_, hrest, hleaves.takes hcount⟩, hpassed, hunserved, ⟨_, hrest⟩, hrefusals⟩
    rw [Ne, List.drop_eq_nil_iff]
    omega
  | @complete left h hopen =>
    rw [ClientSound, h] at hclient
    obtain ⟨-, hbytes, hleaves⟩ := hclient
    exact ⟨⟨hbytes, hleaves.completes⟩, hpassed, hunserved,
      ⟨[], by rw [List.append_nil, hbytes]⟩, hrefusals⟩
  | @interruptWrite left others h hothers =>
    rw [ClientSound, h] at hclient
    obtain ⟨hleft, hbytes, hleaves⟩ := hclient
    refine ⟨?_, hpassed, hunserved, hfront, hrefusals⟩
    rw [ClientSound]
    simp only [h]
    exact ⟨hleft, hbytes, hleaves.interrupted⟩
  | @refuse left h hclosed =>
    rw [ClientSound, h] at hclient
    obtain ⟨-, -, hleaves⟩ := hclient
    exact ⟨⟨hclosed, hleaves.breaks (by decide)⟩, hpassed, hunserved, hfront, hrefusals⟩
  | interruptRead h hothers =>
    refine ⟨?_, hpassed, hunserved, hfront, afterInterruptions_concat hrefusals⟩
    rw [ClientSound, h] at hclient
    rw [ClientSound]
    simp only [h]
    exact hclient
  | read h hclosed hending =>
    rw [ClientSound, h] at hclient
    exact ⟨⟨hclosed, hending, hclient.2⟩, hpassed, hunserved, hfront, hrefusals⟩
  | accept h hcame => exact hsound.of_service .checking _ hcame (by rw [h]; nofun) nofun nofun
  | reject h hadmits =>
    exact hsound.of_service .closing _ (hsound.came (by rw [h]; nofun)) (by rw [h]; nofun)
      nofun nofun
  | pass h hadmits =>
    exact hsound.of_service .reading _ (hsound.came (by rw [h]; nofun)) (by rw [h]; nofun)
      (fun _ => hadmits) nofun
  | take h hpos hmore =>
    exact hsound.of_service m.service _ (hsound.came (by rw [h]; nofun)) (by rw [h]; nofun)
      hpassed hunserved
  | giveUp h hread =>
    exact hsound.of_service .closing _ (hsound.came (by rw [h]; nofun)) (by rw [h]; nofun)
      nofun nofun
  | @opens request session h hread hopened =>
    -- Only the client's own request is ever read, and its device cannot be opened.
    obtain ⟨rfl, -⟩ := eq_of_receive hsound.bytes_prefix hread
    rcases hrefuses with hadmits | hnone
    · rw [hpassed h] at hadmits
      cases hadmits
    · exact absurd hopened (hnone session)
  | fails h hread hopened =>
    exact hsound.of_service .closing _ (hsound.came (by rw [h]; nofun)) (by rw [h]; nofun)
      nofun nofun
  | close h =>
    exact hsound.of_service .closed _ (hsound.came (by rw [h]; nofun)) (by rw [h]; nofun)
      nofun nofun

/-- **The invariant holds at any time.** -/
theorem sound_of_run (hrefuses : e.Refuses) {interruptions : Nat} {m : Meeting}
    (hrun : Relation.ReflTransGen e.Step (start interruptions) m) : e.Sound m := by
  induction hrun with
  | refl => exact sound_start e interruptions
  | tail _ hstep ih => exact sound_of_step hrefuses ih hstep

/-! ## What the client learns -/

/-- A client that is not served is sent nothing. -/
theorem segments_reply (hrefuses : e.Refuses) {m : Meeting} (h : e.Sound m) :
    (e.reply m).segments = [] := by
  have hadmits : e.turn.admits e.options { e.caller with inbound := e.heard m.bytes } =
      e.turn.admits e.options e.caller := rfl
  rw [reply, Turn.reply, hadmits]
  cases hcase : e.turn.admits e.options e.caller with
  | false => rfl
  | true =>
    have hnone := hrefuses.resolve_left (ne_false_of_eq_true hcase)
    let visit := e.turn.visit { e.caller with inbound := e.heard m.bytes } e.backend
    have hsent : ((Visit.serve e.machine e.turn.rounds).runOn visit).2.1.outbound =
        visit.outbound := by
      by_cases hwhole : e.request.toBytes <+: (e.heard m.bytes).unread
      · exact Visit.outbound_serve_of_refused e.machine e.turn.rounds (filled_heard e m.bytes)
          hwhole rfl hnone
      · -- The service gave the client up before it had the whole request.
        refine Visit.outbound_serve_of_malformed e.machine e.turn.rounds (filled_heard e m.bytes)
          fun request hrequest => ?_
        change request.toBytes <+: (e.heard m.bytes).unread at hrequest
        rw [unread_heard] at hwhole hrequest
        obtain ⟨rfl, -⟩ := eq_of_receive h.bytes_prefix (receive_heard e hrequest)
        exact hwhole hrequest
    rw [if_pos rfl, Visit.reply]
    exact congrArg Outbound.sent hsent

theorem outcome_of_finished (hrefuses : e.Refuses) (path : String) {m : Meeting} (h : e.Sound m)
    (hfinished : m.Finished) :
    ∃ reason, e.outcome path m = .error (.serviceUnavailable reason) := by
  have hclient := h.client
  rcases hfinished with hrefused | ⟨ending, htold⟩
  · rw [ClientSound, hrefused] at hclient
    exact CaptureChannel.connect_of_breaks path e.request rfl hclient.2
  · rw [ClientSound, htold] at hclient
    obtain ⟨-, hending, hcompletes⟩ := hclient
    have hshown : m.ending = ending := by rw [Meeting.ending, htold]
    exact CaptureChannel.connect_of_ended path e.request rfl hcompletes
      (segments_reply hrefuses h) (hshown ▸ hending) h.refusals

/-- Until the client has its answer, one of the two can go on. -/
theorem exists_step (hrefuses : e.Refuses) {m : Meeting} (h : e.Sound m)
    (hfinished : ¬ m.Finished) : ∃ next, e.Step m next := by
  have hclient := h.client
  cases hcase : m.client with
  | outside => exact ⟨_, .connect hcase⟩
  | writing left =>
    by_cases hclosed : m.service = .closed
    · exact ⟨_, .refuse hcase hclosed⟩
    · exact ⟨_, .complete hcase hclosed⟩
  | refused => exact absurd (Or.inl hcase) hfinished
  | told ending => exact absurd (Or.inr ⟨ending, hcase⟩) hfinished
  | reading =>
    rw [ClientSound, hcase] at hclient
    cases hturn : m.service with
    | away => exact ⟨_, .accept hturn (by rw [hcase]; nofun)⟩
    | checking =>
      cases hadmits : e.turn.admits e.options e.caller with
      | false => exact ⟨_, .reject hturn hadmits⟩
      | true => exact ⟨_, .pass hturn hadmits⟩
    | reading =>
      by_cases hmore : m.taken < m.written.length
      · exact ⟨_, .take hturn Nat.one_pos hmore⟩
      · -- The request is read, and its device is asked for.
        have hnone := hrefuses.resolve_left (ne_false_of_eq_true (h.passed hturn))
        have hwhole : m.bytes = e.request.toBytes := by
          rw [Meeting.bytes, List.take_of_length_le (Nat.not_lt.1 hmore), hclient.1]
        have hread : (CaptureRequest.receive (e.heard m.bytes)).1 = .ok e.request :=
          receive_heard e (hwhole ▸ List.prefix_refl _)
        exact ⟨_, .fails hturn hread hnone⟩
    | serving => exact absurd hturn h.unserved
    | closing => exact ⟨_, .close hturn⟩
    | closed =>
      have hending : StreamEnd.closed ≠ .silent := nofun
      exact ⟨_, .read hcase hturn hending⟩

/-- A bound on the steps that the client still makes. -/
def clientSteps (e : Encounter β ς) : Client → Nat
  | .outside => e.request.toBytes.length + 2
  | .writing left => left.length + 1
  | .reading => 1
  | .refused | .told _ => 0

/-- A bound on the steps that the service still makes. -/
def serviceSteps : Service → Nat
  | .away => 4
  | .checking => 3
  | .reading => 2
  | .closing => 1
  | .serving | .closed => 0

/-- A bound on the steps to come. -/
def steps (e : Encounter β ς) (m : Meeting) : Nat :=
  e.clientSteps m.client + serviceSteps m.service + (e.request.toBytes.length - m.taken) +
    m.interruptions

theorem steps_lt_of_step {m next : Meeting} (h : e.Sound m) (hstep : e.Step m next) :
    e.steps next < e.steps m := by
  have hlength := h.front.length_le
  have hclient := h.client
  cases hstep with
  | connect h =>
    simp only [steps, h, clientSteps]
    omega
  | write h hopen hpos hcount =>
    simp only [steps, h, clientSteps, List.length_drop]
    omega
  | complete h hopen =>
    rw [ClientSound, h] at hclient
    have hleft := List.length_pos_iff.2 hclient.1
    simp only [steps, h, clientSteps]
    omega
  | interruptWrite h hothers =>
    simp only [steps, hothers]
    omega
  | refuse h hclosed =>
    simp only [steps, h, clientSteps]
    omega
  | interruptRead h hothers =>
    simp only [steps, hothers]
    omega
  | read h hclosed hending =>
    simp only [steps, h, clientSteps]
    omega
  | accept h hcame =>
    simp only [steps, h, serviceSteps]
    omega
  | reject h hadmits =>
    simp only [steps, h, serviceSteps]
    omega
  | pass h hadmits =>
    simp only [steps, h, serviceSteps]
    omega
  | take h hpos hmore =>
    simp only [steps]
    omega
  | giveUp h hread =>
    simp only [steps, h, serviceSteps]
    omega
  | opens h hread hopened =>
    simp only [steps, h, serviceSteps]
    omega
  | fails h hread hopened =>
    simp only [steps, h, serviceSteps]
    omega
  | close h =>
    simp only [steps, h, serviceSteps]
    omega

/-- **A client that is not served always learns that the service is unavailable**, in whatever order
the two make their steps: that is what its call returns, one of the two can go on until it has
returned, and there is an end to the steps. -/
theorem learns_unavailable (hrefuses : e.Refuses) (path : String) {interruptions : Nat}
    {m : Meeting} (hrun : Relation.ReflTransGen e.Step (start interruptions) m) :
    (m.Finished → ∃ reason, e.outcome path m = .error (.serviceUnavailable reason)) ∧
      (¬ m.Finished → ∃ next, e.Step m next) ∧
      ∀ next, e.Step m next → e.steps next < e.steps m := by
  have hsound := sound_of_run hrefuses hrun
  exact ⟨outcome_of_finished hrefuses path hsound, exists_step hrefuses hsound,
    fun next hstep => steps_lt_of_step hsound hstep⟩

/-- A client asks for a device that is not there. -/
def sampleEncounter : Encounter Nat DeviceParams where
  machine := CaptureService.sampleCamera
  options := { allowed := [1000] }
  turn := { rounds := 4 }
  backend := 7
  caller := { number := 0, user := 1000, inbound := { segments := [], cuts := [2] } }
  request := Visit.autoRequest

/-- The client's first write is interrupted and the next one is cut, and its read finds the
connection reset. -/
theorem learns_unavailable_sample : sampleEncounter.Refuses ∧
    ∃ m, Relation.ReflTransGen sampleEncounter.Step (start 1) m ∧ m.client = .told .reset ∧
      ∃ reason, sampleEncounter.outcome "capture.sock" m =
        .error (.serviceUnavailable reason) := by
  have hnone : ∀ session, sampleEncounter.opened sampleEncounter.request ≠ .ok (some session) :=
    nofun
  have hrefuses : sampleEncounter.Refuses := (refuses_iff _).2 (Or.inr hnone)
  have hrun := (Relation.ReflTransGen.refl (r := sampleEncounter.Step) (a := start 1)).tail
    (.connect rfl)
    |>.tail (.interruptWrite rfl rfl)
    |>.tail (.write rfl nofun (by decide : 0 < 3) (by decide))
    |>.tail (.accept rfl nofun)
    |>.tail (.pass rfl rfl)
    |>.tail (.complete rfl nofun)
    |>.tail (.take rfl (by decide : 0 < 9) (by decide +kernel))
    |>.tail (.fails rfl (receive_heard sampleEncounter (by decide +kernel)) hnone)
    |>.tail (.close rfl)
    |>.tail (.read rfl rfl (by decide : StreamEnd.reset ≠ .silent))
  exact ⟨hrefuses, _, hrun, rfl,
    (learns_unavailable hrefuses "capture.sock" hrun).1 (Or.inr ⟨.reset, rfl⟩)⟩

end Encounter

end InstantReplay
