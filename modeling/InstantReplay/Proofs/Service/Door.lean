import InstantReplay.Proofs.Act
import InstantReplay.Proofs.Events
import InstantReplay.Service.Client

/-!
# Calls to the service

All that a client does with the service is a run of the door to it, with an event for each call
(`DoorEvent`). A session begins with a handshake: the client connects, sends its request, gets the
parameters and limits the time of reads. Any of these may fail, and the handshake is then given up
(`DoorEvent.Abandoned`).

Each connection has a number, and a connection that is made later has a higher one
(`ServiceDoor.Moves.length_opened`). So a number says which connection is meant for all time.
-/

namespace InstantReplay

/-- A call to the service and its outcome. -/
inductive DoorEvent
  /-- A connection is asked for. It gets a number. -/
  | connected (outcome : Except IoError Nat)
  | requested (request : CaptureRequest) (outcome : Except IoError Unit)
  /-- The parameters of the device are received. -/
  | described (number : Nat) (outcome : Except Failure (DeviceParams × Descriptor))
  /-- A limit of the time of reads is asked for. -/
  | limited (refusal : Option Errno)
  /-- A frame is received. -/
  | received (number : Nat) (outcome : Except Failure (Option Frame))

namespace DoorEvent

/-- Whether the call begins a handshake. -/
def isAttempt : DoorEvent → Bool
  | .connected _ => true
  | _ => false

/-- The number of the connection that the call made. -/
def opened? : DoorEvent → Option Nat
  | .connected (.ok number) => some number
  | _ => none

/-- A handshake that is completed. -/
def handshake (number : Nat) (request : CaptureRequest) (reply : DeviceParams × Descriptor) :
    List DoorEvent :=
  [.connected (.ok number), .requested request (.ok ()), .described number (.ok reply),
    .limited none]

/-- How many handshakes were completed. -/
def handshakes : List DoorEvent → Nat
  | .connected (.ok number) :: .requested _ (.ok ()) :: .described other (.ok _) ::
      .limited none :: rest => handshakes rest + if other = number then 1 else 0
  | _ :: rest => handshakes rest
  | [] => 0

/-- What was done since the last attempt at a handshake, with this attempt. -/
def lastAttempt (events : List DoorEvent) : List DoorEvent :=
  events.foldl (fun since event => if event.isAttempt then [event] else since ++ [event]) []

/-- The last handshake was completed, and no receive has failed since. -/
def Stands (events : List DoorEvent) : Prop :=
  ∃ number request reply since, lastAttempt events = handshake number request reply ++ since ∧
    ∀ other failure, .received other (.error failure) ∉ since

/-- A receive over a connection is safe behind these calls: no connection was made later, its
handshake was completed, and no receive over it has failed. -/
structure Safe (before : List DoorEvent) (number : Nat) : Prop where
  latest : (before.filterMap opened?).getLast? = some number
  handshaken : ∃ request reply, handshake number request reply <:+: before
  unbroken : ∀ failure, .received number (.error failure) ∉ before

/-! ## Calls in turn -/

variable {events rest : List DoorEvent} {event : DoorEvent}

theorem lastAttempt_append (hrest : ∀ event ∈ rest, event.isAttempt = false) :
    lastAttempt (events ++ rest) = lastAttempt events ++ rest := by
  rw [lastAttempt, lastAttempt, List.foldl_append]
  generalize events.foldl _ [] = since
  induction rest generalizing since with
  | nil => rw [List.append_nil, List.foldl_nil]
  | cons event rest ih =>
    obtain ⟨hevent, hrest⟩ := List.forall_mem_cons.1 hrest
    rw [List.foldl_cons, if_neg (by rw [hevent]; exact Bool.false_ne_true), ih hrest,
      List.append_assoc, List.singleton_append]

theorem lastAttempt_append_cons (hevent : event.isAttempt)
    (hrest : ∀ event ∈ rest, event.isAttempt = false) :
    lastAttempt (events ++ event :: rest) = event :: rest := by
  have hbegun : lastAttempt (events ++ [event]) = [event] := by
    rw [lastAttempt, List.foldl_append, List.foldl_cons, List.foldl_nil, if_pos hevent]
  rw [← List.singleton_append, ← List.append_assoc, lastAttempt_append hrest, hbegun]

theorem lastAttempt_handshake_append (number : Nat) (request : CaptureRequest)
    (reply : DeviceParams × Descriptor) (hrest : ∀ event ∈ rest, event.isAttempt = false) :
    lastAttempt (events ++ (handshake number request reply ++ rest)) =
      handshake number request reply ++ rest := by
  refine lastAttempt_append_cons rfl fun event hevent => ?_
  rcases List.mem_append.1 hevent with hevent | hevent
  · simp only [List.mem_cons, List.not_mem_nil, or_false] at hevent
    rcases hevent with rfl | rfl | rfl <;> rfl
  · exact hrest event hevent

theorem not_received_handshake {number : Nat} {request : CaptureRequest}
    {reply : DeviceParams × Descriptor} (other : Nat) (outcome : Except Failure (Option Frame)) :
    .received other outcome ∉ handshake number request reply := by
  simp [handshake]

theorem handshakes_handshake_append (number : Nat) (request : CaptureRequest)
    (reply : DeviceParams × Descriptor) (rest : List DoorEvent) :
    handshakes (handshake number request reply ++ rest) = handshakes rest + 1 := by
  simp only [handshake, List.cons_append, List.nil_append, handshakes, reduceIte]

end DoorEvent

/-! ## What a call does -/

namespace ServiceDoor

/-- A call to the service changes the door. -/
inductive Moves : ServiceDoor → DoorEvent → ServiceDoor → Prop
  | connect {door later : ServiceDoor} {outcome : Except IoError Nat}
    (h : door.connect = (outcome, later)) : Moves door (.connected outcome) later
  | request {door later : ServiceDoor} (request : CaptureRequest) {outcome : Except IoError Unit}
    (h : door.write request.toBytes = (outcome, later)) :
    Moves door (.requested request outcome) later
  | describe {door later : ServiceDoor} {number : Nat}
    {outcome : Except Failure (DeviceParams × Descriptor)}
    (h : door.receive number DeviceParams.receive = (outcome, later)) :
    Moves door (.described number outcome) later
  | limit {door later : ServiceDoor} {refusal : Option Errno}
    (h : door.limit = (refusal, later)) : Moves door (.limited refusal) later
  | receive {door later : ServiceDoor} {number : Nat} {outcome : Except Failure (Option Frame)}
    (h : door.receive number FrameMessage.receive = (outcome, later)) :
    Moves door (.received number outcome) later

variable {door later : ServiceDoor} {event : DoorEvent} {events : List DoorEvent}

theorem length_opened_receive {α : Type} {f : Inbound → Except Failure α × Inbound} {number : Nat}
    {outcome : Except Failure α} (h : door.receive number f = (outcome, later)) :
    later.opened.length = door.opened.length := by
  rw [receive] at h
  split at h
  · rw [(Prod.mk.inj h).2]
  · rw [← (Prod.mk.inj h).2, List.length_set]

theorem Moves.length_opened (h : door.Moves event later) :
    door.opened.length ≤ later.opened.length ∧
      ∀ number, event = .connected (.ok number) →
        number = door.opened.length ∧ number < later.opened.length := by
  cases h with
  | connect h =>
    rw [ServiceDoor.connect] at h
    split at h
    · obtain ⟨rfl, rfl⟩ := Prod.mk.inj h
      exact ⟨Nat.le_refl _, nofun⟩
    · obtain ⟨rfl, rfl⟩ := Prod.mk.inj h
      exact ⟨Nat.le_refl _, nofun⟩
    · obtain ⟨rfl, rfl⟩ := Prod.mk.inj h
      rw [List.length_append, List.length_singleton]
      refine ⟨Nat.le_succ _, fun number hnumber => ?_⟩
      obtain rfl : door.opened.length = number := by simpa using hnumber
      exact ⟨rfl, Nat.lt_succ_self _⟩
  | request request h =>
    rw [← (Prod.mk.inj h).2]
    exact ⟨Nat.le_refl _, nofun⟩
  | describe h => exact ⟨Nat.le_of_eq (length_opened_receive h).symm, nofun⟩
  | limit h =>
    rw [← (Prod.mk.inj h).2]
    exact ⟨Nat.le_refl _, nofun⟩
  | receive h => exact ⟨Nat.le_of_eq (length_opened_receive h).symm, nofun⟩

theorem length_opened_le (h : Trail Moves door events later) :
    door.opened.length ≤ later.opened.length := by
  induction h with
  | nil => exact Nat.le_refl _
  | cons hstep _ ih => exact Nat.le_trans hstep.length_opened.1 ih

end ServiceDoor

/-- A handshake that is given up: the request cannot be made, or one of the calls fails. -/
inductive DoorEvent.Abandoned : List DoorEvent → Prop
  | unasked : Abandoned []
  | unreached (error : IoError) : Abandoned [.connected (.error error)]
  | unheard (number : Nat) (request : CaptureRequest) (error : IoError) :
    Abandoned [.connected (.ok number), .requested request (.error error)]
  | undescribed (number : Nat) (request : CaptureRequest) (failure : Failure) :
    Abandoned [.connected (.ok number), .requested request (.ok ()),
      .described number (.error failure)]
  | unlimited (number : Nat) (request : CaptureRequest) (reply : DeviceParams × Descriptor)
    (code : Errno) :
    Abandoned [.connected (.ok number), .requested request (.ok ()), .described number (.ok reply),
      .limited (some code)]

namespace DoorEvent.Abandoned

variable {events trace : List DoorEvent}

theorem not_received (h : Abandoned events) (number : Nat)
    (outcome : Except Failure (Option Frame)) : .received number outcome ∉ events := by
  cases h <;> simp

theorem handshakes_append (h : Abandoned events) (rest : List DoorEvent) :
    handshakes (events ++ rest) = handshakes rest := by
  cases h <;> simp [handshakes]

theorem countP_isAttempt_le (h : Abandoned events) : events.countP isAttempt ≤ 1 := by
  cases h with
  | unasked => exact Nat.zero_le 1
  | _ => exact Nat.le_refl 1

/-- A handshake that is given up is not what the last session stands on. -/
theorem stands_of_append (h : Abandoned events) (hstands : Stands (trace ++ events)) :
    Stands trace := by
  obtain ⟨number, request, reply, since, hlast, hsince⟩ := hstands
  cases h with
  | unasked => exact ⟨number, request, reply, since, by rwa [List.append_nil] at hlast, hsince⟩
  | _ =>
    rw [lastAttempt_append_cons rfl (by simp [isAttempt])] at hlast
    simp [handshake] at hlast

end DoorEvent.Abandoned

/-- A client connects: it gives up, or has the parameters. -/
theorem CaptureChannel.exists_connect_events (path device : String) (framerate : Int32)
    (door : ServiceDoor) : ∃ result later lines events,
      (connect path device framerate).runOn door = (result, later, lines) ∧
      Trail ServiceDoor.Moves door events later ∧
      ((∃ failure, result = .error failure ∧ DoorEvent.Abandoned events) ∨
        ∃ number request reply, result = .ok ⟨path, reply.1, reply.2, number⟩ ∧
          events = [.connected (.ok number), .requested request (.ok ()),
            .described number (.ok reply)]) := by
  rw [Act.runOn, connect]
  cases CaptureRequest.make device framerate with
  | error failure =>
    rw [Act.run_bind_error (Act.run_ofExcept _ _)]
    exact ⟨_, _, _, [], rfl, .nil door, Or.inl ⟨failure, rfl, .unasked⟩⟩
  | ok request =>
    rw [Act.run_bind_ok (Act.run_ofExcept _ _), Act.run_bind_ok (Act.run_step _ _)]
    rcases hconnect : door.connect with ⟨error | number, opened⟩
    · exact ⟨_, _, _, _, rfl, .single (.connect hconnect), Or.inl ⟨_, rfl, .unreached error⟩⟩
    rw [Act.run_bind_ok (Act.run_note _ _), Act.run_bind_ok (Act.run_step _ _)]
    rcases hwrite : opened.write request.toBytes with ⟨error | ⟨⟩, written⟩
    · exact ⟨_, _, _, _, rfl, .cons (.connect hconnect) (.single (.request request hwrite)),
        Or.inl ⟨_, rfl, .unheard number request error⟩⟩
    dsimp only
    rw [Act.run_bind_ok (Act.run_step _ _)]
    rcases hreceive : written.receive number DeviceParams.receive with ⟨failure | reply, later⟩
    · rw [Act.run_bind_error (Act.run_ofExcept _ _)]
      exact ⟨_, _, _, _, rfl, .cons (.connect hconnect) (.cons (.request request hwrite)
        (.single (.describe hreceive))), Or.inl ⟨failure, rfl, .undescribed number request failure⟩⟩
    · rw [Act.run_bind_ok (Act.run_ofExcept _ _), Act.run_bind_ok (Act.run_note _ _)]
      exact ⟨_, _, _, _, rfl, .cons (.connect hconnect) (.cons (.request request hwrite)
        (.single (.describe hreceive))), Or.inr ⟨number, request, reply, rfl, rfl⟩⟩

end InstantReplay
