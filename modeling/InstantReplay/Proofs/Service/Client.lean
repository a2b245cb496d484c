import InstantReplay.Proofs.Act
import InstantReplay.Proofs.Wire.Request
import InstantReplay.Proofs.Wire.Session
import InstantReplay.Service.Client

/-!
# What a client makes of a session

A client connects, asks for a device and gets its parameters (`CaptureChannel.exists_connect`), and
then one frame message after the other (`CaptureChannel.received_eq`), whichever way the system
cuts what it receives.
-/

namespace InstantReplay

variable {door : ServiceDoor} {number : Nat} {front behind : List Cell}

namespace ServiceDoor

/-- A connection brings cells, and no call for descriptors fails. -/
def Brings (door : ServiceDoor) (number : Nat) (cells : List Cell) : Prop :=
  ∃ inbound, door.opened[number]? = some inbound ∧
    Inbound.Reliable { inbound with refusals := door.refusals } ∧ inbound.cells = cells

theorem Brings.exists_receive {α : Type} {f : Inbound → Except Failure α × Inbound} {value : α}
    (h : door.Brings number (front ++ behind))
    (hf : ∀ inbound : Inbound, inbound.Reliable → inbound.cells = front ++ behind →
      ∃ later, f inbound = (.ok value, later) ∧ inbound.Passes front later) :
    ∃ later, door.receive number f = (.ok value, later) ∧ later.Brings number behind := by
  obtain ⟨inbound, hopened, hreliable, hcells⟩ := h
  obtain ⟨later, hresult, hpasses⟩ := hf _ hreliable hcells
  have hnumber := (List.getElem?_eq_some_iff.1 hopened).1
  refine ⟨{ door with
      opened := door.opened.set number { later with refusals := [] }
      refusals := later.refusals }, by simp only [receive, hopened, hresult],
    { later with refusals := [] }, List.getElem?_set_self hnumber, hpasses.reliable hreliable, ?_⟩
  have hsplit : front ++ behind = front ++ later.cells := hcells.symm.trans hpasses.cells_eq
  exact (List.append_cancel_left hsplit).symm

end ServiceDoor

namespace CaptureChannel

variable {params : DeviceParams} {device : Descriptor} {inbound : Inbound}

/-- **A client that is answered has its session.** -/
theorem exists_connect (path : String) (request : CaptureRequest)
    {others : List (Except IoError Inbound)} (hcoming : door.coming = .ok inbound :: others)
    (hwrites : ∀ answer ∈ door.writes, answer.Goes)
    (hreliable : Inbound.Reliable { inbound with refusals := door.refusals })
    (hsize : params.toJson.length ≤ maxParamsSize)
    (hcells : inbound.cells = params.cells device ++ behind) :
    ∃ later lines, (connect path request.device request.framerate).runOn door =
        (.ok ⟨path, params, device, door.opened.length⟩, later, lines) ∧
      later.Brings door.opened.length behind := by
  have hmake : CaptureRequest.make request.device request.framerate = .ok request :=
    CaptureRequest.make_eq_ok_iff.2 ⟨rfl, rfl⟩
  have hworks : Outbound.Working { writes := door.writes } :=
    ⟨⟨by simp, by simp, by simp⟩, rfl, by simp, hwrites⟩
  obtain ⟨outbound, hwrite, -⟩ := hworks.exists_writeAll request.toBytes
  have hasked : ServiceDoor.connect door = (.ok door.opened.length,
      { door with coming := others, opened := door.opened ++ [inbound] }) := by
    simp only [ServiceDoor.connect, hcoming]
  have hwritten : ServiceDoor.write request.toBytes
      { door with coming := others, opened := door.opened ++ [inbound] } =
        (.ok (), { door with
          coming := others
          opened := door.opened ++ [inbound]
          writes := outbound.writes
          requests := door.requests ++ [(CaptureRequest.receive outbound.toInbound).1] }) := by
    simp only [ServiceDoor.write, hwrite]
  have hbrings : ServiceDoor.Brings { door with
      coming := others
      opened := door.opened ++ [inbound]
      writes := outbound.writes
      requests := door.requests ++ [(CaptureRequest.receive outbound.toInbound).1] }
      door.opened.length (params.cells device ++ behind) :=
    ⟨inbound, List.getElem?_concat_length, hreliable, hcells⟩
  obtain ⟨later, hreceive, hlater⟩ := hbrings.exists_receive
    fun inbound hreliable hcells => DeviceParams.exists_receive_cells hreliable hsize hcells
  change ServiceDoor.receive door.opened.length DeviceParams.receive _ = _ at hreceive
  refine ⟨later, [.debug s!"Connected to capture service at {quoted path}", openedNote params], ?_,
    hlater⟩
  rw [Act.runOn, connect, hmake, Act.run_bind_ok (Act.run_ofExcept _ _),
    Act.run_bind_ok (Act.run_step _ _), hasked]
  dsimp only
  rw [Act.run_bind_ok (Act.run_note _ _), Act.run_bind_ok (Act.run_step _ _), hwritten]
  dsimp only
  rw [Act.run_bind_ok (Act.run_step _ _), hreceive, Act.run_bind_ok (Act.run_ofExcept _ _),
    Act.run_bind_ok (Act.run_note _ _)]
  rfl

/-- What a client gets when it asks for frames so many times. -/
def received (channel : CaptureChannel) : Nat → ServiceDoor → List (Except Failure (Option Frame))
  | 0, _ => []
  | count + 1, door =>
    let (frame, later, _) := channel.next.runOn door
    frame :: received channel count later

/-- **A client gets the frames that were sent**, one after the other. -/
theorem received_eq {channel : CaptureChannel} {messages : List (Int64 × Option Frame)}
    (h : door.Brings channel.connection (FrameMessage.cellsOf messages ++ behind))
    (hcan : ∀ message ∈ messages, FrameMessage.CanSend message.1 message.2) :
    channel.received messages.length door =
      messages.map fun message => .ok (FrameMessage.delivered message.1 message.2) := by
  induction messages generalizing door with
  | nil => rfl
  | cons message messages ih =>
    obtain ⟨hfirst, hrest⟩ := List.forall_mem_cons.1 hcan
    rw [FrameMessage.cellsOf, List.flatMap_cons, List.append_assoc] at h
    obtain ⟨later, hreceive, hlater⟩ := h.exists_receive fun inbound hreliable hcells =>
      FrameMessage.exists_receive_cells hreliable hfirst hcells
    have hnext : channel.next.runOn door =
        (.ok (FrameMessage.delivered message.1 message.2), later, []) := by
      rw [Act.runOn, next, Act.run_bind_ok (Act.run_step _ _), Act.run_ofExcept, hreceive]
    rw [List.length_cons, received, hnext, List.map_cons]
    exact congrArg _ (ih hlater hrest)

end CaptureChannel

end InstantReplay
