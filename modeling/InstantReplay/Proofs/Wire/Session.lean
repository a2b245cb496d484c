import InstantReplay.Proofs.Wire.DeviceParams
import InstantReplay.Proofs.Wire.FrameMessage

/-!
# Whole sessions on a stream

A session is the parameters of a device and any number of frame messages behind them. Over a socket
that works, all of it can be sent that the channel has words for
(`DeviceParams.exists_send`, `FrameMessage.exists_sendAll`), and all of it is received as it was
sent, with nothing left over, into whatever pieces either end cuts the stream
(`WireSession.exists_received`).
-/

namespace InstantReplay

variable {outbound : Outbound}

/-! ## What a working socket takes -/

theorem DeviceParams.exists_send (h : outbound.Working) {params : DeviceParams}
    (hsize : params.toJson.length ≤ maxParamsSize) (device : Descriptor) :
    ∃ sent, params.send device outbound = (.ok (), sent) ∧ sent.Working := by
  have hbytes : Words.bytes32 (UInt32.ofNat params.toJson.length) ++ params.toJson ≠ [] := by
    rw [← List.length_pos_iff, List.length_append]
    have hpos := length_toJson_pos params
    omega
  have hroom : [device].length ≤ maxDescriptors := by
    rw [List.length_singleton]
    decide
  obtain ⟨sent, hsent, hworks⟩ := h.exists_send hbytes hroom
  exact ⟨sent, by simp only [send, toBytes_of_le hsize, hsent], hworks⟩

namespace FrameMessage

theorem exists_send (h : outbound.Working) {pts : Int64} {frame : Option Frame}
    (hcan : CanSend pts frame) :
    ∃ sent, send pts frame outbound = (.ok (), sent) ∧ sent.Working := by
  by_cases hpts : pts < 0
  · obtain ⟨sent, hsent, hworks⟩ := h.exists_writeAll (timeBytes pts)
    exact ⟨sent, by simp only [send, if_pos hpts, hsent], hworks⟩
  cases frame with
  | none =>
    obtain ⟨sent, hsent, hworks⟩ := h.exists_writeAll (timeBytes noFrame)
    exact ⟨sent, by simp only [send, if_neg hpts, hsent], hworks⟩
  | some frame =>
    have hframe := (hcan.resolve_left hpts) frame rfl
    obtain ⟨written, hwrite, hmiddle⟩ := h.exists_writeAll (timeBytes pts)
    have hrecord : (FrameRecord.describing frame.format frame.planes
        frame.objects.length).toBytes ≠ [] := by
      rw [← List.length_pos_iff, FrameRecord.length_toBytes]
      decide
    obtain ⟨sent, hsent, hworks⟩ := hmiddle.exists_send hrecord hframe.objects_le
    exact ⟨sent, by simp only [send, if_neg hpts, hframe.ofFrame_eq, hwrite, hsent], hworks⟩

theorem exists_sendAll (h : outbound.Working) {messages : List (Int64 × Option Frame)}
    (hcan : ∀ message ∈ messages, CanSend message.1 message.2) :
    ∃ sent, sendAll messages outbound = (.ok (), sent) ∧ sent.Working := by
  induction messages generalizing outbound with
  | nil => exact ⟨outbound, rfl, h⟩
  | cons message messages ih =>
    obtain ⟨hfirst, hrest⟩ := List.forall_mem_cons.1 hcan
    obtain ⟨middle, hsend, hmiddle⟩ := exists_send h hfirst
    obtain ⟨sent, hall, hworks⟩ := ih hmiddle hrest
    exact ⟨sent, by simp only [sendAll, hsend, hall], hworks⟩

end FrameMessage

namespace WireSession

/-! ## What is received of it -/

/-- The receiving end of what was sent, however its calls are cut and interrupted. -/
structure Receives (sent : Outbound) (inbound : Inbound) : Prop where
  segments : inbound.segments = sent.sent
  refusals : Inbound.afterInterruptions inbound.refusals = []
  identified : inbound.identified = false

theorem Receives.reliable {sent : Outbound} {inbound : Inbound} (h : Receives sent inbound)
    (hsteady : sent.Steady) : inbound.Reliable :=
  ⟨⟨h.segments ▸ hsteady.ne_nil⟩, h.segments ▸ hsteady.room, h.refusals, h.identified⟩

theorem Receives.cells_eq {sent : Outbound} {inbound : Inbound} (h : Receives sent inbound) :
    inbound.cells = sent.cells := by
  rw [Inbound.cells, h.segments, Outbound.cells]

/-- **A session is received as it was sent.** The parameters of a device fit in a message, the
socket works, and the channel accepts the frame messages; how the system cuts the sends, and how it
cuts the receives, does not matter. -/
theorem exists_received {params : DeviceParams} {device : Descriptor} (h : outbound.Working)
    (hnew : outbound.sent = []) (hsize : params.toJson.length ≤ maxParamsSize) :
    ∃ opened, params.send device outbound = (.ok (), opened) ∧
      ∀ messages sent, FrameMessage.sendAll messages opened = (.ok (), sent) →
        ∀ inbound, Receives sent inbound →
          ∃ middle last, DeviceParams.receive inbound = (.ok (params, device), middle) ∧
            FrameMessage.receiveAll messages.length middle =
              (messages.map fun message => .ok (FrameMessage.delivered message.1 message.2),
                last) ∧
            last.segments = [] := by
  obtain ⟨opened, hopened, -⟩ := DeviceParams.exists_send h hsize device
  refine ⟨opened, hopened, ?_⟩
  intro messages sent hsent inbound hreceives
  obtain ⟨hfront, -⟩ := DeviceParams.adds_send h.toSteady hopened
  obtain ⟨hframes, hcan⟩ := FrameMessage.adds_sendAll hfront.steady hsent
  have hreliable := hreceives.reliable hframes.steady
  have hcells : inbound.cells = params.cells device ++ FrameMessage.cellsOf messages := by
    rw [hreceives.cells_eq, hframes.cells_eq, hfront.cells_eq, Outbound.cells, hnew,
      List.flatMap_nil, List.nil_append]
  obtain ⟨middle, hparams, hpasses⟩ := DeviceParams.exists_receive_cells hreliable hsize hcells
  have hmiddle : middle.cells = FrameMessage.cellsOf messages ++ [] := by
    rw [hpasses.cells_eq] at hcells
    rw [List.append_nil]
    exact List.append_cancel_left hcells
  obtain ⟨last, hall, hlast⟩ :=
    FrameMessage.exists_receiveAll_cells (hpasses.reliable hreliable) hcan hmiddle
  have hleft : last.cells = [] := by
    rw [hlast.cells_eq] at hmiddle
    exact List.append_cancel_left hmiddle
  exact ⟨middle, last, hparams, hall, hlast.filled.cells_eq_nil.1 hleft⟩

/-- A session that has it all: a name with quotes and control characters, pictures, messages that
say that there is none. -/
def sampleParams : DeviceParams :=
  ⟨"card \"0\"\\\n\x01é", 64, 32, ⟨842094158⟩, 1, 60⟩

def sampleMessages : List (Int64 × Option Frame) :=
  let format : FrameFormat := ⟨64, 32, ⟨842094158⟩, 0⟩
  [(5, some ⟨format, .shared [⟨0, 64, 0, 0⟩, ⟨1, 64, 2048, 0⟩] [⟨⟨#[7]⟩⟩, ⟨⟨#[8]⟩⟩], 0⟩),
    (-3, some ⟨format, .memory ⟨#[1]⟩, 0⟩), (7, none),
    (9, some ⟨format, .shared [⟨0, 64, 0, 0⟩] [⟨⟨#[9]⟩⟩], 0⟩)]

def sampleOutbound : Outbound where
  messages := [.refused Errno.interrupted, .takes 3, .takes 40]
  writes := [.takes 10, .refused Errno.interrupted, .takes 4]

theorem working_sampleOutbound : sampleOutbound.Working :=
  ⟨⟨by simp [sampleOutbound], by simp [sampleOutbound], by decide⟩, rfl,
    by simp [sampleOutbound, SendAnswer.Goes], by simp [sampleOutbound, SendAnswer.Goes]⟩

theorem length_toJson_sampleParams : sampleParams.toJson.length ≤ maxParamsSize := by
  decide +kernel

theorem exists_received_sample : ∃ opened sent middle last,
    sampleParams.send ⟨⟨#[1]⟩⟩ sampleOutbound = (.ok (), opened) ∧
      FrameMessage.sendAll sampleMessages opened = (.ok (), sent) ∧
      DeviceParams.receive ⟨sent.sent, .reset, [1, 2, 30, 1, 5, 7], [Errno.interrupted], false⟩ =
        (.ok (sampleParams, ⟨⟨#[1]⟩⟩), middle) ∧
      FrameMessage.receiveAll 4 middle =
        (sampleMessages.map fun message => .ok (FrameMessage.delivered message.1 message.2),
          last) ∧
      last.segments = [] := by
  have hcan : ∀ message ∈ sampleMessages, FrameMessage.CanSend message.1 message.2 := by
    simp only [sampleMessages, List.forall_mem_cons]
    refine ⟨Or.inr ?_, Or.inl (by decide), Or.inr (by simp), Or.inr ?_, by simp⟩
    all_goals
      rintro frame ⟨⟩
      exact ⟨rfl, List.cons_ne_nil _ _, by decide, by decide, by decide⟩
  obtain ⟨opened, hopened, hall⟩ := exists_received working_sampleOutbound rfl length_toJson_sampleParams
  obtain ⟨opened', hopened', hopens⟩ :=
    DeviceParams.exists_send working_sampleOutbound length_toJson_sampleParams ⟨⟨#[1]⟩⟩
  obtain rfl := (Prod.mk.inj (hopened.symm.trans hopened')).2
  obtain ⟨sent, hsent, -⟩ := FrameMessage.exists_sendAll hopens hcan
  obtain ⟨middle, last, hparams, hframes, hleft⟩ := hall sampleMessages sent hsent
    ⟨sent.sent, .reset, [1, 2, 30, 1, 5, 7], [Errno.interrupted], false⟩ ⟨rfl, rfl, rfl⟩
  exact ⟨opened, sent, middle, last, hopened, hsent, hparams, hframes, hleft⟩

end WireSession

end InstantReplay
