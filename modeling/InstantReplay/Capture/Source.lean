import InstantReplay.Failure
import InstantReplay.Frame
import InstantReplay.Stream

/-!
# Sources of packets

A source gives packets when it is asked, one at a time. The usual one asks a device for frames and
puts them through an encoder: packets that the encoder has ready come first, and a frame is taken
only when there is none.
-/

namespace InstantReplay

/-- A machine with states in `σ` that gives a value, nothing yet, or fails. -/
structure Tap (α σ : Type) where
  next : σ → Except Failure (Option α) × σ

/-- A capture device with states in `δ`. -/
structure Device (δ : Type) extends Tap Frame δ where
  name : String

/-- An encoder with states in `ε`. -/
structure Encoder (ε : Type) extends Tap Packet ε where
  /-- What it announces about its stream. -/
  format : StreamFormat
  /-- Takes a frame. -/
  send : Frame → ε → Except Failure Unit × ε

/-- A device that feeds an encoder. -/
structure EncodingLine (δ ε : Type) where
  device : Device δ
  encoder : Encoder ε

/-- The state of such a line. -/
structure EncodingState (δ ε : Type) where
  device : δ
  encoder : ε
  /-- The number of frames taken from the device. -/
  frames : Nat := 0

namespace EncodingLine

variable {δ ε : Type}

/-- The next packet: one that is ready, or else one that a further frame makes ready. -/
def next (line : EncodingLine δ ε) (state : EncodingState δ ε) :
    Except Failure (Option Packet) × EncodingState δ ε :=
  match line.encoder.next state.encoder with
  | (.error failure, encoder) => (.error failure, { state with encoder := encoder })
  | (.ok (some packet), encoder) => (.ok (some packet), { state with encoder := encoder })
  | (.ok none, encoder) =>
    match line.device.next state.device with
    | (.error failure, device) =>
      (.error failure, { state with device := device, encoder := encoder })
    | (.ok none, device) => (.ok none, { state with device := device, encoder := encoder })
    | (.ok (some frame), device) =>
      let frames := state.frames + 1
      match line.encoder.send frame encoder with
      | (.error failure, encoder) => (.error failure, ⟨device, encoder, frames⟩)
      | (.ok (), encoder) =>
        let (result, encoder) := line.encoder.next encoder
        (result, ⟨device, encoder, frames⟩)

/-- The line as a source of packets. -/
def source (line : EncodingLine δ ε) : Tap Packet (EncodingState δ ε) := ⟨line.next⟩

end EncodingLine

/-- A tap that gives what a list says, and nothing once the list is used up. -/
def Tap.ofList (α : Type) : Tap α (List (Except Failure (Option α))) where
  next
    | [] => (.ok none, [])
    | result :: rest => (result, rest)

/-- The state of an encoder that puts the packets for each frame into a queue. -/
structure QueueState where
  /-- What the coming frames give: packets, or failures to give one; or the frame is refused. -/
  plan : List (Except Failure (List (Except Failure Packet)))
  queue : List (Except Failure Packet) := []
  /-- The frames that were sent, refused ones too. -/
  sent : List Frame := []

/-- An encoder that puts the packets for each frame into a queue. -/
def Encoder.queued (format : StreamFormat) : Encoder QueueState where
  format := format
  send frame state :=
    let sent := state.sent ++ [frame]
    match state.plan with
    | [] => (.ok (), { state with sent := sent })
    | .ok packets :: plan => (.ok (), ⟨plan, state.queue ++ packets, sent⟩)
    | .error failure :: plan => (.error failure, ⟨plan, state.queue, sent⟩)
  next state :=
    match state.queue with
    | [] => (.ok none, state)
    | .ok packet :: queue => (.ok (some packet), { state with queue := queue })
    | .error failure :: queue => (.error failure, { state with queue := queue })

end InstantReplay
