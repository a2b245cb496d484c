import InstantReplay.Act
import InstantReplay.Text.Quoted
import InstantReplay.Wire.DeviceParams
import InstantReplay.Wire.FrameRecord

/-!
# Clients of the capture service

A client connects to the service, says which device it wants, and then receives frames.
`ServiceCapture` is a capture device made of such sessions: one that fails is given up, and the
next frame is asked of a new one.
-/

namespace InstantReplay

/-- All that a client receives over a connection. -/
structure CaptureReply where
  params : Except Failure DeviceParams
  frames : List (Except Failure (Option Frame))
  /-- The number of bytes that are left unread. -/
  unread : Nat

/-- Reads the device's parameters, and then frames up to the first failure, at most `count`. -/
def CaptureReply.read (count : Nat) (inbound : Inbound) : CaptureReply :=
  match DeviceParams.receive inbound with
  | (.error failure, rest) => ⟨.error failure, [], rest.unread.length⟩
  | (.ok (params, _), rest) =>
    let (frames, rest) := FrameMessage.receiveAll count rest
    ⟨.ok params, frames, rest.unread.length⟩

/-- What connecting to the service comes to. -/
structure ServiceDoor where
  /-- What the coming connections bring; without one there is no service. -/
  coming : List (Except IoError Inbound) := []
  /-- The connections made so far. -/
  opened : List Inbound := []
  /-- What the service got over each of them. -/
  requests : List (Except Failure CaptureRequest) := []
  /-- Answers to the coming writes. -/
  writes : List SendAnswer := []
  /-- Errors of the coming calls that ask for descriptors. -/
  refusals : List Errno := []
  /-- Whether each coming request to limit the time of reads is refused. -/
  limitRefusals : List (Option Errno) := []

namespace ServiceDoor

/-- Connects, and gives the number of the connection. -/
def connect (door : ServiceDoor) : Except IoError Nat × ServiceDoor :=
  match door.coming with
  | [] => (.error (.os Errno.noEntry), door)
  | .error error :: rest => (.error error, { door with coming := rest })
  | .ok inbound :: rest =>
    (.ok door.opened.length, { door with coming := rest, opened := door.opened ++ [inbound] })

/-- Writes to the service. -/
def write (bytes : List UInt8) (door : ServiceDoor) : Except IoError Unit × ServiceDoor :=
  let (result, outbound) := Outbound.writeAll { writes := door.writes } bytes
  let request := (CaptureRequest.receive outbound.toInbound).1
  (result, { door with writes := outbound.writes, requests := door.requests ++ [request] })

/-- Receives over a connection. -/
def receive {α : Type} (number : Nat) (f : Inbound → Except Failure α × Inbound)
    (door : ServiceDoor) : Except Failure α × ServiceDoor :=
  match door.opened[number]? with
  | none => (.error (.io (.os Errno.invalidArgument)), door)
  | some inbound =>
    let (result, rest) := f { inbound with refusals := door.refusals }
    (result, { door with
      opened := door.opened.set number { rest with refusals := [] }
      refusals := rest.refusals })

/-- Asks for a limit of the time of reads. -/
def limit (door : ServiceDoor) : Option Errno × ServiceDoor :=
  (door.limitRefusals.head?.join, { door with limitRefusals := door.limitRefusals.tail })

end ServiceDoor

/-- An open session with the service. -/
structure CaptureChannel where
  path : String
  params : DeviceParams
  /-- The device, to make sense of the frames. -/
  device : Descriptor
  /-- The number of its connection. -/
  connection : Nat

namespace CaptureChannel

/-- The line noted for a new session. -/
def openedNote (params : DeviceParams) : LogLine :=
  let device := params.device
  let width := params.width.toNat
  let height := params.height.toNat
  let fourcc := "0x" ++ Numeral.hexPadded 8 params.pixels.code.toNat
  let rate := params.framerate.toInt
  .info s!"Capture session open: {device} {width}x{height} fourcc={fourcc} @ {rate} fps"

/-- Opens a session for a device with the service at a path. -/
def connect (path device : String) (framerate : Int32) : Act ServiceDoor CaptureChannel := do
  let request ← Act.ofExcept (CaptureRequest.make device framerate)
  let shown := quoted path
  match ← Act.step ServiceDoor.connect with
  | .error error =>
    let reason := error.text
    throw (.serviceUnavailable s!"Failed to connect to capture service at {shown}: {reason}")
  | .ok connection =>
    Act.note (.debug s!"Connected to capture service at {shown}")
    if let .error error ← Act.step (ServiceDoor.write request.toBytes) then
      throw (.serviceUnavailable ("Capture service closed the connection: " ++ error.text))
    let (params, device) ←
      Act.ofExcept (← Act.step (ServiceDoor.receive connection DeviceParams.receive))
    Act.note (openedNote params)
    return ⟨path, params, device, connection⟩

/-- The next frame, if the service has one. -/
def next (channel : CaptureChannel) : Act ServiceDoor (Option Frame) := do
  Act.ofExcept (← Act.step (ServiceDoor.receive channel.connection FrameMessage.receive))

end CaptureChannel

/-- A capture device made of sessions with the service. -/
structure ServiceCapture where
  path : String
  device : String
  framerate : Int32
  door : ServiceDoor
  channel : Option CaptureChannel := none
  /-- The number of sessions opened. -/
  sessions : Nat := 0

namespace ServiceCapture

/-- An action on the way to the service. -/
def onDoor {α : Type} (action : Act ServiceDoor α) : Act ServiceCapture α :=
  action.within (·.door) fun door capture => { capture with door := door }

/-- The session, opened if there is none. -/
def session : Act ServiceCapture CaptureChannel := do
  let capture ← Act.state
  match capture.channel with
  | some channel => return channel
  | none =>
    let channel ← onDoor (CaptureChannel.connect capture.path capture.device capture.framerate)
    if let some code ← onDoor (Act.step ServiceDoor.limit) then throw (.io (.os code))
    let sessions := capture.sessions + 1
    Act.change fun capture => { capture with channel := some channel, sessions := sessions }
    if 1 < sessions then
      Act.note (.info s!"Reconnected to capture service (session {sessions})")
    return channel

/-- Opens a session if there is none, and gives its parameters. -/
def connect : Act ServiceCapture DeviceParams := do return (← session).params

/-- The next frame, if there is one. A session that fails is given up. -/
def next : Act ServiceCapture (Option Frame) := do
  let channel ← session
  match ← (onDoor channel.next).attempt with
  | .ok frame => return frame
  | .error failure =>
    Act.note (.warn ("Capture session ended: " ++ failure.message))
    Act.change fun capture => { capture with channel := none }
    throw failure

end ServiceCapture

end InstantReplay
