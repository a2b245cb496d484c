import InstantReplay.Service.Backend
import InstantReplay.Wire.FrameRecord
import InstantReplay.Wire.Request

/-!
# Sessions of the capture service

One session with one client: its request is read, the device is opened, and then the client gets
the device's parameters and a message for every capture. A client whose device cannot be opened
gets nothing at all.
-/

namespace InstantReplay

/-- A session on its way, over a backend with states in `β`. -/
structure Visit (β : Type) where
  backend : β
  /-- What the client sends. -/
  inbound : Inbound
  /-- What the client is sent. -/
  outbound : Outbound
  /-- The number of messages after which the client is gone, if it ever is. -/
  patience : Option Nat
  /-- What the clock says, message by message, in microseconds. -/
  times : List Int64 := []

namespace Visit

variable {β ς : Type}

/-- An action on the backend. -/
def onBackend {α : Type} (action : Act β α) : Act (Visit β) α :=
  action.within (·.backend) fun backend visit => { visit with backend := backend }

/-- Reads the client's request. -/
def readRequest : Act (Visit β) CaptureRequest := do
  Act.ofExcept (← Act.step fun visit =>
    let (request, rest) := CaptureRequest.receive visit.inbound
    (request, { visit with inbound := rest }))

/-- Sends a message to the client. -/
def sendBy (f : Outbound → Except Failure Unit × Outbound) : Act (Visit β) Unit := do
  Act.ofExcept (← Act.step fun visit =>
    let gone := if visit.patience = some 0 then some Errno.brokenPipe else none
    let (result, outbound) := f { visit.outbound with gone := gone }
    (result, { visit with outbound := outbound, patience := visit.patience.map (· - 1) }))

/-- Sends a frame, with the time of the clock, or the word that there is none. -/
def sendFrame (frame : Option Frame) : Act (Visit β) Unit := do
  match frame with
  | none => sendBy (FrameMessage.send FrameMessage.noFrame none)
  | some frame =>
    let now ← Act.step fun visit =>
      (visit.times.headD 0, { visit with times := visit.times.tail })
    sendBy (FrameMessage.send now (some frame))

/-- Captures and sends frames until the service is to stop, at most `rounds` of them. Says whether
the backend is still in order. -/
def captureRounds (machine : CaptureMachine β ς) (session : ς) : Nat → Act (Visit β) Bool
  | 0 => return true
  | rounds + 1 => do
    if !machine.isRunning (← Act.state).backend then return true
    match ← (onBackend (machine.capture session)).attempt with
    | .ok none => return false
    | .ok (some frame) => sendFrame frame
    | .error failure =>
      Act.note (.debug ("Capture attempt failed: " ++ failure.message))
      sendFrame none
    captureRounds machine session rounds

/-- The line noted for a request. -/
def requestNote (request : CaptureRequest) : LogLine :=
  let device := request.device
  let rate := request.framerate.toInt
  .info s!"Client requested device '{device}' at {rate} fps"

/-- Serves the client. Says whether the backend is still in order. -/
def serve (machine : CaptureMachine β ς) (rounds : Nat) : Act (Visit β) Bool := do
  let request ← readRequest
  Act.note (requestNote request)
  match ← (onBackend (machine.openSession request.device request.framerate)).attempt with
  | .ok none => return false
  | .error failure =>
    let device := request.device
    let reason := failure.message
    Act.note (.warn s!"Cannot open device '{device}': {reason}")
    return true
  | .ok (some session) =>
    sendBy ((machine.params session).send (machine.device session))
    captureRounds machine session rounds

/-- What the client has received once the service has closed the connection. -/
def reply (visit : Visit β) : Inbound :=
  { visit.outbound.toInbound with
    ending := if visit.inbound.unread.isEmpty then .closed else .reset }

end Visit

end InstantReplay
