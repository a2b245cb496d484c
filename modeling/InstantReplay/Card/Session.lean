import InstantReplay.Card.DeviceName
import InstantReplay.Card.Driver
import InstantReplay.Wire.DeviceParams

/-!
# Capture sessions on a card

A session captures one plane of a card. Each capture describes the framebuffer that the plane
shows at that moment, exports its memory objects and releases the handles.
-/

namespace InstantReplay

/-- The highest rate of a session. -/
def maxFramerate : Int32 := 240

/-- A session on one plane of a card. -/
structure PlaneSession where
  card : Card
  plane : UInt32
  params : DeviceParams
  deriving DecidableEq

namespace PlaneSession

variable {κ : Type} (driver : CardDriver κ)

/-- A plane that can be captured, with the number of its pixels. -/
structure Candidate where
  plane : UInt32
  area : Nat
  deriving DecidableEq

/-- Looks at one plane: it can be captured if it shows a framebuffer whose handles can be seen. -/
def inspect (card : Card) (id : UInt32) : Act κ (Option Candidate) := do
  let number := id.toNat
  match ← Act.attempt (card.plane driver id) with
  | .error failure =>
    let reason := failure.message
    Act.note (.debug s!"Skipping plane {number}: {reason}")
    return none
  | .ok state =>
    if state.framebuffer = 0 ∨ state.display = 0 then return none
    else
      match ← Act.attempt (card.framebuffer driver state.framebuffer) with
      | .error failure =>
        let reason := failure.message
        Act.note (.warn s!"Cannot inspect framebuffer of plane {number}: {reason}")
        return none
      | .ok buffer =>
        card.release driver buffer
        return some ⟨id, buffer.width.toNat * buffer.height.toNat⟩

/-- Of two candidates the later one only if it is larger. -/
def better : Option Candidate → Option Candidate → Option Candidate
  | some best, some candidate => if best.area < candidate.area then some candidate else some best
  | none, candidate => candidate
  | best, none => best

/-- The first of the largest planes that can be captured, or `best` if none is larger. -/
def pickFrom (card : Card) (best : Option Candidate) : List UInt32 → Act κ (Option Candidate)
  | [] => return best
  | id :: rest => do
    let candidate ← inspect driver card id
    pickFrom card (better best candidate) rest

/-- The first of the largest planes that can be captured. -/
def pick (card : Card) (planes : List UInt32) : Act κ UInt32 := do
  match ← pickFrom driver card none planes with
  | some best => return best.plane
  | none => throw (.capture "No active plane found")

/-- The rate of a session that was asked for `framerate`. -/
def clampRate (framerate : Int32) : Int32 :=
  if framerate < 1 then 1 else if maxFramerate < framerate then maxFramerate else framerate

/-- The line noted for a new session. -/
def openedNote (params : DeviceParams) : LogLine :=
  let device := params.device
  let width := params.width.toNat
  let height := params.height.toNat
  let pixels := params.pixels.name
  let modifier := "0x" ++ Numeral.hex params.modifier.toNat
  .info s!"KMS session on {device}: {width}x{height} {pixels} modifier={modifier}"

/-- Opens a session on the plane that a name asks for. -/
def openOn (card : Card) (name : DeviceName) (framerate : Int32) : Act κ PlaneSession := do
  let planes ← card.planeIds driver
  let host := name.card
  let plane ← match name.plane with
    | some id =>
      if id ∈ planes then pure id
      else
        let number := id.toNat
        throw (.capture s!"No plane {number} on {host}")
    | none => pick driver card planes
  let state ← card.plane driver plane
  if state.framebuffer = 0 then
    let number := plane.toNat
    throw (.capture s!"Plane {number} on {host} is not scanning out")
  else
    let buffer ← card.framebuffer driver state.framebuffer
    card.release driver buffer
    let params : DeviceParams :=
      { device := DeviceName.text ⟨host, some plane⟩
        width := buffer.width
        height := buffer.height
        pixels := buffer.pixels
        modifier := buffer.modifier
        framerate := clampRate framerate }
    Act.note (openedNote params)
    return ⟨card, plane, params⟩

/-- Captures what the plane shows, if it shows anything. -/
def capture (session : PlaneSession) : Act κ (Option Frame) := do
  let state ← session.card.plane driver session.plane
  if state.framebuffer = 0 then return none
  else
    let buffer ← session.card.framebuffer driver state.framebuffer
    let frame ← Act.attempt (session.card.exportFrame driver buffer)
    session.card.release driver buffer
    return some (← Act.ofExcept frame)

end PlaneSession

/-- Opens sessions for clients. The card it was opened on stays open. -/
structure PlaneBackend where
  card : Card
  /-- The name of that card. -/
  name : String
  deriving DecidableEq

namespace PlaneBackend

variable {κ : Type} (driver : CardDriver κ)

/-- Opens the card of a device. -/
def openOn (device : String) : Act κ PlaneBackend := do
  let name ← Act.ofExcept (DeviceName.parse device)
  let card ← Card.openAt driver name.path
  let shown := quoted card.path
  Act.note (.info s!"KMS backend ready on {shown}")
  return ⟨card, name.card⟩

/-- Opens a session on a device, which may be on another card. -/
def openSession (backend : PlaneBackend) (device : String) (framerate : Int32) :
    Act κ PlaneSession := do
  let name ← Act.ofExcept (DeviceName.parse device)
  let card ← if name.card = backend.name then pure backend.card
    else Card.openAt driver name.path
  PlaneSession.openOn driver card name framerate

end PlaneBackend

/-- Opens a session on a device without a service. -/
def PlaneSession.openDirect {κ : Type} (driver : CardDriver κ) (device : String)
    (framerate : Int32) : Act κ PlaneSession := do
  let backend ← PlaneBackend.openOn driver device
  backend.openSession driver device framerate

end InstantReplay
