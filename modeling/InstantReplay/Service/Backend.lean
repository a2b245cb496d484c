import InstantReplay.Act
import InstantReplay.Card.Session
import InstantReplay.Card.Tables

/-!
# Capture backends

The service opens devices and captures frames through a backend, a machine with states of its own.
One captures planes of graphics cards, another follows a script.
-/

namespace InstantReplay

/-- A machine with states in `β` that opens sessions in `ς` on devices. Where an action gives
nothing, it broke down. -/
structure CaptureMachine (β ς : Type) where
  openSession : String → Int32 → Act β (Option ς)
  params : ς → DeviceParams
  /-- The open device. -/
  device : ς → Descriptor
  capture : ς → Act β (Option (Option Frame))
  /-- Whether the service is to go on. -/
  isRunning : β → Bool

/-- Graphics cards, and whether the service that captures them is to go on. -/
structure CardRoom where
  world : CardWorld
  isRunning : Bool := true

namespace PlaneBackend

/-- An action on the cards. -/
def onCards {α : Type} (action : Act CardWorld α) : Act CardRoom α :=
  action.within (·.world) fun world room => { room with world := world }

/-- The backend as a machine. -/
def machine (backend : PlaneBackend) : CaptureMachine CardRoom PlaneSession where
  openSession device framerate := do
    return some (← onCards (backend.openSession CardWorld.driver device framerate))
  params session := session.params
  device _ := ⟨.empty⟩
  capture session := do return some (← onCards (session.capture CardWorld.driver))
  isRunning room := room.isRunning

end PlaneBackend

/-- What a scripted session gives when it is asked for a frame. -/
inductive ScriptedCapture
  | frame (frame : Frame)
  | nothing
  | failed (text : String)
  | broke

/-- A device of a script: its parameters, with the rate that was asked for if it has none of its
own; or it breaks down when it is opened. -/
inductive ScriptedDevice
  | params (params : DeviceParams) (framerate : Option Int32)
  | broke

/-- A backend that follows a script. -/
structure ScriptedBackend where
  devices : List (String × ScriptedDevice)
  /-- The captures of the coming sessions. The service stops after the last of a session. -/
  scripts : List (List ScriptedCapture)
  /-- The captures left in the current session. -/
  current : List ScriptedCapture := []
  /-- The devices that were asked for. -/
  opened : List (String × Int32) := []
  isRunning : Bool := true

namespace ScriptedBackend

/-- Opens a session. -/
def openSession (device : String) (framerate : Int32) :
    Act ScriptedBackend (Option DeviceParams) := do
  Act.change fun backend =>
    { backend with
      opened := backend.opened ++ [(device, framerate)]
      current := backend.scripts.headD []
      scripts := backend.scripts.tail }
  match (← Act.state).devices.lookup device with
  | none => throw (.capture ("no such device: " ++ device))
  | some .broke => return none
  | some (.params params own) => return some { params with framerate := own.getD framerate }

/-- Follows the script of the current session. -/
def capture : Act ScriptedBackend (Option (Option Frame)) := do
  let backend ← Act.state
  let rest := backend.current.tail
  Act.change fun backend =>
    { backend with current := rest, isRunning := backend.isRunning && !rest.isEmpty }
  match backend.current with
  | [] | .nothing :: _ => return some none
  | .frame frame :: _ => return some (some frame)
  | .failed text :: _ => throw (.capture text)
  | .broke :: _ => return none

/-- The backend as a machine. -/
def machine : CaptureMachine ScriptedBackend DeviceParams where
  openSession := openSession
  params session := session
  device _ := ⟨"device".toUTF8⟩
  capture _ := capture
  isRunning backend := backend.isRunning

end ScriptedBackend

end InstantReplay
