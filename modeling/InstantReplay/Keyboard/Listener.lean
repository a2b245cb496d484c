import InstantReplay.Act
import InstantReplay.Keyboard.Hotkey

/-!
# Listening for a hotkey

A listener follows the keys of all keyboards together. Each press of the hotkey's key while the
other keys are down asks for a save; up to four requests wait to be taken.
-/

namespace InstantReplay

/-- An event of an input device. -/
structure KeyEvent where
  type : Nat
  code : KeyCode
  value : Int
  deriving DecidableEq

/-- What an input device has besides keys. -/
structure Extras where
  axes : Bool := false
  switches : Bool := false
  lights : Bool := false
  deriving DecidableEq

namespace KeyEvent

/-- Whether the event is about a key. -/
def isKey (event : KeyEvent) : Bool := event.type = 1

/-- Whether the event says that a key went down. -/
def isPress (event : KeyEvent) : Bool := event.isKey && event.value = 1

/-- Whether the event says that a key was let go. -/
def isRelease (event : KeyEvent) : Bool := event.isKey && event.value = 0

/-- The number of keys there can be. -/
def keyCount : Nat := 768

/-- Whether a device with `extras` never has such an event: it is about an axis, a switch or a light
that the device does not have, or a key that does not exist. -/
def isForeign (extras : Extras) (event : KeyEvent) : Bool :=
  match event.type with
  | 1 => keyCount ≤ event.code
  | 3 => !extras.axes
  | 5 => !extras.switches
  | 17 => !extras.lights
  | _ => false

end KeyEvent

/-- A keyboard that is followed: its node, and what it has besides keys. -/
structure Keyboard where
  node : String
  extras : Extras := {}
  deriving DecidableEq

/-- Whether a listener listens, and if not, why. -/
inductive ListenerState
  | listening
  | stopped
  /-- It failed, and nobody has noticed yet. -/
  | failed
  deriving DecidableEq

/-- A listener for a hotkey. -/
structure HotkeyListener where
  hotkey : Hotkey
  /-- The keyboards it follows. -/
  keyboards : List Keyboard
  down : List KeyCode := []
  /-- The requests that wait to be taken. -/
  pending : Nat := 0
  state : ListenerState := .listening

namespace HotkeyListener

/-- How many requests can wait. -/
def queueLimit : Nat := 4

/-- The keys that are down after an event. -/
def downAfter (down : List KeyCode) (event : KeyEvent) : List KeyCode :=
  if event.isPress then if down.contains event.code then down else event.code :: down
  else if event.isRelease then down.filter (· ≠ event.code)
  else down

/-- Whether an event fires the hotkey, when `down` are down with it. -/
def firesAt (hotkey : Hotkey) (down : List KeyCode) (event : KeyEvent) : Bool :=
  event.isPress && event.code = hotkey.key && hotkey.fires down

/-- The listener after an event, and whether the hotkey fired. -/
def step (listener : HotkeyListener) (event : KeyEvent) : Bool × HotkeyListener :=
  let down := downAfter listener.down event
  if firesAt listener.hotkey down event then
    (true, { listener with down := down, pending := min queueLimit (listener.pending + 1) })
  else (false, { listener with down := down })

/-- The keyboard at a node, if the listener follows it. -/
def keyboard? (listener : HotkeyListener) (node : String) : Option Keyboard :=
  listener.keyboards.find? (·.node = node)

/-- Handles events that a node reported together, if it is that of a keyboard that is followed.
Those that are not about keys are passed over. If there is one that the keyboard never has, the
library that reads the events gives up before it hands over any, and the listener fails. -/
def feed (node : String) (events : List KeyEvent) : Act HotkeyListener Unit := do
  let listener ← Act.state
  if listener.state = .listening then
    if let some keyboard := listener.keyboard? node then
      if events.any (·.isForeign keyboard.extras) then
        Act.change fun listener => { listener with state := .failed, down := [] }
      else
        for event in events do
          if ← Act.step (·.step event) then Act.note (.info "Save hotkey pressed")

/-- Takes a request: nothing if there is none yet. -/
def take (listener : HotkeyListener) : Option (Except Failure Unit) × HotkeyListener :=
  if 0 < listener.pending then
    (some (.ok ()), { listener with pending := listener.pending - 1 })
  else if listener.state = .listening then (none, listener)
  else (some (.error (.trigger "Hotkey listener stopped")), listener)

/-- Ends the listening. Requests that wait can still be taken. -/
def stop : Act HotkeyListener Unit := do
  if (← Act.state).state = .failed then Act.note (.error "Hotkey listener panicked")
  Act.change fun listener => { listener with state := .stopped }

end HotkeyListener

end InstantReplay
