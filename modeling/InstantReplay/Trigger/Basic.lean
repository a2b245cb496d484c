import InstantReplay.Config.Recording
import InstantReplay.Keyboard.Nodes
import InstantReplay.Text.Utf8
import InstantReplay.Trigger.Socket

/-!
# Triggers

A trigger waits for requests to save: connections to a socket, presses of a hotkey, a signal, or
lines on the standard input.
-/

namespace InstantReplay

/-- What the triggers of a process see. -/
structure TriggerWorld where
  sockets : SocketHost
  inputs : InputWorld := {}
  /-- Refusals of the next requests to be told of the signal. -/
  signalRefusals : List Errno := []
  /-- Whether the signal came since it was last noticed. -/
  signalled : Bool := false
  /-- The bytes of the standard input that are still to come. -/
  input : List UInt8 := []
  /-- The number of the process, as it is shown. -/
  process : String

/-- Something that asks for saves. -/
inductive Trigger
  | socket (listener : SocketTrigger)
  | hotkey (listener : HotkeyListener)
  | signal
  /-- Lines on the standard input, as long as it is open. -/
  | lines (isOpen : Bool)

namespace TriggerWorld

/-- An action on the sockets. -/
def onSockets {α : Type} (action : Act SocketHost α) : Act TriggerWorld α :=
  action.within (·.sockets) fun sockets world => { world with sockets := sockets }

/-- An action on the input devices. -/
def onInputs {α : Type} (action : Act InputWorld α) : Act TriggerWorld α :=
  action.within (·.inputs) fun inputs world => { world with inputs := inputs }

/-- The bytes up to the end of the first line, and those after it. -/
def splitLine : List UInt8 → List UInt8 × List UInt8
  | [] => ([], [])
  | byte :: rest =>
    if byte = 10 then ([byte], rest)
    else
      let (line, left) := splitLine rest
      (byte :: line, left)

/-- Reads a line of the standard input, unless it has ended. -/
def readLine : Act TriggerWorld (Option String) := do
  let (line, rest) := splitLine (← Act.state).input
  Act.change fun world => { world with input := rest }
  if line.isEmpty then return none
  match Utf8Fault.find? 0 0 line with
  | some fault => throw (.io (.custom .invalidData fault.text))
  | none => return some ((String.fromUTF8? ⟨line.toArray⟩).getD "")

end TriggerWorld

namespace Trigger

open TriggerWorld

/-- The kind of a trigger. -/
def kind : Trigger → TriggerKind
  | .socket _ => .socket
  | .hotkey _ => .hotkey
  | .signal => .signal
  | .lines _ => .debug

/-- Asks to be told of the signal. -/
def followSignal : Act TriggerWorld Unit := do
  let refusal ← Act.step fun world =>
    (world.signalRefusals.head?, { world with signalRefusals := world.signalRefusals.tail })
  if let some code := refusal then
    throw (.trigger ("Failed to install SIGUSR1 handler: " ++ (IoError.os code).text))

/-- Starts to wait for requests as planned. -/
def openAs (plan : TriggerPlan) : Act TriggerWorld Trigger := do
  match plan.kind with
  | .socket => return .socket (← onSockets (SocketTrigger.bind plan.socketPath))
  | .hotkey =>
    let hotkey ← Act.ofExcept (Hotkey.parse plan.hotkey)
    Act.note (.info ("Press " ++ plan.hotkey ++ " to save a replay"))
    return .hotkey (← onInputs (InputWorld.listen hotkey))
  | .signal =>
    followSignal
    Act.note (.info ("Send SIGUSR1 to pid " ++ (← Act.state).process ++ " to save a replay"))
    return .signal
  | .debug =>
    Act.note (.info "Press Enter to save a replay")
    return .lines true

/-- Waits up to `budget` milliseconds for a request: the trigger after that, and whether one
came. -/
def wait (trigger : Trigger) (budget : Nat) : Act TriggerWorld (Bool × Trigger) := do
  match trigger with
  | .socket listener => return (← onSockets (listener.wait budget), trigger)
  | .hotkey listener =>
    match listener.take with
    | (none, listener) => return (false, .hotkey listener)
    | (some (.ok ()), listener) => return (true, .hotkey listener)
    | (some (.error failure), _) => throw failure
  | .signal =>
    let came := (← Act.state).signalled
    Act.change fun world => { world with signalled := false }
    return (came, trigger)
  | .lines false => return (false, trigger)
  | .lines true =>
    match ← readLine with
    | some line =>
      Act.note (.debug ("Save requested on stdin (" ++ quoted (trimmed line) ++ ")"))
      return (true, trigger)
    | none =>
      Act.note (.warn "stdin closed, debug trigger disabled")
      return (false, .lines false)

/-- Events of an input device, for a trigger that follows it. -/
def feed (trigger : Trigger) (node : String) (events : List KeyEvent) :
    Act TriggerWorld Trigger := do
  match trigger with
  | .hotkey listener =>
    let (_, fed, noted) := (HotkeyListener.feed node events).runOn listener
    noted.forM Act.note
    return .hotkey fed
  | _ => return trigger

/-- Asks for a save in the way that the trigger waits for, a hotkey by events of an input device. -/
def ask (trigger : Trigger) (node : String) (events : List KeyEvent) :
    Act TriggerWorld Trigger := do
  match trigger with
  | .socket listener => onSockets (SocketTrigger.request listener.path)
  | .signal => Act.change fun world => { world with signalled := true }
  | _ => pure ()
  trigger.feed node events

/-- Ends the waiting. What was asked for before can still be noticed by a trigger that follows
keys. -/
def close (trigger : Trigger) : Act TriggerWorld Trigger := do
  match trigger with
  | .socket listener =>
    onSockets listener.close
    return trigger
  | .hotkey listener =>
    let (_, stopped, noted) := HotkeyListener.stop.runOn listener
    noted.forM Act.note
    return .hotkey stopped
  | _ => return trigger

end Trigger

end InstantReplay
