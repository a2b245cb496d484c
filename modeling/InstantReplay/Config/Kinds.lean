import InstantReplay.Failure
import InstantReplay.Text.LowerCase

/-!
# Kinds of capture backends and triggers

Where frames come from, and what asks for a replay to be saved.
-/

namespace InstantReplay

/-- Where frames come from. -/
inductive CaptureBackend
  /-- A privileged service, over a socket. -/
  | service
  /-- The graphics card itself. -/
  | card
  deriving DecidableEq

namespace CaptureBackend

/-- The name as it is shown and kept in files. -/
def name : CaptureBackend → String
  | .service => "service"
  | .card => "kms"

/-- All backends. -/
def all : List CaptureBackend := [.service, .card]

/-- The backend that a user's word means, in capital or small letters. -/
def parse (word : String) : Except String CaptureBackend :=
  match lowerCase word with
  | "service" => .ok .service
  | "kms" | "drm" => .ok .card
  | _ => .error s!"Unknown capture backend: {word}. Use: service, kms"

end CaptureBackend

/-- What asks for a replay to be saved. -/
inductive TriggerKind
  /-- A connection to a socket. -/
  | socket
  /-- A combination of keys. -/
  | hotkey
  /-- A signal to the process. -/
  | signal
  /-- A line on the standard input. -/
  | debug
  deriving DecidableEq

namespace TriggerKind

/-- The name as it is shown and kept in files. -/
def name : TriggerKind → String
  | .socket => "socket"
  | .hotkey => "hotkey"
  | .signal => "signal"
  | .debug => "debug"

/-- All triggers. -/
def all : List TriggerKind := [.socket, .hotkey, .signal, .debug]

/-- The trigger that a user's word means, in capital or small letters. -/
def parse (word : String) : Except Failure TriggerKind :=
  match lowerCase word with
  | "socket" => .ok .socket
  | "hotkey" | "key" => .ok .hotkey
  | "signal" | "sigusr1" => .ok .signal
  | "debug" | "stdin" => .ok .debug
  | _ => .error (.config s!"Unknown trigger: {word}. Use socket, hotkey, signal, or debug.")

end TriggerKind

end InstantReplay
