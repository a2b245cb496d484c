import InstantReplay.Act
import InstantReplay.Sockets.Host
import InstantReplay.Text.Quoted

/-!
# Save requests over a socket

Each connection to the trigger's socket asks for one save; nothing is read or written. A socket
file that nobody listens on is replaced.
-/

namespace InstantReplay

/-- A span of time as it is shown: milliseconds below a second, else seconds. -/
def millisecondsText (count : Nat) : String :=
  if count < 1000 then s!"{count}ms"
  else
    let seconds := count / 1000
    let digits := (toString (1000 + count % 1000)).toList.drop 1
    let fraction := String.ofList (digits.reverse.dropWhile (· = '0')).reverse
    if fraction.isEmpty then s!"{seconds}s" else s!"{seconds}.{fraction}s"

/-- An action on the files of a host. -/
def SocketHost.onFiles {α : Type} (action : Act FileTree α) : Act SocketHost α :=
  action.within (·.files) fun files host => { host with files := files }

/-- A listener for save requests. -/
structure SocketTrigger where
  path : String
  /-- The number of its socket. -/
  socket : Nat
  deriving DecidableEq

namespace SocketTrigger

/-- An operation on the host whose error is the failure. -/
def perform {α : Type} (f : SocketHost → Except IoError α × SocketHost)
    (failure : IoError → Failure := .io) : Act SocketHost α := do
  match ← Act.step f with
  | .ok value => return value
  | .error error => throw (failure error)

/-- Clears the way for a socket at a path: a file that nobody listens on is removed. -/
def clear (path : String) : Act SocketHost Unit := do
  if (← Act.state).files.holds path then
    if (← Act.step (·.connect path)).toOption.isSome then
      throw (.trigger ("Another recorder is listening on " ++ quoted path))
    Act.note (.debug ("Removing stale trigger socket " ++ quoted path))
    perform (·.removeFile path)

/-- Starts to listen at a path. -/
def bind (path : String) : Act SocketHost SocketTrigger := do
  clear path
  if let some parent := Path.parent? path then perform (·.makeAll parent)
  let number ← perform (·.bind path) fun error =>
    .trigger ("Failed to bind trigger socket " ++ quoted path ++ ": " ++ error.text)
  Act.note (.info ("Save trigger listening on " ++ quoted path))
  return ⟨path, number⟩

/-- Asks whoever listens at a path for a save. -/
def request (path : String) : Act SocketHost Unit := do
  let _ ← perform (·.connect path) fun error =>
    .trigger ("No recorder is listening on " ++ quoted path ++ ": " ++ error.text)

/-- The first pause after a failed attempt to accept, in milliseconds. -/
def firstPause : Nat := 50

/-- The longest pause after a failed attempt to accept, in milliseconds. -/
def longestPause : Nat := 2000

/-- The pause after the next failure. -/
def nextPause (pause : Nat) : Nat := min (pause * 2) longestPause

/-- Tries to accept a request until the time is over. -/
def waitRounds (trigger : SocketTrigger) : Nat → Nat → Nat → Act SocketHost Bool
  | 0, _, _ => return false
  | rounds + 1, pause, budget => do
    if !((← Act.state).socket? trigger.socket).any (·.announced) then return false
    match ← Act.step (·.accept trigger.socket) with
    | .ok () =>
      Act.note (.debug "Save requested over the trigger socket")
      return true
    | .error error =>
      if error.kind = .wouldBlock then
        Act.change fun host =>
          host.update trigger.socket fun socket => { socket with announced := false }
        return false
      let reason := error.text
      let delay := millisecondsText pause
      Act.note (.warn s!"Trigger socket accept failed: {reason}; retrying in {delay}")
      if budget ≤ pause then return false
      waitRounds trigger rounds (nextPause pause) (budget - pause)

/-- Waits up to `budget` milliseconds for a request, and says whether one came. -/
def wait (trigger : SocketTrigger) (budget : Nat) : Act SocketHost Bool := do
  waitRounds trigger ((← Act.state).acceptRefusals.length + 1) firstPause budget

/-- Stops listening and removes the socket's file. -/
def close (trigger : SocketTrigger) : Act SocketHost Unit := do
  match ← Act.step (·.removeFile trigger.path) with
  | .ok () => pure ()
  | .error error =>
    if error.kind ≠ .notFound then
      Act.note (.warn ("Failed to remove trigger socket " ++ quoted trigger.path ++ ": " ++
        error.text))
  Act.change (·.close trigger.socket)

end SocketTrigger

end InstantReplay
