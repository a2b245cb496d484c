import InstantReplay.Service.Session
import InstantReplay.Sockets.Host

/-!
# The capture service

The service listens on a socket and serves one client after another. A session that fails, and
even one that breaks down, ends only itself.
-/

namespace InstantReplay

/-- How the service is set up. -/
structure ServiceOptions where
  path : String := "/run/rewind/capture.sock"
  /-- The mode of the socket's file. -/
  mode : Nat := 0o666
  /-- The users that may connect; everyone if there are none. -/
  allowed : List Nat := []
  /-- The time a client has to send its request, in milliseconds. -/
  handshake : Nat := 5000

/-- A client that waits for the service. -/
structure Caller where
  number : Nat
  user : Nat
  inbound : Inbound
  /-- The number of messages after which it is gone, if it ever is. -/
  patience : Option Nat := none

/-- What the system answers to the coming requests of a service where it does not just do as it is
asked. -/
structure ServiceAnswers where
  /-- Refusals to accept a client. -/
  accept : List Errno := []
  /-- Refusals to listen. -/
  listen : List Errno := []
  /-- Refusals to say who a client is. -/
  user : List Errno := []
  /-- Refusals of a thread. -/
  thread : List Errno := []
  /-- Answers to calls that pass descriptors. -/
  messages : List SendAnswer := []
  /-- Answers to plain writes. -/
  writes : List SendAnswer := []

/-- Answers, and then others. -/
def ServiceAnswers.append (first later : ServiceAnswers) : ServiceAnswers where
  accept := first.accept ++ later.accept
  listen := first.listen ++ later.listen
  user := first.user ++ later.user
  thread := first.thread ++ later.thread
  messages := first.messages ++ later.messages
  writes := first.writes ++ later.writes

instance : Append ServiceAnswers := ⟨ServiceAnswers.append⟩

/-- What the service has to do with outside its backend. -/
structure ServicePort where
  host : SocketHost
  /-- The clients that wait, in the order of their coming. -/
  waiting : List Caller := []
  /-- What clients received, by their numbers. -/
  replies : List (Nat × Inbound) := []
  answers : ServiceAnswers := {}
  /-- What the clock says, message by message, in microseconds. -/
  times : List Int64 := []

/-- A service over a backend with states in `β`. -/
structure CaptureService (β : Type) where
  options : ServiceOptions
  port : ServicePort
  backend : β
  /-- The number of sessions begun. -/
  sessions : Nat := 0

namespace ServicePort

/-- A client comes and sends segments. -/
def arrive (port : ServicePort) (number user : Nat) (segments : List Segment)
    (ending : StreamEnd) (patience : Option Nat) : ServicePort :=
  let outbound := segments.foldl
    (fun outbound segment => (outbound.send segment.bytes segment.descriptors).2)
    { messages := port.answers.messages, writes := port.answers.writes : Outbound }
  { port with
    answers := { port.answers with messages := outbound.messages, writes := outbound.writes }
    waiting := port.waiting ++
      [⟨number, user, { outbound.toInbound with ending := ending }, patience⟩] }

/-- A client leaves with what it received. -/
def depart (port : ServicePort) (number : Nat) (reply : Inbound) : ServicePort :=
  { port with replies := port.replies ++ [(number, reply)] }

/-- What a client received. -/
def reply? (port : ServicePort) (number : Nat) : Option Inbound := port.replies.lookup number

/-- Makes the directory of a socket, if it is missing. -/
def makeParent (path : String) (host : SocketHost) : Except IoError Unit × SocketHost :=
  match Path.parent? path with
  | none => (.ok (), host)
  | some parent =>
    if parent.isEmpty || host.files.holds parent then (.ok (), host) else host.makeAll parent

/-- Starts to listen at a path, in place of whatever file is there. -/
def listen (path : String) (port : ServicePort) : Except IoError Nat × ServicePort :=
  let (cleared, host) :=
    if port.host.files.holds path then port.host.removeFile path else (.ok (), port.host)
  match cleared with
  | .error error => (.error error, { port with host := host })
  | .ok () =>
    match makeParent path host with
    | (.error error, host) => (.error error, { port with host := host })
    | (.ok (), host) =>
      match host.bind path with
      | (.error error, host) => (.error error, { port with host := host })
      | (.ok number, host) =>
        match port.answers.listen with
        | code :: rest =>
          (.error (.os code),
            { port with host := host, answers := { port.answers with listen := rest } })
        | [] => (.ok number, { port with host := host })

end ServicePort

namespace CaptureService

variable {β ς : Type}

/-- Binds the service's socket. -/
def bind (options : ServiceOptions) (backend : β) : Act ServicePort (CaptureService β) := do
  let path := quoted options.path
  if let .error error ← Act.step (ServicePort.listen options.path) then
    throw (.during s!"Failed to bind socket at {path}" (.io error))
  if let .error error := (← Act.state).host.files.find options.path then
    let fault := "Failed to set socket permissions: " ++ error.text
    Act.note (.warn fault)
    throw (.config fault)
  Act.note (.info s!"Capture service listening on {path}")
  return ⟨options, ← Act.state, backend, 0⟩

/-- Accepts a client that waits, unless the system refuses. Interruptions are passed over. -/
def acceptCaller : Act (CaptureService β) (Option Caller) := do
  let port := (← Act.state).port
  let put (port : ServicePort) : Act (CaptureService β) Unit :=
    Act.change fun service => { service with port := port }
  match Inbound.afterInterruptions port.answers.accept with
  | code :: rest =>
    put { port with answers := { port.answers with accept := rest } }
    if code.kind ≠ .wouldBlock then
      Act.note (.error ("Failed to accept connection: " ++ (IoError.os code).text))
    return none
  | [] =>
    put { port with
      answers := { port.answers with accept := [] }
      waiting := port.waiting.tail }
    return port.waiting.head?

/-- An action on the files. -/
def onFiles {α : Type} (action : Act FileTree α) : Act (CaptureService β) α :=
  action.within (·.port.host.files) fun files service =>
    { service with port := { service.port with
        host := { service.port.host with files := files } } }

/-- Changes the answers that are due. -/
def answering (f : ServiceAnswers → ServiceAnswers) (service : CaptureService β) :
    CaptureService β :=
  { service with port := { service.port with answers := f service.port.answers } }

/-- Whether a client may be served. -/
def admits (caller : Caller) : Act (CaptureService β) Bool := do
  let service ← Act.state
  if service.options.allowed.isEmpty then return true
  match service.port.answers.user with
  | code :: rest =>
    Act.change (answering fun answers => { answers with user := rest })
    Act.note (.warn ("Failed to read peer credentials: " ++ (IoError.os code).text))
    return false
  | [] =>
    if caller.user ∈ service.options.allowed then return true
    let user := caller.user
    Act.note (.warn s!"Rejecting capture client with uid {user}")
    return false

/-- Whether a failure means that the client has gone. -/
def isClientGone (failure : Failure) : Bool :=
  match failure.root with
  | .io error => error.kind = .brokenPipe || error.kind = .connectionReset
  | _ => false

/-- The line noted when a session has ended. -/
def sessionNote (session : Nat) : Except Failure Bool → LogLine
  | .ok true => .debug s!"Session {session} ended"
  | .ok false => .error s!"Session {session} handler panicked"
  | .error failure =>
    let reason := failure.message
    if isClientGone failure then .info s!"Session {session}: client disconnected"
    else .warn s!"Session {session} failed: {reason}"

/-- Closes the connection of a client, with what it received. -/
def depart (number : Nat) (reply : Inbound) : Act (CaptureService β) Unit :=
  Act.change fun service => { service with port := service.port.depart number reply }

/-- A visit of a client. -/
def visit (service : CaptureService β) (caller : Caller) : Visit β where
  backend := service.backend
  inbound := caller.inbound
  outbound := {
    messages := service.port.answers.messages
    writes := service.port.answers.writes }
  patience := caller.patience
  times := service.port.times

/-- Serves a client in a session of its own. -/
def serve (machine : CaptureMachine β ς) (rounds : Nat) (caller : Caller) :
    Act (CaptureService β) Unit := do
  Act.change fun service => { service with sessions := service.sessions + 1 }
  let service ← Act.state
  match service.port.answers.thread with
  | code :: rest =>
    Act.change (answering fun answers => { answers with thread := rest })
    depart caller.number (service.visit caller).reply
    throw (.io (.os code))
  | [] =>
    let (outcome, visit, lines) := (Visit.serve machine rounds).runOn (service.visit caller)
    lines.forM Act.note
    Act.note (sessionNote service.sessions outcome)
    Act.change fun service =>
      { service with backend := visit.backend, port := { service.port with times := visit.times } }
    Act.change (answering fun answers =>
      { answers with messages := visit.outbound.messages, writes := visit.outbound.writes })
    depart caller.number visit.reply

/-- Accepts and serves at most one client, with at most `rounds` captures. Says whether there was
one to serve. -/
def acceptOne (machine : CaptureMachine β ς) (rounds : Nat) : Act (CaptureService β) Bool := do
  match ← acceptCaller with
  | none => return false
  | some caller =>
    if ← admits caller then
      serve machine rounds caller
      return true
    depart caller.number ((← Act.state).visit caller).reply
    return false

/-- Serves clients until the service is to stop, `turns` of them at most. -/
def runTurns (machine : CaptureMachine β ς) (rounds : Nat) : Nat → Act (CaptureService β) Unit
  | 0 => return
  | turns + 1 => do
    if machine.isRunning (← Act.state).backend then
      let _ ← acceptOne machine rounds
      runTurns machine rounds turns

/-- Serves clients until the service is to stop, `turns` of them at most. -/
def run (machine : CaptureMachine β ς) (rounds turns : Nat) : Act (CaptureService β) Unit := do
  runTurns machine rounds turns
  let sessions := (← Act.state).sessions
  Act.note (.info s!"Capture service stopped after {sessions} sessions")

/-- Ends the service and removes its socket's file. -/
def close : Act (CaptureService β) Unit := do
  let service ← Act.state
  if service.port.host.files.holds service.options.path then
    let (result, host) := service.port.host.removeFile service.options.path
    Act.change fun service => { service with port := { service.port with host := host } }
    if let .error error := result then
      Act.note (.warn ("Failed to remove socket file: " ++ error.text))

end CaptureService

end InstantReplay
