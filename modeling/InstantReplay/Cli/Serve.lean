import InstantReplay.Card.Session
import InstantReplay.Cli.Commands
import InstantReplay.Cli.Host

/-!
# The command that serves frames

The capture service on graphics cards, from the start of the program to the signal that ends it.
-/

namespace InstantReplay.Cli

open Job

/-- The value of digits in base eight, unless it exceeds a word. -/
def octalFrom (value : Nat) : List Char → Except String Nat
  | [] => .ok value
  | c :: rest =>
    if '0' ≤ c ∧ c ≤ '7' then
      let next := value * 8 + (c.toNat - '0'.toNat)
      if next < 4294967296 then octalFrom next rest
      else .error "number too large to fit in target type"
    else .error "invalid digit found in string"

/-- The mode that a text says in octal digits. -/
def modeOf (text : String) : Except String Nat :=
  match text.toList with
  | [] => .error "cannot parse integer from empty string"
  | ['+'] => .error "invalid digit found in string"
  | '+' :: digits => octalFrom 0 digits
  | digits => octalFrom 0 digits

/-- A service on cards. -/
structure CardService where
  backend : PlaneBackend
  service : CaptureService CardRoom

/-- An action on a service, whose lines are logged. -/
def onService {α : Type} (running : CardService) (action : Act (CaptureService CardRoom) α) :
    Job (Except Failure α × CardService) :=
  modifyGet fun host =>
    let (result, service, lines) := action.runOn running.service
    ((result, { running with service := service }), lines.foldl CliHost.log host)

/-- Starts the service. -/
def startService (arguments : ServiceArguments) : Job CardService := do
  installHandlers
  if !(← get).isRoot then
    note (.warn ("Not running as root; reading other clients' framebuffers usually needs " ++
      "CAP_SYS_ADMIN"))
  let mode ← match modeOf arguments.mode with
    | .ok mode => pure mode
    | .error fault => throw ⟨"Invalid socket mode '" ++ arguments.mode ++ "'", [fault]⟩
  let backend ← during "Failed to open the display device"
    (← onCards (PlaneBackend.openOn CardWorld.driver arguments.device))
  let options : ServiceOptions := {
    path := arguments.socket
    mode := mode
    allowed := arguments.allowed.map (·.toNat) }
  let room : CardRoom := { world := (← get).cardWorld }
  return ⟨backend, ← ofExcept (← outcome CliHost.servicePort CliHost.withPort
    (CaptureService.bind options room))⟩

/-- The most frames captured for one client before it has to be gone. -/
def longestVisit : Nat := 100000

/-- Serves a client that comes. -/
def serveArrival (running : CardService) (arrival : Arrival) (number : Nat) : Job CardService := do
  let service := running.service
  let room := service.backend
  let callers := (arrival.caller? number).toList
  let ready : CaptureService CardRoom := { service with
    backend := { room with world := arrival.change room.world }
    port := { service.port with waiting := service.port.waiting ++ callers } }
  let ready := { running with service := ready }
  if callers.isEmpty then return ready
  let (_, running) ← onService ready
    (CaptureService.acceptOne running.backend.machine longestVisit)
  return running

/-- The line logged when a signal ends the service. -/
def ServiceEnd.note? : ServiceEnd → Option LogLine
  | .interrupted => some (.info "Received interrupt, stopping")
  | .terminated => some (.info "Received SIGTERM, stopping")
  | .crashed _ => none

/-- Leaves what became of the service with the host. -/
def leave (running : CardService) : Job Unit := modify (·.withPort running.service.port)

/-- Serves all clients that come, until the end. Gives the signal of which the process dies, if it
does. -/
def captureService (arguments : ServiceArguments) : Job (Option Crash.FatalSignal) := do
  let mut running ← startService arguments
  for (arrival, number) in (← get).arrivals.zipIdx do
    running ← serveArrival running arrival number
  match (← get).ending with
  | .crashed signal =>
    leave running
    return some signal
  | ending =>
    if let some line := ending.note? then note line
    let stopped := { running.service with
      backend := { running.service.backend with isRunning := false } }
    let (_, ended) ← onService { running with service := stopped } do
      CaptureService.run running.backend.machine 0 0
      CaptureService.close
    leave ended
    return none

end InstantReplay.Cli
