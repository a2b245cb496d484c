import InstantReplay.Config.Places
import InstantReplay.Crash
import InstantReplay.Service.Backend
import InstantReplay.Service.Basic
import InstantReplay.Service.Client
import InstantReplay.Signal
import InstantReplay.Trigger.Basic

/-!
# Where a command runs

A command runs on a host: files, graphics cards, input devices, sockets, and a screen that takes
what the command prints and the lines it logs. A command fails with a complaint: what it could not
do, and what that was caused by.
-/

namespace InstantReplay.Cli

/-- How a service that runs is ended. -/
inductive ServiceEnd
  /-- The signal from the keyboard. -/
  | interrupted
  /-- The signal that ends a process. -/
  | terminated
  /-- A signal that its process does not survive. -/
  | crashed (signal : Crash.FatalSignal)
  deriving DecidableEq

/-- A client that comes to a running service, after the cards have changed. -/
structure Arrival where
  change : CardWorld → CardWorld
  device : String
  framerate : Int32
  /-- How many frames it reads before it leaves. -/
  frames : Nat

/-- The client as it waits for the service, unless it cannot even ask for its device. Before the
frames it gets one message with the parameters. -/
def Arrival.caller? (number : Nat) (arrival : Arrival) : Option Caller := do
  let request ← (CaptureRequest.make arrival.device arrival.framerate).toOption
  return {
    number := number
    user := 0
    inbound := { segments := [⟨request.toBytes, []⟩], ending := .silent }
    patience := some (1 + arrival.frames) }

/-- What a client gets from a service: the parameters of its device, and frames up to the first
failure. -/
abbrev Visit := DeviceParams × List (Except Failure (Option Frame))

/-- A host with what happens on it while a command runs. -/
structure CliHost where
  places : UserPlaces
  /-- What triggers see. The files are those of its sockets. -/
  triggers : TriggerWorld
  /-- The cards, whose files are not looked at. -/
  cards : CardWorld
  signals : Crash.SignalWorld := {}
  /-- What the system answers to a service. -/
  answers : ServiceAnswers := {}
  /-- What the clients of a service received. -/
  replies : List (Nat × Inbound) := []
  /-- Whether the user has all rights. -/
  isRoot : Bool := true
  /-- The clients that come to a service. -/
  arrivals : List Arrival := []
  ending : ServiceEnd := .terminated
  /-- The time, as lines of the log start with it. -/
  clock : String
  /-- The number of the thread, as it is shown. -/
  thread : String
  /-- How much is logged. -/
  verbosity : Nat := 0
  /-- What is on the screen. -/
  screen : String := ""

namespace CliHost

/-- The files. -/
def files (host : CliHost) : FileTree := host.triggers.sockets.files

/-- The host with other files. -/
def withFiles (files : FileTree) (host : CliHost) : CliHost :=
  { host with triggers := { host.triggers with
      sockets := { host.triggers.sockets with files := files } } }

/-- The host with other sockets. -/
def withSockets (sockets : SocketHost) (host : CliHost) : CliHost :=
  { host with triggers := { host.triggers with sockets := sockets } }

/-- The cards with the host's files. -/
def cardWorld (host : CliHost) : CardWorld := { host.cards with files := host.files }

/-- What a service has to do with on the host. -/
def servicePort (host : CliHost) : ServicePort where
  host := host.triggers.sockets
  replies := host.replies
  answers := host.answers

/-- The host with what a service has left. -/
def withPort (port : ServicePort) (host : CliHost) : CliHost :=
  { host.withSockets port.host with replies := port.replies, answers := port.answers }

/-- What came of the visit of a client to the service at a path. Without a service it could not
connect. -/
def visit (path : String) (arrival : Arrival) (number : Nat) (host : CliHost) :
    Except Failure Visit :=
  match host.replies.lookup number with
  | some inbound =>
    let reply := CaptureReply.read arrival.frames inbound
    reply.params.map (·, reply.frames)
  | none =>
    ((CaptureChannel.connect path arrival.device arrival.framerate).runOn {}).1.map
      (·.params, [])

/-- What came of all visits. -/
def visits (path : String) (host : CliHost) : List (Except Failure Visit) :=
  host.arrivals.zipIdx.map fun (arrival, number) => host.visit path arrival number

/-- Whether a line is logged. -/
def shows (host : CliHost) (line : LogLine) : Bool :=
  match host.verbosity with
  | 0 => LogLevel.info.rank ≤ line.level.rank
  | 1 => LogLevel.debug.rank ≤ line.level.rank
  | _ => true

/-- The host after a line for the log. -/
def log (host : CliHost) (line : LogLine) : CliHost :=
  if host.shows line then
    { host with screen :=
        host.screen ++ host.clock ++ " " ++ line.shown ++ "\n" }
  else host

end CliHost

/-- Why a command failed: what it could not do, and the causes of that, the nearest first. -/
structure Complaint where
  text : String
  causes : List String := []
  deriving DecidableEq

namespace Complaint

/-- The complaint that a failure makes. A failure of the system is its own cause. -/
def ofFailure : Failure → Complaint
  | .during doing cause =>
    let inner := ofFailure cause
    ⟨doing ++ ": " ++ cause.message, inner.text :: inner.causes⟩
  | .io error => ⟨(Failure.io error).message, [error.text]⟩
  | failure => ⟨failure.message, []⟩

/-- The complaint that `text` could not be done because of another. -/
def because (text : String) (complaint : Complaint) : Complaint :=
  ⟨text, complaint.text :: complaint.causes⟩

/-- The lines of a cause: the first after its mark, the others below it. -/
def causeText (mark : String) (cause : String) : String :=
  let below := "\n" ++ String.ofList (List.replicate mark.length ' ')
  "\n" ++ mark ++ below.intercalate (cause.splitOn "\n")

/-- The causes as they are shown. More than one are numbered. -/
def causesText : List String → String
  | [] => ""
  | [cause] => "\n\nCaused by:" ++ causeText "    " cause
  | causes =>
    "\n\nCaused by:" ++ String.join (causes.zipIdx.map fun (cause, index) =>
      causeText ("    " ++ toString index ++ ": ") cause)

/-- The complaint as it is shown. -/
def shown (complaint : Complaint) : String :=
  "Error: " ++ complaint.text ++ causesText complaint.causes ++ "\n"

end Complaint

/-- What a command does. -/
abbrev Job := ExceptT Complaint (StateM CliHost)

namespace Job

variable {σ α : Type}

/-- Puts a text on the screen. -/
def print (text : String) : Job Unit :=
  modify fun host => { host with screen := host.screen ++ text }

/-- Puts a line on the screen. -/
def printLine (text : String) : Job Unit := print (text ++ "\n")

/-- Logs a line. -/
def note (line : LogLine) : Job Unit := modify (·.log line)

/-- An action on a part of the host, with its outcome. -/
def outcome (part : CliHost → σ) (put : σ → CliHost → CliHost) (action : Act σ α) :
    Job (Except Failure α) :=
  modifyGet fun host =>
    let (result, state, lines) := action.runOn (part host)
    (result, lines.foldl CliHost.log (put state host))

/-- A value, or the complaint that a failure makes. -/
def ofExcept : Except Failure α → Job α
  | .ok value => pure value
  | .error failure => throw (.ofFailure failure)

/-- A value, or the complaint that `text` could not be done. -/
def during (text : String) : Except Failure α → Job α
  | .ok value => pure value
  | .error failure => throw ((Complaint.ofFailure failure).because text)

/-- A value, or the complaint that `text` could not be done because of the system. -/
def duringSystem (text : String) : Except IoError α → Job α
  | .ok value => pure value
  | .error error => throw ⟨text, [error.text]⟩

/-- An action on the files. -/
def onFiles (action : Act FileTree α) : Job (Except Failure α) :=
  outcome CliHost.files CliHost.withFiles action

/-- An action on the cards. -/
def onCards (action : Act CardWorld α) : Job (Except Failure α) :=
  outcome CliHost.cardWorld (fun cards host => { host with cards := cards }) action

/-- An action on what triggers see. -/
def onTriggers (action : Act TriggerWorld α) : Job (Except Failure α) :=
  outcome CliHost.triggers (fun triggers host => { host with triggers := triggers }) action

/-- Installs the handlers of fatal signals. -/
def installHandlers : Job Unit := do
  ofExcept (← outcome CliHost.signals (fun signals host => { host with signals := signals })
    Crash.install)

end Job

end InstantReplay.Cli
