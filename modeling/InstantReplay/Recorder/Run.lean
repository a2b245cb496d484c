import InstantReplay.Recorder.Basic
import InstantReplay.Trigger.Basic

/-!
# Running a recorder

A recorder that runs saves once for each request, until its trigger fails, a signal tells it to
stop, or no worker is left. A save that has begun always ends first.
-/

namespace InstantReplay

/-- What a running recorder waits for. -/
inductive RunEvent
  | requested
  | triggerFailed (failure : Failure)
  /-- The signal from the keyboard. -/
  | interrupted
  /-- The signal that ends a process. -/
  | terminated

namespace Recorder

variable {μ : Type}

/-- Saves on a request; a save that fails does not end the run. -/
def saveOnRequest : Act (Recorder μ) Unit := do
  match ← save.attempt with
  | .ok report => Act.note (.info ("Replay saved to " ++ report.path))
  | .error failure =>
    Act.note (.error ("Save failed: " ++ failure.message))
    if let some hint := failure.hint? then Act.note (.warn hint)

/-- Handles an event and says whether the run goes on. -/
def handle (event : RunEvent) : Act (Recorder μ) Bool := do
  match event with
  | .requested =>
    saveOnRequest
    if (← Act.state).isIdle then
      Act.note (.warn "All capture workers exited, stopping")
      return false
    return true
  | .triggerFailed failure =>
    Act.note (.error ("Trigger failed: " ++ failure.message))
    return false
  | .interrupted =>
    Act.note (.info "Received interrupt, stopping")
    return false
  | .terminated =>
    Act.note (.info "Received SIGTERM, stopping")
    return false

/-- Handles events until the run ends; says whether it still goes on after them. -/
def handleAll : List RunEvent → Act (Recorder μ) Bool
  | [] => return true
  | event :: rest => do if ← handle event then handleAll rest else return false

/-- Handles events and stops the workers. -/
def run (kind : TriggerKind) (events : List RunEvent) : Act (Recorder μ) Unit := do
  Act.note (.info ("Recording; " ++ kind.name ++ " trigger armed"))
  let _ ← handleAll events
  stop

end Recorder

/-- A recorder and the triggers beside it. The files are those of the recorder. -/
structure Studio (μ : Type) where
  recorder : Recorder μ
  triggers : TriggerWorld

namespace Studio

variable {μ : Type}

/-- An action on the recorder. -/
def onRecorder {α : Type} (action : Act (Recorder μ) α) : Act (Studio μ) α :=
  action.within (·.recorder) fun recorder studio => { studio with recorder := recorder }

/-- The studio with other files. -/
def withFiles (studio : Studio μ) (files : FileTree) : Studio μ :=
  let desk := studio.recorder.desk
  { studio with
    recorder := { studio.recorder with
      desk := { desk with world := { desk.world with files := files } } } }

/-- The files. -/
def files (studio : Studio μ) : FileTree := studio.recorder.desk.world.files

/-- An action on the files. -/
def onFiles {α : Type} (action : Act FileTree α) : Act (Studio μ) α :=
  action.within files fun files studio => studio.withFiles files

/-- What the triggers see. -/
def triggerWorld (studio : Studio μ) : TriggerWorld :=
  { studio.triggers with sockets := { studio.triggers.sockets with files := studio.files } }

/-- An action on what the triggers see. -/
def onTriggers {α : Type} (action : Act TriggerWorld α) : Act (Studio μ) α :=
  action.within triggerWorld fun triggers studio =>
    { studio.withFiles triggers.sockets.files with triggers := triggers }

/-- A run that has begun. -/
structure Run where
  trigger : Trigger
  /-- Whether it goes on. -/
  goesOn : Bool := true

/-- Begins a run with a trigger as planned. -/
def begin (plan : TriggerPlan) : Act (Studio μ) Run := do
  let trigger ← onTriggers (Trigger.openAs plan)
  onRecorder (Act.note (.info ("Recording; " ++ trigger.kind.name ++ " trigger armed")))
  return ⟨trigger, true⟩

/-- Handles an event, if the run goes on. -/
def handle (run : Run) (event : RunEvent) : Act (Studio μ) Run := do
  if run.goesOn then return { run with goesOn := ← onRecorder (Recorder.handle event) }
  else return run

/-- Waits up to `budget` milliseconds for a request and handles it. -/
def attend (run : Run) (budget : Nat) : Act (Studio μ) Run := do
  if run.goesOn then
    match ← (onTriggers (run.trigger.wait budget)).attempt with
    | .ok (true, trigger) => handle { run with trigger := trigger } .requested
    | .ok (false, trigger) => return { run with trigger := trigger }
    | .error failure => handle run (.triggerFailed failure)
  else return run

/-- Ends a run. -/
def finish (run : Run) : Act (Studio μ) Unit := do
  onRecorder Recorder.stop
  let _ ← onTriggers run.trigger.close

/-- The longest wait for a request that has been made, in milliseconds. -/
def patience : Nat := 1000

/-- Makes a request and attends to it, if the run goes on. -/
def request (run : Run) (node : String) (events : List KeyEvent) : Act (Studio μ) Run := do
  if run.goesOn then
    let trigger ← onTriggers (run.trigger.ask node events)
    attend { run with trigger := trigger } patience
  else return run

/-- Runs the recorder with a trigger as planned. Requests are made one after the other, those of a
hotkey by the events of nodes; then the standard input ends, and then `ending` comes, if anything
does. -/
def run (plan : TriggerPlan) (requests : List (String × List KeyEvent))
    (ending : Option RunEvent) : Act (Studio μ) Unit := do
  let asked ← requests.foldlM (fun run (node, events) => request run node events) (← begin plan)
  let told ← if plan.kind = .debug then attend asked patience else pure asked
  finish (← match ending with
    | some event => handle told event
    | none => pure told)

end Studio

end InstantReplay
