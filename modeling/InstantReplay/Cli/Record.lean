import InstantReplay.Cli.Commands
import InstantReplay.Cli.Host
import InstantReplay.Config.Store
import InstantReplay.Recorder.Run

/-!
# The command that records

The settings file is read, what the command line says takes precedence over it, and the trigger is
opened. Without an encoder recording cannot start, so the command ends there.
-/

namespace InstantReplay.Cli

open Job

/-- The settings that a recording starts from. -/
def recordSettings (config : Option String) : Job Settings := do
  match config with
  | some path => during ("Failed to load " ++ path) (← onFiles (Settings.load path))
  | none => ofExcept (← onFiles (Settings.loadOrDefault (← get).places.settingsPath))

/-- The plan with what the command line says in place of what it said before. -/
def RecordOptions.override (options : RecordOptions) (plan : RecordingPlan) :
    Except Failure RecordingPlan := do
  let output ← (options.output.map OutputName.parse).getD (.ok plan.output)
  let kind ← (options.trigger.map TriggerKind.parse).getD (.ok plan.trigger.kind)
  return { plan with
    retentionSecs := options.seconds.getD plan.retentionSecs
    backend := options.backend.getD plan.backend
    device := options.device.getD plan.device
    framerate := options.fps.getD plan.framerate
    output := output
    trigger := { plan.trigger with kind := kind }
    audio :=
      match options.audio with
      | some source => some { plan.audio.getD {} with source := source }
      | none => plan.audio
    postSave := options.postSave.or plan.postSave }

/-- What is to be recorded. -/
def RecordOptions.resolve (options : RecordOptions) : Job RecordingPlan := do
  let settings ← recordSettings options.config
  let usual ← during "Invalid configuration" (settings.plan (← get).places.triggerSocket)
  let plan ← ofExcept (options.override usual)
  ofExcept plan.check
  return plan

/-- The line logged for a plan. -/
def keepingNote (plan : RecordingPlan) : LogLine :=
  let seconds := plan.retentionSecs.toNat
  let device := plan.device
  let rate := plan.framerate.toNat
  let backend := plan.backend.name
  .info s!"Keeping {seconds}s of {device} at {rate} fps ({backend} backend)"

/-- Records, as far as that can be done without an encoder. -/
def record (options : RecordOptions) : Job Unit := do
  installHandlers
  let plan ← options.resolve
  note (keepingNote plan)
  if plan.backend = .service then
    note (.info ("Capture service socket: " ++ plan.captureSocket))
  let trigger ← ofExcept (← onTriggers (Trigger.openAs plan.trigger))
  if plan.trigger.kind = .socket then
    let seconds := plan.retentionSecs.toNat
    printLine ("Recording. Run \x60rewind save\x60 to save the last " ++ toString seconds ++
      " seconds, Ctrl+C to stop.")
  if let some hint := Recorder.noEncoder.hint? then note (.warn hint)
  let _ ← onTriggers trigger.close
  during "Failed to start recording" (.error Recorder.noEncoder)

end InstantReplay.Cli
