import InstantReplay.Config.Settings

/-!
# Recording plans

What a recorder is to do, made from the user's settings. `RecordingPlan.check` refuses plans that
cannot work; `RecordingPlan.warnings` says what may go wrong with the others.
-/

namespace InstantReplay

/-- How frames are encoded. -/
structure VideoPlan where
  encoder : String := "libx264"
  bitrate : UInt32 := 12000
  preset : Option String := some "veryfast"
  deriving DecidableEq

/-- Where sound comes from and how it is encoded. -/
structure AudioPlan where
  source : String := "default"
  encoder : String := "aac"
  sampleRate : UInt32 := 48000
  channels : UInt32 := 2
  bitrate : UInt32 := 160
  deriving DecidableEq

/-- What asks for a replay. -/
structure TriggerPlan where
  kind : TriggerKind := .socket
  socketPath : String
  hotkey : String := "alt+f10"
  deriving DecidableEq

/-- What a recorder is to do. -/
structure RecordingPlan where
  /-- Seconds of history to keep. -/
  retentionSecs : UInt32 := 30
  backend : CaptureBackend := .service
  device : String := "auto"
  framerate : UInt32 := 60
  captureSocket : String := "/run/rewind/capture.sock"
  video : VideoPlan := {}
  audio : Option AudioPlan := none
  output : OutputName
  postSave : Option String := none
  startOnKeyframe : Bool := true
  trigger : TriggerPlan

namespace RecordingPlan

/-- What may go wrong, for a user who has all rights or not. -/
def warnings (plan : RecordingPlan) (isRoot : Bool) : List String :=
  let seconds := plan.retentionSecs.toNat
  let bitrate := plan.video.bitrate.toNat
  let framerate := plan.framerate.toNat
  let megabytes := seconds * bitrate / 8 / 1000
  (if 120 < seconds ∧ 20000 < bitrate then
    [s!"{seconds}s at {bitrate} kbps keeps about {megabytes} MB of video in memory"]
  else []) ++
  (if 144 < framerate then [s!"{framerate} fps is very high; the encoder may not keep up"]
  else []) ++
  (if plan.backend = .card ∧ !isRoot then
    ["In-process KMS capture usually needs root or CAP_SYS_ADMIN; consider the capture service"]
  else [])

/-- Why sound cannot be recorded as planned, if it cannot. -/
def audioFault? (audio : AudioPlan) : Option String :=
  let channels := audio.channels.toNat
  let rate := audio.sampleRate.toNat
  if channels ≠ 1 ∧ channels ≠ 2 then
    some s!"Audio must be mono or stereo, got {channels} channels"
  else if rate < 8000 ∨ 192000 < rate then some s!"Unsupported audio sample rate {rate}"
  else none

/-- Why a plan cannot work, if it cannot: the first reason found. -/
def fault? (plan : RecordingPlan) : Option String :=
  let seconds := plan.retentionSecs.toNat
  let framerate := plan.framerate.toNat
  if seconds = 0 ∨ 600 < seconds then
    some s!"Retention must be between 1 and 600 seconds, got {seconds}"
  else if framerate = 0 ∨ 240 < framerate then
    some s!"Framerate must be between 1 and 240, got {framerate}"
  else if isAllBlank plan.video.encoder then some "Video encoder name is empty"
  else if plan.video.bitrate = 0 then some "Video bitrate must be positive"
  else plan.audio.bind audioFault?

/-- Refuses a plan that cannot work. -/
def check (plan : RecordingPlan) : Except Failure Unit :=
  match plan.fault? with
  | some fault => .error (.config fault)
  | none => .ok ()

end RecordingPlan

/-- A text without blanks at its ends, unless nothing remains. -/
def unlessBlank (text : String) : Option String :=
  let kept := trimmed text
  if kept.isEmpty then none else some kept

/-- The plan that settings make, with the user's usual path for the trigger's socket. -/
def Settings.plan (settings : Settings) (usualSocket : String) :
    Except Failure RecordingPlan := do
  let output ← OutputName.parse settings.output.template
  let audio := settings.audio
  let plan : RecordingPlan := {
    retentionSecs := settings.replay.seconds
    backend := settings.capture.backend
    device := settings.capture.device
    framerate := settings.capture.framerate
    captureSocket := settings.capture.socket
    video := {
      encoder := settings.video.encoder
      bitrate := settings.video.bitrate
      preset := unlessBlank settings.video.preset }
    audio :=
      if audio.enabled then
        some ⟨audio.source, audio.encoder, audio.sampleRate, audio.channels, audio.bitrate⟩
      else none
    output := output
    postSave := unlessBlank settings.output.postSave
    startOnKeyframe := settings.replay.startOnKeyframe
    trigger := {
      kind := settings.trigger.kind
      socketPath := settings.trigger.socket.getD usualSocket
      hotkey := settings.trigger.hotkey } }
  plan.check
  return plan

end InstantReplay
