import InstantReplay.Config.Kinds
import InstantReplay.Template.Output
import InstantReplay.Toml.Document

/-!
# Settings

What the user's settings file says. Everything has a default, so a file may leave out what it
likes. `Settings.ofToml?` reads settings from a TOML document, `Settings.toToml` writes them.
-/

namespace InstantReplay

/-! ### Fields that are left out

What a field is when its section is there without it. -/

namespace FieldDefault

def seconds : UInt32 := 30
def startOnKeyframe : Bool := true
def backend : CaptureBackend := .service
def device : String := "auto"
def framerate : UInt32 := 60
def captureSocket : String := "/run/rewind/capture.sock"
def videoEncoder : String := "libx264"
def videoBitrate : UInt32 := 12000
def videoPreset : String := "veryfast"
def audioSource : String := "default"
def audioEncoder : String := "aac"
def sampleRate : UInt32 := 48000
def channels : UInt32 := 2
def audioBitrate : UInt32 := 160
def template : String := OutputName.defaultText
def triggerKind : TriggerKind := .socket
def hotkey : String := "alt+f10"

end FieldDefault

/-! ### Sections -/

/-- How much is kept. -/
structure ReplaySettings where
  /-- Seconds of history. -/
  seconds : UInt32 := FieldDefault.seconds
  startOnKeyframe : Bool := true
  deriving DecidableEq

/-- Where frames come from. -/
structure CaptureSettings where
  backend : CaptureBackend := FieldDefault.backend
  device : String := FieldDefault.device
  framerate : UInt32 := FieldDefault.framerate
  socket : String := FieldDefault.captureSocket
  deriving DecidableEq

/-- How frames are encoded. -/
structure VideoSettings where
  encoder : String := FieldDefault.videoEncoder
  /-- In thousands of bits a second. -/
  bitrate : UInt32 := FieldDefault.videoBitrate
  /-- Empty for the encoder's own default. -/
  preset : String := FieldDefault.videoPreset
  deriving DecidableEq

/-- Where sound comes from and how it is encoded. -/
structure AudioSettings where
  enabled : Bool := false
  source : String := FieldDefault.audioSource
  encoder : String := FieldDefault.audioEncoder
  sampleRate : UInt32 := FieldDefault.sampleRate
  channels : UInt32 := FieldDefault.channels
  /-- In thousands of bits a second. -/
  bitrate : UInt32 := FieldDefault.audioBitrate
  deriving DecidableEq

/-- Where replays go. -/
structure OutputSettings where
  template : String := FieldDefault.template
  /-- A shell command to run after each save; empty for none. -/
  postSave : String := ""
  deriving DecidableEq

/-- What asks for a replay. -/
structure TriggerSettings where
  kind : TriggerKind := FieldDefault.triggerKind
  hotkey : String := FieldDefault.hotkey
  /-- The path of the trigger's socket, unless it is the user's usual one. -/
  socket : Option String := none
  deriving DecidableEq

/-- What a settings file says. -/
structure Settings where
  replay : ReplaySettings := {}
  capture : CaptureSettings := {}
  video : VideoSettings := {}
  audio : AudioSettings := {}
  output : OutputSettings := {}
  trigger : TriggerSettings := {}
  deriving DecidableEq

/-! ### Reading -/

namespace TomlValue

/-- A number of 32 bits. -/
def word32? : TomlValue → Option UInt32
  | .integer value =>
    if 0 ≤ value ∧ value < 4294967296 then some (UInt32.ofNat value.toNat) else none
  | _ => none

/-- A text. -/
def text? : TomlValue → Option String
  | .string text => some text
  | _ => none

/-- A truth value. -/
def flag? : TomlValue → Option Bool
  | .boolean value => some value
  | _ => none

/-- Whether a value is a table or an array with nothing in it. -/
def isVoid : TomlValue → Bool
  | .array items => items.isEmpty
  | .table _ entries => entries.isEmpty
  | .tables items => items.isEmpty
  | _ => false

/-- The name of a choice: a text, or the only key of a table if nothing is under it. -/
def choice? : TomlValue → Option String
  | .string text => some text
  | .table _ [(key, value)] => if value.isVoid then some key else none
  | _ => none

/-- The values for the fields of a section. A section may be a table, or an array with the fields'
values in their order. A date has no fields. -/
def fields? (names : List String) : TomlValue → Option TomlEntries
  | .table _ entries => some entries
  | .array items => some (names.zip items)
  | .tables items => some (names.zip (items.map (.table .headed)))
  | .date _ => some []
  | _ => none

end TomlValue

namespace TomlEntries

/-- A field, or its default if it is missing. Nothing if its value is of the wrong kind. -/
def read? {α : Type} (entries : TomlEntries) (name : String) (read : TomlValue → Option α)
    (default : α) : Option α :=
  match entries.value? name with
  | some value => read value
  | none => some default

end TomlEntries

/-- The backend of a name, written exactly. -/
def CaptureBackend.ofToml? (value : TomlValue) : Option CaptureBackend := do
  let name ← value.choice?
  CaptureBackend.all.find? (·.name = name)

/-- The trigger of a name, written exactly. -/
def TriggerKind.ofToml? (value : TomlValue) : Option TriggerKind := do
  let name ← value.choice?
  TriggerKind.all.find? (·.name = name)

/-- The section `replay`. -/
def ReplaySettings.ofToml? (value : TomlValue) : Option ReplaySettings := do
  let fields ← value.fields? ["seconds", "start_on_keyframe"]
  return {
    seconds := ← fields.read? "seconds" TomlValue.word32? FieldDefault.seconds
    startOnKeyframe :=
      ← fields.read? "start_on_keyframe" TomlValue.flag? FieldDefault.startOnKeyframe }

/-- The section `capture`. -/
def CaptureSettings.ofToml? (value : TomlValue) : Option CaptureSettings := do
  let fields ← value.fields? ["backend", "device", "framerate", "socket"]
  return {
    backend := ← fields.read? "backend" CaptureBackend.ofToml? FieldDefault.backend
    device := ← fields.read? "device" TomlValue.text? FieldDefault.device
    framerate := ← fields.read? "framerate" TomlValue.word32? FieldDefault.framerate
    socket := ← fields.read? "socket" TomlValue.text? FieldDefault.captureSocket }

/-- The section `video`. -/
def VideoSettings.ofToml? (value : TomlValue) : Option VideoSettings := do
  let fields ← value.fields? ["encoder", "bitrate", "preset"]
  return {
    encoder := ← fields.read? "encoder" TomlValue.text? FieldDefault.videoEncoder
    bitrate := ← fields.read? "bitrate" TomlValue.word32? FieldDefault.videoBitrate
    preset := ← fields.read? "preset" TomlValue.text? FieldDefault.videoPreset }

/-- The section `audio`. -/
def AudioSettings.ofToml? (value : TomlValue) : Option AudioSettings := do
  let fields ← value.fields?
    ["enabled", "source", "encoder", "sample_rate", "channels", "bitrate"]
  return {
    enabled := ← fields.read? "enabled" TomlValue.flag? false
    source := ← fields.read? "source" TomlValue.text? FieldDefault.audioSource
    encoder := ← fields.read? "encoder" TomlValue.text? FieldDefault.audioEncoder
    sampleRate := ← fields.read? "sample_rate" TomlValue.word32? FieldDefault.sampleRate
    channels := ← fields.read? "channels" TomlValue.word32? FieldDefault.channels
    bitrate := ← fields.read? "bitrate" TomlValue.word32? FieldDefault.audioBitrate }

/-- The section `output`. -/
def OutputSettings.ofToml? (value : TomlValue) : Option OutputSettings := do
  let fields ← value.fields? ["template", "post_save"]
  return {
    template := ← fields.read? "template" TomlValue.text? FieldDefault.template
    postSave := ← fields.read? "post_save" TomlValue.text? "" }

/-- The section `trigger`. -/
def TriggerSettings.ofToml? (value : TomlValue) : Option TriggerSettings := do
  let fields ← value.fields? ["kind", "hotkey", "socket"]
  return {
    kind := ← fields.read? "kind" TriggerKind.ofToml? FieldDefault.triggerKind
    hotkey := ← fields.read? "hotkey" TomlValue.text? FieldDefault.hotkey
    socket := ← fields.read? "socket" (fun value => value.text?.map some) none }

/-- The settings of a document. -/
def Settings.ofToml? (root : TomlEntries) : Option Settings := do
  return {
    replay := ← root.read? "replay" ReplaySettings.ofToml? {}
    capture := ← root.read? "capture" CaptureSettings.ofToml? {}
    video := ← root.read? "video" VideoSettings.ofToml? {}
    audio := ← root.read? "audio" AudioSettings.ofToml? {}
    output := ← root.read? "output" OutputSettings.ofToml? {}
    trigger := ← root.read? "trigger" TriggerSettings.ofToml? {} }

/-- The settings that a text says. -/
def Settings.parse? (text : String) : Option Settings := do
  Settings.ofToml? (← TomlDocument.parse? text)

/-! ### Writing -/

namespace Settings

/-- A line with a key and a value. -/
def line (key value : String) : String := key ++ " = " ++ value ++ "\n"

/-- A line with a number. -/
def numberLine (key : String) (value : UInt32) : String := line key (toString value.toNat)

/-- A line with a text. -/
def textLine (key text : String) : String := line key (TomlText.write text)

/-- A line with a truth value. -/
def flagLine (key : String) (flag : Bool) : String := line key (if flag then "true" else "false")

/-- The settings as a TOML document. -/
def toToml (settings : Settings) : String :=
  let { replay, capture, video, audio, output, trigger } := settings
  "[replay]\n" ++ numberLine "seconds" replay.seconds ++
  flagLine "start_on_keyframe" replay.startOnKeyframe ++
  "\n[capture]\n" ++ textLine "backend" capture.backend.name ++
  textLine "device" capture.device ++ numberLine "framerate" capture.framerate ++
  textLine "socket" capture.socket ++
  "\n[video]\n" ++ textLine "encoder" video.encoder ++ numberLine "bitrate" video.bitrate ++
  textLine "preset" video.preset ++
  "\n[audio]\n" ++ flagLine "enabled" audio.enabled ++ textLine "source" audio.source ++
  textLine "encoder" audio.encoder ++ numberLine "sample_rate" audio.sampleRate ++
  numberLine "channels" audio.channels ++ numberLine "bitrate" audio.bitrate ++
  "\n[output]\n" ++ textLine "template" output.template ++ textLine "post_save" output.postSave ++
  "\n[trigger]\n" ++ textLine "kind" trigger.kind.name ++ textLine "hotkey" trigger.hotkey ++
  (match trigger.socket with
    | some path => textLine "socket" path
    | none => "")

end Settings

end InstantReplay
