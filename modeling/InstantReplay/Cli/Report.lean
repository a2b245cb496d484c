import InstantReplay.Card.Driver
import InstantReplay.Card.DeviceName
import InstantReplay.Cli.Commands
import InstantReplay.Cli.Host
import InstantReplay.Config.Sample

/-!
# Looking at the system and the settings

The commands `info`, `config` and `save`, which show what is there, work on the settings file, or
ask a recorder that runs elsewhere for a save.
-/

namespace InstantReplay.Cli

open Job

/-! ### Information about the system -/

/-- The kernel's side of the cards. -/
def cardDriver : CardDriver CardWorld := CardWorld.driver

/-- The line about a framebuffer of a plane. -/
def bufferLine (card : String) (plane : UInt32) (buffer : Framebuffer) : String :=
  let id := paddedTo 4 (toString plane.toNat)
  let width := buffer.width.toNat
  let height := buffer.height.toNat
  let format := buffer.pixels.name
  let layout := if LayoutModifier.isLinear buffer.modifier then "linear" else "tiled"
  s!"    {card}:{id} {width}x{height} {format} {layout}"

/-- Prints what a plane shows, if it shows anything. -/
def printPlane (name : String) (card : Card) (id : UInt32) : Job Unit := do
  match ← onCards (card.plane cardDriver id) with
  | .error _ => return
  | .ok plane =>
    if plane.framebuffer = 0 then return
    match ← onCards (card.framebuffer cardDriver plane.framebuffer) with
    | .ok buffer =>
      printLine (bufferLine name id buffer)
      let _ ← onCards (card.release cardDriver buffer)
    | .error _ =>
      let shown := paddedTo 4 (toString id.toNat)
      printLine s!"    {name}:{shown} active (framebuffer not readable)"

/-- Prints what a card shows. -/
def printCard (name : String) : Job Unit := do
  match DeviceName.parse name with
  | .error failure => printLine ("  " ++ name ++ ": " ++ failure.message)
  | .ok device =>
    match ← onCards (Card.openAt cardDriver device.path) with
    | .error failure =>
      printLine ("  " ++ name ++ ": cannot open (" ++ failure.message ++ ")")
    | .ok card =>
      match ← onCards (card.planeIds cardDriver) with
      | .error failure =>
        printLine ("  " ++ name ++ ": cannot list planes (" ++ failure.message ++ ")")
      | .ok planes =>
        let count := planes.length
        printLine s!"  {name} ({count} planes)"
        planes.forM (printPlane name card)

/-- Prints what there is to capture from, and where the program's files are. -/
def info : Job Unit := do
  printLine "Rewind - System Information\n\nDisplay Devices:"
  let cards := (← get).cardWorld.names
  if cards.isEmpty then printLine "  No DRM cards found under /dev/dri"
  cards.forM printCard
  printLine "\nEncoders:\n  Built without the 'ffmpeg' feature; recording is unavailable."
  let host ← get
  let service := UserPlaces.captureSocket
  let state := if host.files.holds service then "present" else "not running"
  printLine ("\nEndpoints:\n  Capture service: " ++ service ++ " (" ++ state ++ ")")
  printLine ("  Save trigger:    " ++ host.places.triggerSocket)
  printLine ("  Config file:     " ++ host.places.settingsPath)

/-! ### The settings file -/

/-- Prints the path of the settings file. -/
def showPath : Job Unit := do
  let host ← get
  let path := host.places.settingsPath
  printLine path
  printLine (if host.files.holds path then "(file exists)" else "(file does not exist)")

/-- Prints the settings. -/
def showSettings : Job Unit := do
  let path := (← get).places.settingsPath
  let settings ← ofExcept (← onFiles (Settings.load path))
  if (← get).files.holds path then printLine ("# Configuration file: " ++ path ++ "\n")
  else printLine "# No configuration file, showing defaults\n"
  printLine settings.toToml

/-- Checks the settings, and prints what may go wrong with them. -/
def checkSettings : Job Unit := do
  let places := (← get).places
  let settings ← ofExcept (← onFiles (Settings.load places.settingsPath))
  let plan ← during "Configuration is invalid" (settings.plan places.triggerSocket)
  (plan.warnings (← get).isRoot).forM fun warning => printLine ("warning: " ++ warning)
  printLine "Configuration OK"

/-- A step of the files. -/
def stepFiles {α : Type} (f : FileTree → α × FileTree) : Job α :=
  modifyGet fun host =>
    let (value, files) := f host.files
    (value, host.withFiles files)

/-- Writes the sample of a settings file. -/
def initSettings (force : Bool) : Job Unit := do
  let host ← get
  let path := host.places.settingsPath
  if host.files.holds path && !force then
    printLine ("Configuration file already exists: " ++ path)
    printLine "\nUse --force to overwrite, or edit the existing file."
    return
  if let some parent := Path.parent? path then
    if !host.files.holds parent then
      duringSystem "Failed to create config directory" (← stepFiles (·.makeAll parent))
  duringSystem "Failed to write config file"
    (← stepFiles (·.write path Settings.sample.toUTF8))
  printLine ("Created configuration file: " ++ path)
  printLine "\nEdit this file to customize Rewind settings."

/-- Does a task on the settings file. -/
def config : ConfigTask → Job Unit
  | .path => showPath
  | .show => showSettings
  | .check => checkSettings
  | .init force => initSettings force
  | .sample => print Settings.sample

/-! ### Asking for a save -/

/-- Asks a recorder that runs for a save. -/
def save (options : SaveOptions) : Job Unit := do
  let path := options.socket.getD (← get).places.triggerSocket
  during "Is \x60rewind record\x60 running with the socket trigger?"
    (← onTriggers (TriggerWorld.onSockets (SocketTrigger.request path)))
  printLine "Save requested."

end InstantReplay.Cli
