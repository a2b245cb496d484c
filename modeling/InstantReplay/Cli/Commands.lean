import InstantReplay.Cli.Help
import InstantReplay.Config.Kinds
import InstantReplay.Config.Places

/-!
# The commands

The commands of the program with their options, and `CommandLine.parse`, which makes out of
arguments what is to be done. Help and the version can be asked for everywhere.
-/

namespace InstantReplay.Cli

/-- The program's name. -/
def programName : String := "rewind"

/-- The program's version. -/
def programVersion : String := "0.1.0"

/-- What `record` is told; what is not told is taken from the settings file. -/
structure RecordOptions where
  config : Option String := none
  seconds : Option UInt32 := none
  backend : Option CaptureBackend := none
  device : Option String := none
  fps : Option UInt32 := none
  output : Option String := none
  trigger : Option String := none
  audio : Option String := none
  postSave : Option String := none

/-- What `save` is told. -/
structure SaveOptions where
  socket : Option String := none

/-- What `capture-service` is told. -/
structure ServiceArguments where
  socket : String := UserPlaces.captureSocket
  device : String := "auto"
  /-- The mode of the socket's file, in octal digits. -/
  mode : String := "666"
  allowed : List UInt32 := []

/-- What is to be done with the settings file. -/
inductive ConfigTask
  | path
  | show
  | check
  /-- Write the sample, over a file that is there too if it is forced. -/
  | init (force : Bool)
  | sample

/-- A command. -/
inductive Command
  | record (options : RecordOptions)
  | save (options : SaveOptions)
  | captureService (arguments : ServiceArguments)
  | config (task : ConfigTask)
  | info

/-- What the arguments of the program mean. -/
inductive CommandLine
  /-- A command, and how much is to be logged. -/
  | run (verbosity : Nat) (command : Command)
  /-- A text is to be printed: help, or the version. -/
  | print (text : String)
  | misuse

/-! ### Values -/

/-- The whole number that a text with or without a sign says. -/
def signedNumber? (text : String) : Option Int :=
  match text.toList with
  | '-' :: digits => (Numeral.decimal? digits).map fun n => -(n : Int)
  | '+' :: digits => (Numeral.decimal? digits).map fun n => (n : Int)
  | digits => (Numeral.decimal? digits).map fun n => (n : Int)

/-- A number of 32 bits. -/
def wordValue? (text : String) : Option UInt32 :=
  match signedNumber? text with
  | some n => if 0 ≤ n ∧ n < 4294967296 then some (UInt32.ofNat n.toNat) else none
  | none => none

/-- A path, which cannot be empty. -/
def pathValue? (text : String) : Option String := if text.isEmpty then none else some text

/-! ### Options -/

/-- The options of `record`. -/
def recordOptions : List (CommandOption RecordOptions) := [
  { short := 'c', long := "config", value := "CONFIG"
    about := "Config file (defaults to ~/.config/rewind/config.toml)"
    take := fun text options => (pathValue? text).map fun path =>
      { options with config := some path } },
  { short := 's', long := "seconds", value := "SECONDS", about := "Seconds of history to keep"
    take := fun text options => (wordValue? text).map fun n =>
      { options with seconds := some n } },
  { short := 'b', long := "backend", value := "BACKEND", about := "Capture backend (service, kms)"
    take := fun text options => (CaptureBackend.parse text).toOption.map fun backend =>
      { options with backend := some backend } },
  { short := 'd', long := "device", value := "DEVICE"
    about := "Device to capture (auto, card0, card0:31)"
    take := fun text options => some { options with device := some text } },
  { short := 'f', long := "fps", value := "FPS", about := "Frames per second"
    take := fun text options => (wordValue? text).map fun n => { options with fps := some n } },
  { short := 'o', long := "output", value := "OUTPUT"
    about := "Output path template (strftime format)"
    take := fun text options => some { options with output := some text } },
  { short := 't', long := "trigger", value := "TRIGGER"
    about := "Save trigger (socket, hotkey, signal, debug)"
    take := fun text options => some { options with trigger := some text } },
  { long := "audio", value := "AUDIO", about := "Record audio from this PulseAudio source"
    take := fun text options => some { options with audio := some text } },
  { long := "post-save", value := "POST_SAVE"
    about := "Command to run after each save (\x7bfile\x7d is the saved path)"
    take := fun text options => some { options with postSave := some text } }]

/-- The options of `save`. -/
def saveOptions : List (CommandOption SaveOptions) := [
  { short := 's', long := "socket", value := "SOCKET", about := "Trigger socket of the recorder"
    take := fun text _ => (pathValue? text).map fun path => ⟨some path⟩ }]

/-- The options of `capture-service`. -/
def serviceOptions : List (CommandOption ServiceArguments) := [
  { short := 's', long := "socket", value := "SOCKET", about := "Socket to listen on"
    usual := some UserPlaces.captureSocket
    take := fun text arguments => (pathValue? text).map fun path =>
      { arguments with socket := path } },
  { short := 'd', long := "device", value := "DEVICE"
    about := "Card opened at startup (auto, card0, ...)", usual := "auto"
    take := fun text arguments => some { arguments with device := text } },
  { long := "mode", value := "MODE", about := "Socket file mode (octal)", usual := "666"
    take := fun text arguments => some { arguments with mode := text } },
  { long := "allow-uid", value := "ALLOW_UIDS", repeats := true
    about := "Only accept clients with this uid (repeatable)"
    take := fun text arguments => (wordValue? text).map fun user =>
      { arguments with allowed := arguments.allowed ++ [user] } }]

/-- The options of `config init`: whether it is forced. -/
def initOptions : List (CommandOption Bool) := [
  { short := 'f', long := "force", about := "Force overwrite if file exists"
    take := fun _ _ => some true }]

/-- The options before a command: how much is to be logged. -/
def programOptions : List (CommandOption Nat) := [
  { short := 'v', long := "verbose", about := "Enable verbose logging", repeats := true
    take := fun _ count => some (count + 1) }]

/-! ### Commands -/

/-- A command below another: its name, what it does, the rows of its options, and how its arguments
are read. -/
structure CommandEntry (α : Type) where
  name : String
  /-- Other names, which the help does not show. -/
  aliases : List String := []
  about : String
  options : List HelpRow := []
  read : List String → Reading α

/-- A command with options. -/
def CommandEntry.ofOptions {α β : Type} (name about : String) (options : List (CommandOption β))
    (usual : β) (make : β → α) (aliases : List String := []) : CommandEntry α where
  name := name
  aliases := aliases
  about := about
  options := options.map (·.row)
  read arguments :=
    match readOptions options usual arguments with
    | .settings settings none => .settings (make settings) none
    | .settings _ (some _) => .misuse
    | .help => .help
    | .version => .version
    | .misuse => .misuse

/-- The tasks of `config`. -/
def configEntries : List (CommandEntry ConfigTask) := [
  .ofOptions "path" "Show the path to the config file" [] () fun _ => .path,
  .ofOptions "show" "Show the effective configuration" [] () fun _ => .show,
  .ofOptions "check" "Check the config file for errors" [] () fun _ => .check,
  .ofOptions "init" "Generate a default config file" initOptions false .init,
  .ofOptions "sample" "Print a sample configuration to stdout" [] () fun _ => .sample]

/-- The commands without commands below them. -/
def plainEntries : List (CommandEntry Command) := [
  .ofOptions "record" "Record continuously and save the retained window on trigger" recordOptions
    {} .record ["rec"],
  .ofOptions "save" "Ask a running recorder to save now" saveOptions {} .save,
  .ofOptions "capture-service" "Serve KMS frames to unprivileged recorders (run as root)"
    serviceOptions {} .captureService,
  .ofOptions "info" "Show capture devices and encoder support" [] () fun _ => .info]

/-- What `config` does. -/
def configAbout : String := "Manage the configuration file"

namespace CommandEntry

variable {α : Type}

/-- Whether a word names the command. -/
def isNamed (entry : CommandEntry α) (word : String) : Bool :=
  entry.name = word || entry.aliases.contains word

/-- The row of the command. -/
def row (entry : CommandEntry α) : HelpRow := (entry.name, entry.about)

/-- The command's page, where `path` is what stands before its name. -/
def page (entry : CommandEntry α) (path : String) : HelpPage where
  about := entry.about
  usage := path ++ " " ++ entry.name ++ (if entry.options.isEmpty then "" else " [OPTIONS]")
  options := entry.options ++ commonRows

end CommandEntry

/-- The page of `config`. -/
def configPage : HelpPage where
  about := configAbout
  usage := programName ++ " config <COMMAND>"
  commands := configEntries.map (·.row) ++ [helpRow]
  options := commonRows

/-- The rows of all commands. -/
def commandRows : List HelpRow :=
  (plainEntries.take 3).map (·.row) ++ [("config", configAbout)] ++
    (plainEntries.drop 3).map (·.row) ++ [helpRow]

/-- The page of the program. -/
def programPage : HelpPage where
  about := "Keep the last seconds of your screen, save them on demand"
  usage := programName ++ " [OPTIONS] <COMMAND>"
  commands := commandRows
  options := programOptions.map (·.row) ++ commonRows

/-! ### Reading -/

namespace CommandLine

/-- The line that says the version, for what is called `name`. -/
def versionLine (name : String) : CommandLine := .print (name ++ " " ++ programVersion ++ "\n")

/-- Reads the arguments of a command; `path` and `title` name what it belongs to, in help and in
the line that says the version. -/
def ofEntry {α : Type} (entry : CommandEntry α) (path title : String) (make : α → CommandLine)
    (arguments : List String) : CommandLine :=
  match entry.read arguments with
  | .settings settings _ => make settings
  | .help => .print (entry.page path).text
  | .version => versionLine (title ++ "-" ++ entry.name)
  | .misuse => .misuse

/-- The page of a task of `config`. -/
def configHelp : List String → CommandLine
  | [] => .print configPage.text
  | ["help"] => .print (helpOnHelp (programName ++ " config")).text
  | [word] =>
    match configEntries.find? (·.isNamed word) with
    | some entry => .print (entry.page (programName ++ " config")).text
    | none => .misuse
  | _ => .misuse

/-- The page of a command. -/
def programHelp : List String → CommandLine
  | [] => .print programPage.text
  | "config" :: rest => configHelp rest
  | ["help"] => .print (helpOnHelp programName).text
  | [word] =>
    match plainEntries.find? (·.isNamed word) with
    | some entry => .print (entry.page programName).text
    | none => .misuse
  | _ => .misuse

/-- Reads the arguments of `config`. -/
def ofConfig (verbosity : Nat) (arguments : List String) : CommandLine :=
  match readOptions ([] : List (CommandOption Unit)) () arguments with
  | .help => .print configPage.text
  | .version => versionLine (programName ++ "-config")
  | .settings () (some ("help", rest)) => configHelp rest
  | .settings () (some (word, rest)) =>
    match configEntries.find? (·.isNamed word) with
    | some entry =>
      ofEntry entry (programName ++ " config") (programName ++ "-config")
        (fun task => .run verbosity (.config task)) rest
    | none => .misuse
  | _ => .misuse

/-- Reads the arguments of the program. -/
def parse (arguments : List String) : CommandLine :=
  match readOptions programOptions 0 arguments with
  | .help => .print programPage.text
  | .version => versionLine programName
  | .settings verbosity (some ("config", rest)) => ofConfig verbosity rest
  | .settings _ (some ("help", rest)) => programHelp rest
  | .settings verbosity (some (word, rest)) =>
    match plainEntries.find? (·.isNamed word) with
    | some entry => ofEntry entry programName programName (.run verbosity) rest
    | none => .misuse
  | _ => .misuse

end CommandLine

end InstantReplay.Cli
