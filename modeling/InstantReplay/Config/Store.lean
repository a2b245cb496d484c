import InstantReplay.Act
import InstantReplay.Config.Places
import InstantReplay.Config.Settings
import InstantReplay.Files.Tree
import InstantReplay.Text.Quoted

/-!
# The settings file

Reading and writing the settings file in a tree of files. A file that is missing says nothing, so
everything has its default.
-/

namespace InstantReplay.Settings

/-- The failure of work on the settings file. -/
def fileFault (doing : String) (error : IoError) : Failure := .config (doing ++ ": " ++ error.text)

/-- The settings in a file. -/
def load (path : String) : Act FileTree Settings := do
  let tree ← Act.state
  if !tree.holds path then
    Act.note (.debug ("Config file not found at " ++ quoted path ++ ", using defaults"))
    return {}
  match tree.readText path with
  | .error error => throw (fileFault "Failed to read config file" error)
  | .ok text =>
    match parse? text with
    | none => throw (.config "Failed to parse config file: ")
    | some settings =>
      Act.note (.info ("Loaded configuration from " ++ quoted path))
      return settings

/-- The settings in a file, or the defaults if it cannot be read. -/
def loadOrDefault (path : String) : Act FileTree Settings := do
  match ← (load path).attempt with
  | .ok settings => return settings
  | .error failure =>
    Act.note (.warn ("Failed to load config file: " ++ failure.message ++ ", using defaults"))
    return {}

/-- Makes the directories that a file is to lie in. -/
def makeParent (path : String) : Act FileTree Unit := do
  match Path.parent? path with
  | none => return
  | some parent =>
    match ← Act.step (·.makeAll parent) with
    | .ok () => return
    | .error error => throw (fileFault "Failed to create config directory" error)

/-- Writes the text of a settings file. -/
def writeText (path text : String) : Act FileTree Unit := do
  match ← Act.step (·.write path text.toUTF8) with
  | .ok () => return
  | .error error => throw (fileFault "Failed to write config file" error)

/-- Writes settings to a file, and makes its directory if nothing is there. -/
def save (settings : Settings) (path : String) : Act FileTree Unit := do
  let tree ← Act.state
  if (Path.parent? path).any fun parent => !tree.holds parent then makeParent path
  writeText path settings.toToml
  Act.note (.info ("Saved configuration to " ++ quoted path))

end InstantReplay.Settings
