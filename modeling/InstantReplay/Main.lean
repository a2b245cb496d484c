import InstantReplay.Cli.Run

/-!
# The program

Takes from the machine what a command can see of it, runs the command, and leaves what came of it:
files, what is on the screen, and the status of the process. The cards, the input devices and the
sockets of the machine are out of reach; a command finds none.
-/

namespace InstantReplay.Program

open InstantReplay.Cli

/-- A tree with a file and the directories that it lies in. -/
def withFile (tree : FileTree) (path : String) (contents : ByteArray) : FileTree :=
  let tree := match Path.parent? path with
    | some parent => (tree.makeAll parent).2
    | none => tree
  (tree.write path contents).2

/-- The files that are new in a tree or differ from those before, by their paths. -/
def written (before after : FileTree) : List (String × ByteArray) :=
  after.entries.filterMap fun (place, entry) =>
    match entry with
    | .file contents =>
      if before.entry? place = some (.file contents) then none
      else some ("/" ++ "/".intercalate place, contents)
    | _ => none

/-- The host of a command, from the environment and the files. -/
def hostOf (places : UserPlaces) (files : FileTree) (clock : String) : CliHost where
  places := places
  triggers := { sockets := { files := files }, inputs := ⟨[], [], []⟩, process := "self" }
  cards := { files := files }
  isRoot := places.user == "0"
  clock := clock
  thread := "main"

/-- The file at a path, if it can be read. -/
def fileAt? (path : String) : IO (Option ByteArray) := do
  try
    return some (← IO.FS.readBinFile path)
  catch _ => return none

/-- The files that a command may ask for: the user's settings and those that its arguments name. -/
def filesFor (arguments : List String) (places : UserPlaces) : IO FileTree := do
  let current := Path.names (← IO.currentDir).toString
  let mut tree := FileTree.ofDirectories current [["tmp"]]
  for path in places.settingsPath :: arguments do
    if let some contents ← fileAt? path then
      tree := withFile tree path contents
  return tree

/-- What the environment says about the user. -/
def placesHere : IO UserPlaces := do
  return {
    home := ⟨← IO.getEnv "HOME", none⟩
    configHome := ← IO.getEnv "XDG_CONFIG_HOME"
    runtimeDirectory := ← IO.getEnv "XDG_RUNTIME_DIR"
    user := (← IO.getEnv "UID").getD "0" }

/-- Writes a file and makes the directories that it lies in. -/
def leaveFile (path : String) (contents : ByteArray) : IO Unit := do
  if let some parent := Path.parent? path then IO.FS.createDirAll parent
  IO.FS.writeBinFile path contents

/-- Runs a command on this machine and gives the status of the process. -/
def runHere (arguments : List String) : IO UInt32 := do
  let places ← placesHere
  let files ← filesFor arguments places
  let clock := toString (← IO.monoMsNow) ++ "ms"
  let outcome := Cli.run arguments (hostOf places files clock)
  for (path, contents) in written files outcome.host.files do
    leaveFile path contents
  IO.print outcome.output
  IO.eprint outcome.errors
  match outcome.ended with
  | .exited status => return UInt32.ofNat status
  | .killed signal => return UInt32.ofNat (128 + signal)

end InstantReplay.Program

/-- Runs the command that the arguments name. -/
def main (arguments : List String) : IO UInt32 := InstantReplay.Program.runHere arguments
