import InstantReplay.Act
import InstantReplay.Shell.Run
import InstantReplay.Template.Output
import InstantReplay.Text.Quoted

/-!
# Around a save

Before a save the directory of the file is made; after it the user's command is run by a shell, on
a thread of its own, with the path of the file in a variable.
-/

namespace InstantReplay

/-- The path for a moment, in a directory that is made if it is missing. -/
def OutputName.prepare (name : OutputName) (home : HomeSource) (moment : Moment) :
    Act FileTree String := do
  let path ← Act.ofExcept (name.render home moment)
  let tree ← Act.state
  match Path.parent? path with
  | none => return path
  | some parent =>
    if parent.isEmpty || tree.holds parent then return path
    Act.note (.debug ("Creating output directory " ++ quoted parent))
    match ← Act.step (·.makeAll parent) with
    | .ok () => return path
    | .error error => throw (.during ("Failed to create " ++ quoted parent) (.io error))

/-- What a command after a save is run in. -/
structure PostSaveWorld where
  files : FileTree
  /-- The environment variable `PATH`. -/
  searchPath : String
  /-- Answers to the next requests for a thread that are refusals. -/
  threadRefusals : List Errno := []

namespace PostSaveWorld

/-- The directories that hold the shell. -/
def shellDirectories : List String := ["/bin", "/usr/bin"]

/-- Why there is no shell on the search path, if there is none. A file of its name that cannot be
run is told from none at all. -/
def shellFault? (world : PostSaveWorld) : Option Errno :=
  let directories := world.searchPath.splitOn ":"
  if directories.any fun directory => (Path.pieces directory).length > 0 ∧
      shellDirectories.any fun known => Path.names known = Path.names directory then none
  else if directories.any fun directory =>
      world.files.holds (if directory.isEmpty then "sh" else Path.join directory "sh") then
    some Errno.accessDenied
  else some Errno.noEntry

/-- Runs the command for a saved file, if a thread can be had for it. -/
def runCommand (command file : String) : Act PostSaveWorld Unit := do
  let world ← Act.state
  match world.threadRefusals with
  | refusal :: rest =>
    Act.change fun world => { world with threadRefusals := rest }
    Act.note (.warn ("Failed to start post-save command: " ++ (IoError.os refusal).text))
  | [] =>
    Act.note (.debug ("Running post-save command: " ++ command))
    match world.shellFault? with
    | some fault =>
      Act.note (.warn ("Failed to run post-save command: " ++ (IoError.os fault).text))
    | none =>
      let shell : Shell := { files := world.files, bindings := [("REWIND_FILE", file)] }
      let (ended, files) := shell.run command
      Act.change fun world => { world with files := files }
      if ended = .exited 0 then Act.note (.debug "Post-save command finished")
      else Act.note (.warn ("Post-save command exited with " ++ ended.text))

end PostSaveWorld

end InstantReplay
