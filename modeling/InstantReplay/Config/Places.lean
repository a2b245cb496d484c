import InstantReplay.Files.Home

/-!
# Where the user's things are

The paths of the settings file and of the two sockets, from the user's environment.
-/

namespace InstantReplay

/-- What the environment says about the user. -/
structure UserPlaces where
  home : HomeSource
  /-- The environment variable `XDG_CONFIG_HOME`. -/
  configHome : Option String
  /-- The environment variable `XDG_RUNTIME_DIR`. -/
  runtimeDirectory : Option String
  /-- The user's number, as it is shown. -/
  user : String

namespace UserPlaces

/-- The directory for settings: the variable if it is an absolute path, else `.config` in the home
directory, if there is one. -/
def configDirectory? (places : UserPlaces) : Option String :=
  match places.configHome.filter Path.isAbsolute with
  | some path => some path
  | none => places.home.home?.map (Path.join · ".config")

/-- The path of the settings file. -/
def settingsPath (places : UserPlaces) : String :=
  match places.configDirectory?, places.home.fromVariable with
  | some directory, _ => Path.join (Path.join directory "rewind") "config.toml"
  | none, some home => Path.join (Path.join (Path.join home ".config") "rewind") "config.toml"
  | none, none => "/etc/rewind/config.toml"

/-- The path of the capture service's socket. -/
def captureSocket : String := "/run/rewind/capture.sock"

/-- The path of the trigger's socket. -/
def triggerSocket (places : UserPlaces) : String :=
  match places.runtimeDirectory with
  | some directory => Path.join directory "rewind-trigger.sock"
  | none => "/tmp/rewind-" ++ places.user ++ ".sock"

end UserPlaces

end InstantReplay
