import InstantReplay.Files.Path

/-!
# The home directory

A path that starts with `~/`, or is `~`, means one in the user's home directory.
-/

namespace InstantReplay

/-- Where the user's home directory may be learnt from. -/
structure HomeSource where
  /-- The environment variable `HOME`. -/
  fromVariable : Option String
  /-- The directory of the user's account. -/
  fromAccount : Option String

/-- The home directory: the variable unless it is unset or empty, else that of the account. -/
def HomeSource.home? (source : HomeSource) : Option String :=
  match source.fromVariable with
  | some home => if home.isEmpty then source.fromAccount else some home
  | none => source.fromAccount

/-- The path with a leading `~` replaced by the home directory, if there is one. -/
def expandHome (source : HomeSource) (path : String) : String :=
  match path.toList, source.home? with
  | ['~'], some home => home
  | '~' :: '/' :: rest, some home => Path.join home (String.ofList rest)
  | _, _ => path

end InstantReplay
