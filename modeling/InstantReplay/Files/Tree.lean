import InstantReplay.Bytes
import InstantReplay.Files.Path
import InstantReplay.SystemError

/-!
# Trees of files

A file tree holds files, directories, sockets and device nodes under absolute lists of names.
Paths are resolved from the root or from the current directory, name by name; every name but the
last has to be a directory.
-/

namespace InstantReplay

/-- What stands under a name. -/
inductive FileEntry
  | file (contents : ByteArray)
  | directory
  /-- A socket, by the number of the listener it was made for. -/
  | socket (listener : Nat)
  /-- A device node. -/
  | node
  deriving DecidableEq

/-- Files under absolute lists of names. The root is always there. -/
structure FileTree where
  entries : List (List String × FileEntry)
  /-- The directory that relative paths are taken from. -/
  current : List String

namespace FileTree

/-- The entry at a place. -/
def entry? (tree : FileTree) (place : List String) : Option FileEntry :=
  if place.isEmpty then some .directory
  else (tree.entries.find? (·.1 = place)).map (·.2)

/-- The longest name, in bytes. -/
def maxName : Nat := 255

/-- The failure of a path with a zero character. -/
def zeroInPath : IoError :=
  .custom .invalidInput "file name contained an unexpected NUL byte"

/-- The place that is reached from the place `at` by the names of a path, and whether something
must be a directory there. -/
def walk (tree : FileTree) (place : List String) : List String → Except IoError (List String)
  | [] => .ok place
  | name :: rest =>
    match tree.entry? place with
    | none => .error (.os Errno.noEntry)
    | some .directory =>
      if maxName < name.utf8ByteSize then .error (.os Errno.nameTooLong)
      else if name = ".." then tree.walk place.dropLast rest
      else tree.walk (place ++ [name]) rest
    | some _ => .error (.os Errno.notDirectory)

/-- Whether a path can only mean a directory. -/
def wantsDirectory (path : String) : Bool :=
  match (Path.pieces path).getLast? with
  | some name => Path.isVoid name || name == ".."
  | none => false

/-- The place a path means, and what stands there if anything does. -/
def locate (tree : FileTree) (path : String) : Except IoError (List String × Option FileEntry) :=
  if '\x00' ∈ path.toList then .error zeroInPath
  else if path.isEmpty then .error (.os Errno.noEntry)
  else
    match tree.walk (if Path.isAbsolute path then [] else tree.current) (Path.names path) with
    | .error error => .error error
    | .ok place =>
      match tree.entry? place with
      | some .directory => .ok (place, some .directory)
      | some entry =>
        if wantsDirectory path then .error (.os Errno.notDirectory) else .ok (place, some entry)
      | none => .ok (place, none)

/-- What stands under a path. -/
def find (tree : FileTree) (path : String) : Except IoError FileEntry :=
  match tree.locate path with
  | .ok (_, some entry) => .ok entry
  | .ok (_, none) => .error (.os Errno.noEntry)
  | .error error => .error error

/-- Whether anything stands under a path. -/
def holds (tree : FileTree) (path : String) : Bool := (tree.find path).toOption.isSome

/-- Whether a directory stands under a path. -/
def isDirectory (tree : FileTree) (path : String) : Bool :=
  (tree.find path).toOption == some .directory

/-- The tree with an entry at a place. -/
def put (tree : FileTree) (place : List String) (entry : FileEntry) : FileTree :=
  { tree with entries := (place, entry) :: tree.entries.filter (·.1 ≠ place) }

/-- The tree without what stands at a place. -/
def erase (tree : FileTree) (place : List String) : FileTree :=
  { tree with entries := tree.entries.filter (·.1 ≠ place) }

/-- The names in the directory at a place. -/
def namesIn (tree : FileTree) (place : List String) : List String :=
  tree.entries.filterMap fun (names, _) =>
    if names.dropLast = place then names.getLast? else none

/-- The contents of a file. -/
def read (tree : FileTree) (path : String) : Except IoError ByteArray :=
  match tree.find path with
  | .ok (.file contents) => .ok contents
  | .ok .directory => .error (.os Errno.isDirectory)
  | .ok (.socket _) => .error (.os Errno.noAddress)
  | .ok .node => .ok .empty
  | .error error => .error error

/-- The failure of a file that is no text. -/
def notText : IoError := .custom .invalidData "stream did not contain valid UTF-8"

/-- The contents of a file as a text. -/
def readText (tree : FileTree) (path : String) : Except IoError String :=
  match tree.read path with
  | .ok contents =>
    match String.fromUTF8? contents with
    | some text => .ok text
    | none => .error notText
  | .error error => .error error

/-- Writes a file, in place of one that is there. -/
def write (tree : FileTree) (path : String) (contents : ByteArray) :
    Except IoError Unit × FileTree :=
  match tree.locate path with
  | .error error => (.error error, tree)
  | .ok (place, none) =>
    if wantsDirectory path then (.error (.os Errno.isDirectory), tree)
    else
      match tree.entry? place.dropLast with
      | some .directory => (.ok (), tree.put place (.file contents))
      | some _ => (.error (.os Errno.notDirectory), tree)
      | none => (.error (.os Errno.noEntry), tree)
  | .ok (place, some (.file _)) => (.ok (), tree.put place (.file contents))
  | .ok (_, some .directory) => (.error (.os Errno.isDirectory), tree)
  | .ok (_, some (.socket _)) => (.error (.os Errno.noAddress), tree)
  | .ok (_, some .node) => (.ok (), tree)

/-- Makes one directory. -/
def makeDirectory (tree : FileTree) (path : String) : Except IoError Unit × FileTree :=
  match tree.locate path with
  | .error error => (.error error, tree)
  | .ok (_, some _) => (.error (.os Errno.fileExists), tree)
  | .ok (place, none) =>
    match tree.entry? place.dropLast with
    | some .directory => (.ok (), tree.put place .directory)
    | some _ => (.error (.os Errno.notDirectory), tree)
    | none => (.error (.os Errno.noEntry), tree)

/-- Makes one directory where none is. -/
def ensureDirectory (tree : FileTree) (path : String) : Except IoError Unit × FileTree :=
  match tree.makeDirectory path with
  | (.ok (), tree) => (.ok (), tree)
  | (.error error, tree) => if tree.isDirectory path then (.ok (), tree) else (.error error, tree)

/-- Makes the directories of a path that are missing, at most `rounds` of them. -/
def makeRounds : Nat → FileTree → String → Except IoError Unit × FileTree
  | 0, tree, _ => (.ok (), tree)
  | rounds + 1, tree, path =>
    if path.isEmpty then (.ok (), tree)
    else
      match tree.ensureDirectory path with
      | (.error (.os 2), tree) =>
        match Path.parent? path with
        | none => (.error (.custom .uncategorized "failed to create whole tree"), tree)
        | some parent =>
          match makeRounds rounds tree parent with
          | (.ok (), tree) => tree.ensureDirectory path
          | failed => failed
      | done => done

/-- Makes a directory and the ones it lies in. -/
def makeAll (tree : FileTree) (path : String) : Except IoError Unit × FileTree :=
  makeRounds (path.length + 1) tree path

/-- Removes what is not a directory. -/
def removeFile (tree : FileTree) (path : String) : Except IoError Unit × FileTree :=
  match tree.locate path with
  | .error error => (.error error, tree)
  | .ok (_, none) => (.error (.os Errno.noEntry), tree)
  | .ok (_, some .directory) => (.error (.os Errno.isDirectory), tree)
  | .ok (place, some _) => (.ok (), tree.erase place)

/-- A tree with nothing but directories: the given ones and all that they lie in. -/
def ofDirectories (current : List String) (places : List (List String)) : FileTree :=
  let all := (current :: places).flatMap fun place =>
    (List.range place.length).map fun count => place.take (count + 1)
  { entries := all.eraseDups.map (·, .directory), current := current }

end FileTree

end InstantReplay
