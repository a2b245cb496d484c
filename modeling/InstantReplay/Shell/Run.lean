import InstantReplay.Files.Tree
import InstantReplay.Shell.Words
import InstantReplay.Signal
import InstantReplay.Text.Numeral

/-!
# Running shell commands

A shell runs a command on a tree of files. It knows lists of simple commands, whose output may go
into a file, and the utilities that short commands after a save use; any other utility is not
found.
-/

namespace InstantReplay

/-- A shell between two simple commands. -/
structure Shell where
  files : FileTree
  bindings : List (String × String)
  status : Nat := 0
  /-- How the shell ended, if it has. -/
  ended : Option ProcessEnd := none

namespace Shell

/-- The text that stands for the shell's own process number. -/
def selfNumber : String := "self"

/-- The value of a variable; one that is not set is empty. -/
def value (shell : Shell) (name : String) : String :=
  if name = "$" then selfNumber
  else if name = "?" then toString shell.status
  else ((shell.bindings.find? (·.1 = name)).map (·.2)).getD ""

/-- Characters added to the last field, which is given first and backwards. -/
def extend (fields : Option (List Char) × List (List Char)) (chars : List Char) :
    Option (List Char) × List (List Char) :=
  (some (chars.reverse ++ fields.1.getD []), fields.2)

/-- Adds a part of a word to the fields it stands for. A value outside quotes is split at its
blanks. -/
def addPart (shell : Shell) (fields : Option (List Char) × List (List Char)) :
    ShellPart → Option (List Char) × List (List Char)
  | .char c => extend fields [c]
  | .quote => extend fields []
  | .value name true => extend fields (shell.value name).toList
  | .value name false =>
    (shell.value name).toList.foldl (fun fields c =>
      if c == ' ' || c == '\t' || c == '\n' then
        match fields.1 with
        | some field => (none, field :: fields.2)
        | none => fields
      else extend fields [c]) fields

/-- The fields that a word stands for. -/
def expand (shell : Shell) (parts : List ShellPart) : List String :=
  let (last, before) := parts.foldl shell.addPart (none, [])
  (last.toList ++ before).reverse.map fun field => String.ofList field.reverse

/-- A simple command. -/
structure SimpleCommand where
  words : List (List ShellPart) := []
  /-- The file that takes the output, and whether the output is added to what it holds. -/
  output : Option (List ShellPart × Bool) := none

/-- What decides whether the next simple command is run. -/
inductive Link
  | always
  | onSuccess
  | onFailure
  deriving DecidableEq

/-- The simple commands of a command, each with what decides whether it is run. -/
def commands (link : Link) (current : SimpleCommand) :
    List ShellToken → List (Link × SimpleCommand)
  | [] => [(link, current)]
  | .into :: .word parts :: rest =>
    commands link { current with output := some (parts, false) } rest
  | .onto :: .word parts :: rest => commands link { current with output := some (parts, true) } rest
  | .into :: rest | .onto :: rest => commands link current rest
  | .word parts :: rest => commands link { current with words := current.words ++ [parts] } rest
  | .next :: rest => (link, current) :: commands .always {} rest
  | .andThen :: rest => (link, current) :: commands .onSuccess {} rest
  | .orElse :: rest => (link, current) :: commands .onFailure {} rest

/-- The characters of a format with its backslash escapes resolved. -/
def unescape : List Char → List Char
  | '\\' :: 'n' :: rest => '\n' :: unescape rest
  | '\\' :: 't' :: rest => '\t' :: unescape rest
  | '\\' :: '\\' :: rest => '\\' :: unescape rest
  | c :: rest => c :: unescape rest
  | [] => []

/-- A format with texts put in for its directives, and the texts that are left. -/
def fillFormat : List Char → List String → List Char × List String
  | '%' :: '%' :: rest, texts =>
    let (filled, left) := fillFormat rest texts
    ('%' :: filled, left)
  | '%' :: 's' :: rest, texts =>
    let (filled, left) := fillFormat rest texts.tail
    ((texts.head?.getD "").toList ++ filled, left)
  | c :: rest, texts =>
    let (filled, left) := fillFormat rest texts
    (c :: filled, left)
  | [], texts => ([], texts)

/-- A format used again for as long as texts are left and it takes some. -/
def printAll : Nat → List Char → List String → List Char
  | 0, _, _ => []
  | rounds + 1, format, texts =>
    let (filled, left) := fillFormat format texts
    if left.isEmpty ∨ left.length = texts.length then filled
    else filled ++ printAll rounds format left

/-- The last name of a path. -/
def lastName (path : String) : String := (Path.names path).getLast?.getD ""

/-- The path of a file that is to go to a path, which may be a directory. -/
def target (files : FileTree) (source path : String) : String :=
  if files.isDirectory path then Path.join path (lastName source) else path

/-- What a utility does: its output, its status and the files after it. -/
structure UtilityResult where
  output : ByteArray := .empty
  status : Nat := 0
  files : FileTree

/-- The contents of files, one after another. A file that cannot be read fails the utility. -/
def concatenate (files : FileTree) (paths : List String) : UtilityResult :=
  paths.foldl (fun result path =>
    match files.read path with
    | .ok contents => { result with output := result.output ++ contents }
    | .error _ => { result with status := 1 }) { files := files }

/-- Copies a file, and removes the source if it is to be moved. -/
def transfer (files : FileTree) (move : Bool) (source path : String) : UtilityResult :=
  match files.read source with
  | .error _ => { status := 1, files := files }
  | .ok contents =>
    match files.write (target files source path) contents with
    | (.error _, files) => { status := 1, files := files }
    | (.ok (), files) => { files := if move then (files.removeFile source).2 else files }

/-- Runs a utility that changes files, if it is known. -/
def utility (files : FileTree) : List String → Option UtilityResult
  | [] | "true" :: _ | ":" :: _ | "sleep" :: _ => some { files := files }
  | "false" :: _ => some { status := 1, files := files }
  | "echo" :: "-n" :: words => some { output := (" ".intercalate words).toUTF8, files := files }
  | "echo" :: words => some { output := (" ".intercalate words ++ "\n").toUTF8, files := files }
  | "printf" :: format :: texts =>
    let chars := printAll (texts.length + 1) (unescape format.toList) texts
    some { output := (String.ofList chars).toUTF8, files := files }
  | "cat" :: paths => some (concatenate files paths)
  | ["mv", source, path] => some (transfer files true source path)
  | ["cp", source, path] => some (transfer files false source path)
  | "rm" :: "-f" :: paths =>
    some { files := paths.foldl (fun files path => (files.removeFile path).2) files }
  | "rm" :: paths => some <| paths.foldl (fun result path =>
      match result.files.removeFile path with
      | (.ok (), files) => { result with files := files }
      | (.error _, _) => { result with status := 1 }) { files := files }
  | "touch" :: paths => some <| paths.foldl (fun result path =>
      if result.files.holds path then result
      else
        match result.files.write path .empty with
        | (.ok (), files) => { result with files := files }
        | (.error _, _) => { result with status := 1 }) { files := files }
  | _ => none

/-- The number of a signal from the option that names it. -/
def signalOf? (option : String) : Option Signal :=
  match option.toList with
  | '-' :: chars =>
    match Numeral.decimal? chars with
    | some number => some number
    | none =>
      let name := String.ofList chars
      (Signal.names.findIdx? fun known => known = name ∨ known = "SIG" ++ name).map (· + 1)
  | _ => none

/-- The shell after words that are a command. -/
def runWords (shell : Shell) (words : List String) : ByteArray × Shell :=
  match words with
  | ["exit"] => (.empty, { shell with ended := some (.exited shell.status) })
  | "exit" :: code :: _ =>
    let status := ((Numeral.decimal? code.toList).getD 2) % 256
    (.empty, { shell with ended := some (.exited status) })
  | ["kill", "self"] => (.empty, { shell with ended := some (.killed 15) })
  | ["kill", option, "self"] =>
    match signalOf? option with
    | some signal => (.empty, { shell with ended := some (.killed signal) })
    | none => (.empty, { shell with status := 2 })
  | words =>
    match utility shell.files words with
    | some result => (result.output, { shell with files := result.files, status := result.status })
    | none => (.empty, { shell with status := 127 })

/-- The shell after a simple command. -/
def runSimple (shell : Shell) (command : SimpleCommand) : Shell :=
  let words := command.words.flatMap shell.expand
  match command.output with
  | none => if words.isEmpty then shell else (shell.runWords words).2
  | some (parts, adds) =>
    let path := (shell.expand parts).head?.getD ""
    let before := if adds then ((shell.files.read path).toOption.getD .empty) else .empty
    match shell.files.write path before with
    | (.error _, _) => { shell with status := 2 }
    | (.ok (), files) =>
      let (output, shell) := { shell with files := files }.runWords words
      { shell with files := (shell.files.write path (before ++ output)).2 }

/-- The shell after a simple command of a list, if it is run. -/
def runLinked (shell : Shell) (item : Link × SimpleCommand) : Shell :=
  let runs :=
    match item.1 with
    | .always => true
    | .onSuccess => shell.status = 0
    | .onFailure => shell.status ≠ 0
  if shell.ended.isSome ∨ !runs then shell else shell.runSimple item.2

/-- Runs a command: how the shell ended, and the files after it. -/
def run (shell : Shell) (command : String) : ProcessEnd × FileTree :=
  match ShellScan.tokens? command.toList with
  | none => (.exited 2, shell.files)
  | some tokens =>
    let shell := (commands .always {} tokens).foldl runLinked shell
    (shell.ended.getD (.exited shell.status), shell.files)

end Shell

end InstantReplay
