/-!
# Reading options

The arguments of a command are options, `-s 5`, `-s5`, `--seconds 5` or `--seconds=5`, up to the
first word that is none. Every option is known by a table; each may be given once, unless its table
entry says otherwise, and one that takes a value needs it. `readOptions` follows the arguments from
left to right and stops at the first that asks for help, asks for the version, or is wrong.
-/

namespace InstantReplay.Cli

/-- An option of a command with settings in `α`. -/
structure CommandOption (α : Type) where
  short : Option Char := none
  long : String
  /-- What its value is called; a flag has none. -/
  value : Option String := none
  about : String
  /-- The value when it is not given, as it is shown. -/
  usual : Option String := none
  /-- Whether it may be given more than once. -/
  repeats : Bool := false
  /-- Takes the value, or an empty text for a flag, unless it is not in order. -/
  take : String → α → Option α

/-- What reading the arguments of a command came to. -/
inductive Reading (α : Type)
  /-- The settings; and the first word that is no option, with the arguments after it. -/
  | settings (settings : α) (rest : Option (String × List String))
  | help
  | version
  | misuse

/-- The settings read so far, and the names of the options that were given. -/
structure Progress (α : Type) where
  settings : α
  given : List String := []

namespace Progress

variable {α : Type}

/-- Whether an option may be given now. -/
def admits (progress : Progress α) (option : CommandOption α) : Bool :=
  option.repeats || !progress.given.contains option.long

/-- The progress after an option with its value. -/
def with? (progress : Progress α) (option : CommandOption α) (value : String) :
    Option (Progress α) :=
  if progress.admits option then
    (option.take value progress.settings).map fun settings =>
      ⟨settings, option.long :: progress.given⟩
  else none

end Progress

/-- What reading one argument came to. -/
inductive ArgumentStep (α : Type)
  | taken (progress : Progress α)
  /-- The value of an option is still to come. -/
  | expects (option : CommandOption α) (progress : Progress α)
  | help
  | version
  | misuse

/-- An argument by its form. -/
inductive ArgumentForm
  | word (text : String)
  /-- The end of the options. -/
  | terminator
  /-- A long name, with a value if there is one. -/
  | long (name : String) (value : Option String)
  | short (letters : List Char)

/-- The characters before the first equals sign, and those after it if there is one. -/
def cutAtEquals : List Char → List Char × Option (List Char)
  | [] => ([], none)
  | c :: rest =>
    if c = '=' then ([], some rest)
    else
      let (before, after) := cutAtEquals rest
      (c :: before, after)

/-- The form of an argument. A single hyphen is a word. -/
def ArgumentForm.of (argument : String) : ArgumentForm :=
  match argument.toList with
  | ['-', '-'] => .terminator
  | '-' :: '-' :: rest =>
    let (name, value) := cutAtEquals rest
    .long (String.ofList name) (value.map String.ofList)
  | '-' :: c :: rest => .short (c :: rest)
  | _ => .word argument

section

variable {α : Type} (options : List (CommandOption α))

/-- The step of an option that may have been given with a value. -/
def stepWith (option : CommandOption α) (value : Option String) (progress : Progress α) :
    ArgumentStep α :=
  match option.value, value with
  | none, some _ => .misuse
  | none, none =>
    match progress.with? option "" with
    | some progress => .taken progress
    | none => .misuse
  | some _, some value =>
    match progress.with? option value with
    | some progress => .taken progress
    | none => .misuse
  | some _, none => if progress.admits option then .expects option progress else .misuse

/-- Reads an option by its long name. -/
def readLong (name : String) (value : Option String) (progress : Progress α) : ArgumentStep α :=
  match options.find? (·.long = name) with
  | some option => stepWith option value progress
  | none =>
    match name, value with
    | "help", none => .help
    | "version", none => .version
    | _, _ => .misuse

/-- The value that follows a letter directly, if any does. -/
def attached : List Char → Option String
  | [] => none
  | '=' :: rest => some (String.ofList rest)
  | rest => some (String.ofList rest)

/-- Reads options by their letters. -/
def readShort : List Char → Progress α → ArgumentStep α
  | [], progress => .taken progress
  | letter :: rest, progress =>
    match options.find? (·.short = some letter) with
    | none => if letter = 'h' then .help else if letter = 'V' then .version else .misuse
    | some option =>
      if option.value.isSome then stepWith option (attached rest) progress
      else
        match stepWith option none progress with
        | .taken progress => readShort rest progress
        | other => other

/-- Reads arguments, of which `expected` is the option whose value has to come first. -/
def readArguments : List String → Option (CommandOption α) → Progress α → Reading α
  | [], none, progress => .settings progress.settings none
  | [], some _, _ => .misuse
  | argument :: rest, some option, progress =>
    match ArgumentForm.of argument with
    | .word value =>
      match progress.with? option value with
      | some progress => readArguments rest none progress
      | none => .misuse
    | _ => .misuse
  | argument :: rest, none, progress =>
    let next (step : ArgumentStep α) : Reading α :=
      match step with
      | .taken progress => readArguments rest none progress
      | .expects option progress => readArguments rest (some option) progress
      | .help => .help
      | .version => .version
      | .misuse => .misuse
    match ArgumentForm.of argument with
    | .word text => .settings progress.settings (some (text, rest))
    | .terminator => if rest.isEmpty then .settings progress.settings none else .misuse
    | .long name value => next (readLong options name value progress)
    | .short letters => next (readShort options letters progress)

/-- Reads the arguments of a command whose settings are `usual` without any. -/
def readOptions (usual : α) (arguments : List String) : Reading α :=
  readArguments options arguments none ⟨usual, []⟩

end

end InstantReplay.Cli
