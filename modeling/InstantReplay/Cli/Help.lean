import InstantReplay.Cli.Grammar
import InstantReplay.Text.Numeral

/-!
# Help

The text that says how a command is used: what it does, its usage, the commands below it and its
options, in columns.
-/

namespace InstantReplay.Cli

/-- A row of a table: a name, and what it means. -/
abbrev HelpRow := String × String

/-- What the help of a command says. -/
structure HelpPage where
  about : String
  usage : String
  commands : List HelpRow := []
  arguments : List HelpRow := []
  options : List HelpRow

/-- A text with blanks after it, up to a width. -/
def paddedTo (width : Nat) (text : String) : String :=
  text ++ String.ofList (List.replicate (width - text.length) ' ')

/-- The names of an option, with its value. -/
def CommandOption.label {α : Type} (option : CommandOption α) : String :=
  let letter :=
    match option.short with
    | some letter => "-" ++ String.singleton letter ++ ", "
    | none => "    "
  let value :=
    match option.value with
    | some name => " <" ++ name ++ ">"
    | none => if option.repeats then "..." else ""
  letter ++ "--" ++ option.long ++ value

/-- The row of an option. -/
def CommandOption.row {α : Type} (option : CommandOption α) : HelpRow :=
  let about :=
    match option.usual with
    | some value => option.about ++ " [default: " ++ value ++ "]"
    | none => option.about
  (option.label, about)

/-- The rows that every command has. -/
def commonRows : List HelpRow := [("-h, --help", "Print help"), ("-V, --version", "Print version")]

/-- The row of the command that prints help. -/
def helpRow : HelpRow := ("help", "Print this message or the help of the given subcommand(s)")

/-- The page of that command, which has no options; `path` stands before its name. -/
def helpOnHelp (path : String) : HelpPage where
  about := helpRow.2
  usage := path ++ " help [COMMAND]..."
  arguments := [("[COMMAND]...", "Print help for the subcommand(s)")]
  options := []

namespace HelpPage

/-- The lines of a table under its title. -/
def table (title : String) (rows : List HelpRow) : List String :=
  let width := (rows.map (·.1.length)).foldl max 0
  if rows.isEmpty then []
  else "" :: title :: rows.map fun (name, about) => "  " ++ paddedTo width name ++ "  " ++ about

/-- The text of the page. -/
def text (page : HelpPage) : String :=
  let lines := [page.about, "", "Usage: " ++ page.usage] ++
    table "Commands:" page.commands ++ table "Arguments:" page.arguments ++
    table "Options:" page.options
  String.join (lines.map (· ++ "\n"))

end HelpPage

end InstantReplay.Cli
