/-!
# Shell words

A text between single quotes is one word for the shell, whatever it holds; only a single quote
itself has to be written outside the quotes, behind a backslash.
-/

namespace InstantReplay.ShellQuote

/-- A character between single quotes; a single quote ends them, stands escaped, and starts them
again. -/
def escape (c : Char) : List Char := if c = '\'' then ['\'', '\\', '\'', '\''] else [c]

/-- A text as one word for the shell. -/
def quote (text : List Char) : List Char := '\'' :: text.flatMap escape ++ ['\'']

/-- The place that the path of a saved file takes in a command. -/
def placeholder : List Char := ['\x7b', 'f', 'i', 'l', 'e', '\x7d']

/-- `text` with every occurrence of `placeholder` replaced, found from the left. -/
def fill (value : List Char) : List Char → List Char
  | '\x7b' :: 'f' :: 'i' :: 'l' :: 'e' :: '\x7d' :: rest => value ++ fill value rest
  | c :: rest => c :: fill value rest
  | [] => []

/-- The command with the quoted path of the saved file in place of each placeholder. -/
def command (template path : String) : String :=
  String.ofList (fill (quote path.toList) template.toList)

end InstantReplay.ShellQuote
