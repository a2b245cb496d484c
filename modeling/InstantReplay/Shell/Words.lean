/-!
# Words of shell commands

A command is read character by character. Blanks end a word; quotes and backslashes take their
meaning from characters, between double quotes all but that of dollar signs; a dollar sign starts
the name of a variable.
-/

namespace InstantReplay

/-- A part of a word. -/
inductive ShellPart
  /-- A character that stands for itself. -/
  | char (c : Char)
  /-- The value of a variable. -/
  | value (name : String) (quoted : Bool)
  /-- A quote was opened, so there is a word even if nothing is in it. -/
  | quote
  deriving DecidableEq

/-- What a command consists of. -/
inductive ShellToken
  | word (parts : List ShellPart)
  /-- `;` or the end of a line. -/
  | next
  /-- `&&` -/
  | andThen
  /-- `||` -/
  | orElse
  /-- `>` -/
  | into
  /-- `>>` -/
  | onto
  deriving DecidableEq

/-- Where the reader of a command stands. -/
inductive ShellMode
  /-- Between words. -/
  | blank
  /-- In a word, outside quotes. -/
  | word
  /-- After a backslash outside quotes. -/
  | escaped
  | single
  | double
  /-- After a backslash between double quotes. -/
  | doubleEscaped
  /-- In the name of a variable; what was read of it is given backwards. -/
  | name (quoted : Bool) (before : List Char)
  /-- In the name of a variable in braces. -/
  | braced (quoted : Bool) (before : List Char)
  /-- After a character that may be half of an operator. -/
  | operator (first : Char)
  /-- In a comment. -/
  | comment
  deriving DecidableEq

/-- A command read so far: the tokens, and the parts of the word that is being read, both
backwards. -/
structure ShellScan where
  mode : ShellMode := .blank
  parts : List ShellPart := []
  tokens : List ShellToken := []
  deriving DecidableEq

namespace ShellScan

/-- The scan with one more part of the word, in a new mode. -/
def push (scan : ShellScan) (part : ShellPart) (mode : ShellMode) : ShellScan :=
  { scan with mode := mode, parts := part :: scan.parts }

/-- The scan with the word that is being read, if any, ended. -/
def endWord (scan : ShellScan) : ShellScan :=
  match scan.mode with
  | .word => { mode := .blank, tokens := .word scan.parts.reverse :: scan.tokens }
  | _ => { scan with mode := .blank }

/-- The scan after a character outside quotes. -/
def outside (scan : ShellScan) (c : Char) : ShellScan :=
  match c with
  | '\'' => scan.push .quote .single
  | '"' => scan.push .quote .double
  | '\\' => { scan with mode := .escaped }
  | '$' => { scan with mode := .name false [] }
  | ' ' | '\t' => scan.endWord
  | '\n' | ';' =>
    let ended := scan.endWord
    { ended with tokens := .next :: ended.tokens }
  | '&' | '|' | '>' => { scan.endWord with mode := .operator c }
  | '#' => if scan.mode = .blank then { scan with mode := .comment } else scan.push (.char c) .word
  | c => scan.push (.char c) .word

/-- Whether a character can be in the name of a variable. -/
def isNameChar (c : Char) : Bool := c.isAlphanum || c == '_'

/-- The mode after a name. -/
def around (quoted : Bool) : ShellMode := if quoted then .double else .word

/-- The scan after a character between double quotes. -/
def inside (scan : ShellScan) (c : Char) : ShellScan :=
  match c with
  | '"' => { scan with mode := .word }
  | '\\' => { scan with mode := .doubleEscaped }
  | '$' => { scan with mode := .name true [] }
  | c => scan.push (.char c) .double

/-- The scan after a character in the name of a variable. A dollar sign before anything but a name
stands for itself. -/
def inName (scan : ShellScan) (quoted : Bool) (before : List Char) (c : Char) : ShellScan :=
  if isNameChar c then { scan with mode := .name quoted (c :: before) }
  else if before.isEmpty ∧ (c = '$' ∨ c = '?') then
    scan.push (.value (String.singleton c) quoted) (around quoted)
  else if before.isEmpty ∧ c = '\x7b' then { scan with mode := .braced quoted [] }
  else
    let part :=
      if before.isEmpty then ShellPart.char '$'
      else .value (String.ofList before.reverse) quoted
    let scan := scan.push part (around quoted)
    if quoted then scan.inside c else scan.outside c

/-- The scan after a character. -/
def step (scan : ShellScan) (c : Char) : ShellScan :=
  match scan.mode with
  | .blank | .word => scan.outside c
  | .escaped => if c = '\n' then { scan with mode := .word } else scan.push (.char c) .word
  | .single => if c = '\'' then { scan with mode := .word } else scan.push (.char c) .single
  | .double => scan.inside c
  | .doubleEscaped =>
    if c = '$' ∨ c = '"' ∨ c = '\\' ∨ c = '\x60' then scan.push (.char c) .double
    else (scan.push (.char '\\') .double).push (.char c) .double
  | .name quoted before => scan.inName quoted before c
  | .braced quoted before =>
    if c = '\x7d' then scan.push (.value (String.ofList before.reverse) quoted) (around quoted)
    else { scan with mode := .braced quoted (c :: before) }
  | .operator first =>
    match first, c with
    | '&', '&' => { scan with mode := .blank, tokens := .andThen :: scan.tokens }
    | '|', '|' => { scan with mode := .blank, tokens := .orElse :: scan.tokens }
    | '>', '>' => { scan with mode := .blank, tokens := .onto :: scan.tokens }
    | '>', c => { scan with mode := .blank, tokens := .into :: scan.tokens : ShellScan }.outside c
    | _, c => { scan with mode := .blank, tokens := .next :: scan.tokens : ShellScan }.outside c
  | .comment => if c = '\n' then { scan with mode := .blank, tokens := .next :: scan.tokens }
    else scan

/-- The tokens of a command; nothing if a quote is still open at its end. -/
def tokens? (command : List Char) : Option (List ShellToken) :=
  let scan := (command ++ ['\n']).foldl step {}
  match scan.mode with
  | .blank => some scan.tokens.reverse
  | _ => none

end ShellScan

end InstantReplay
