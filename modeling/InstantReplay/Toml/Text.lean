import InstantReplay.Text.Numeral

/-!
# TOML strings

A string is written in one of four ways: between quotation marks, where a backslash starts an
escape, or between apostrophes, where nothing is escaped; each on one line or, between three marks,
on several. `TomlText.read?` reads all four, `TomlText.write` picks one for a text.

Lines end in a line feed here; a carriage return is never part of a string as it is written.
-/

namespace InstantReplay.TomlText

/-- Whether a character can stand in a comment or in a string. A tab can, other control characters
cannot. -/
def isPlain (c : Char) : Bool := c == '\t' || (' ' ≤ c && c ≠ '\x7f')

/-- Whether a character separates things on a line. -/
def isGap (c : Char) : Bool := c == ' ' || c == '\t'

/-- The value of a hexadecimal digit of either case. -/
def hexValue? (c : Char) : Option Nat :=
  if '0' ≤ c ∧ c ≤ '9' then some (c.toNat - 48)
  else if 'a' ≤ c ∧ c ≤ 'f' then some (c.toNat - 87)
  else if 'A' ≤ c ∧ c ≤ 'F' then some (c.toNat - 55)
  else none

/-- The character of a code, if the code is one. -/
def charOf? (code : Nat) : Option Char :=
  if code.isValidChar then some (Char.ofNat code) else none

/-- What a letter after a backslash stands for. -/
def escapeOf? (c : Char) : Option Char :=
  match c with
  | 'b' => some '\x08'
  | 't' => some '\t'
  | 'n' => some '\n'
  | 'f' => some '\x0c'
  | 'r' => some '\r'
  | '"' => some '"'
  | '\\' => some '\\'
  | _ => none

/-- Where the reader of a string with escapes stands. -/
inductive Place
  | plain
  /-- After a backslash. -/
  | escape
  /-- In a code, before `left + 1` more digits. -/
  | code (left value : Nat)
  /-- After a backslash and gaps: the line has to end. -/
  | lineEnd
  /-- In the gaps and line ends after a backslash at the end of a line. -/
  | joining

/-- The length of the run of a mark at the start, and what follows it. -/
def run (mark : Char) (chars : List Char) : Nat × List Char :=
  ((chars.takeWhile (· == mark)).length, chars.dropWhile (· == mark))

/-- The end of a string between three marks: how many marks before the last three belong to the
text, and what follows. There are at most two. -/
def ending? (mark : Char) (chars : List Char) : Option (Nat × List Char) :=
  let (length, rest) := run mark chars
  if length < 3 then none
  else
    let taken := min length 5
    some (taken - 3, List.replicate (length - taken) mark ++ rest)

/-- The text up to the closing quotation marks, and what follows. `long` says that there are three
of them. The part read before is given backwards. -/
def readEscaped (long : Bool) (before : List Char) : Place → List Char →
    Option (List Char × List Char)
  | _, [] => none
  | .escape, c :: rest =>
    if c == 'u' then readEscaped long before (.code 3 0) rest
    else if c == 'U' then readEscaped long before (.code 7 0) rest
    else if long && isGap c then readEscaped long before .lineEnd rest
    else if long && c == '\n' then readEscaped long before .joining rest
    else
      match escapeOf? c with
      | some meant => readEscaped long (meant :: before) .plain rest
      | none => none
  | .code left value, c :: rest =>
    match hexValue? c with
    | none => none
    | some digit =>
      match left with
      | left + 1 => readEscaped long before (.code left (value * 16 + digit)) rest
      | 0 =>
        match charOf? (value * 16 + digit) with
        | some meant => readEscaped long (meant :: before) .plain rest
        | none => none
  | .lineEnd, c :: rest =>
    if isGap c then readEscaped long before .lineEnd rest
    else if c == '\n' then readEscaped long before .joining rest
    else none
  | .plain, c :: rest =>
    if c == '\\' then readEscaped long before .escape rest
    else if c == '"' then
      if long then
        match ending? '"' (c :: rest) with
        | some (extra, rest) => some (before.reverse ++ List.replicate extra '"', rest)
        | none => readEscaped long (c :: before) .plain rest
      else some (before.reverse, rest)
    else if isPlain c || (long && c == '\n') then readEscaped long (c :: before) .plain rest
    else none
  | .joining, c :: rest =>
    if isGap c || c == '\n' then readEscaped long before .joining rest
    else if c == '\\' then readEscaped long before .escape rest
    else if c == '"' then
      match ending? '"' (c :: rest) with
      | some (extra, rest) => some (before.reverse ++ List.replicate extra '"', rest)
      | none => readEscaped long (c :: before) .plain rest
    else if isPlain c then readEscaped long (c :: before) .plain rest
    else none

/-- The text up to the closing apostrophes, and what follows. `long` says that there are three of
them. The part read before is given backwards. -/
def readLiteral (long : Bool) (before : List Char) : List Char → Option (List Char × List Char)
  | [] => none
  | c :: rest =>
    if c == '\'' then
      if long then
        match ending? '\'' (c :: rest) with
        | some (extra, rest) => some (before.reverse ++ List.replicate extra '\'', rest)
        | none => readLiteral long (c :: before) rest
      else some (before.reverse, rest)
    else if isPlain c || (long && c == '\n') then readLiteral long (c :: before) rest
    else none

/-- The characters without a line feed at their start. -/
def dropLineFeed : List Char → List Char
  | '\n' :: rest => rest
  | chars => chars

/-- A string on one line, and what follows. -/
def readShort? : List Char → Option (String × List Char)
  | '"' :: rest => do
    let (text, rest) ← readEscaped false [] .plain rest
    return (String.ofList text, rest)
  | '\'' :: rest => do
    let (text, rest) ← readLiteral false [] rest
    return (String.ofList text, rest)
  | _ => none

/-- A string, and what follows. A line feed right after three opening marks is no part of it. -/
def read? : List Char → Option (String × List Char)
  | '"' :: '"' :: '"' :: rest => do
    let (text, rest) ← readEscaped true [] .plain (dropLineFeed rest)
    return (String.ofList text, rest)
  | '\'' :: '\'' :: '\'' :: rest => do
    let (text, rest) ← readLiteral true [] (dropLineFeed rest)
    return (String.ofList text, rest)
  | chars => readShort? chars

/-- The longest run of a mark, when `current` of them come before. -/
def longestRun (mark : Char) (current : Nat) : List Char → Nat
  | [] => current
  | c :: rest =>
    if c == mark then longestRun mark (current + 1) rest
    else max current (longestRun mark 0 rest)

/-- Whether a character has to be written as an escape. -/
def needsEscape (c : Char) : Bool := !isPlain c && c ≠ '\n'

/-- A character between quotation marks. A line feed is written as it is on several lines, and up
to `marks` quotation marks in a row are. `seen` of them come before. -/
def writeChar (long : Bool) (marks seen : Nat) (c : Char) : List Char :=
  match c with
  | '\x08' => ['\\', 'b']
  | '\t' => ['\\', 't']
  | '\n' => if long then ['\n'] else ['\\', 'n']
  | '\x0c' => ['\\', 'f']
  | '\r' => ['\\', 'r']
  | '\\' => ['\\', '\\']
  | '"' => if seen < marks then ['"'] else ['\\', '"']
  | c =>
    if needsEscape c then '\\' :: 'u' :: (Numeral.hexDigits 4 c.toNat).map Char.toUpper else [c]

/-- A text between quotation marks, when `seen` quotation marks that were written as they are come
right before. -/
def writeEscaped (long : Bool) (marks seen : Nat) : List Char → List Char
  | [] => []
  | c :: rest =>
    let now := if c == '"' ∧ seen < marks then seen + 1 else 0
    writeChar long marks seen c ++ writeEscaped long marks now rest

/-- A text as a string: between quotation marks where that needs no escapes, else between
apostrophes where that is possible, and on several lines where that helps. -/
def write (text : String) : String :=
  let chars := text.toList
  let codes := chars.any needsEscape
  let backslash := chars.any (· == '\\')
  let quotes := longestRun '"' 0 chars
  let apostrophes := longestRun '\'' 0 chars
  let lines := chars.any (· == '\n')
  let start := if lines then ['\n'] else []
  let short := ['"'] ++ writeEscaped false 0 0 chars ++ ['"']
  let long := ['"', '"', '"'] ++ start ++ writeEscaped true 2 0 chars ++ ['"', '"', '"']
  let written :=
    if !codes && !backslash && quotes = 0 && !lines then short
    else if !codes && apostrophes = 0 && !lines then ['\''] ++ chars ++ ['\'']
    else if !codes && !backslash && quotes ≤ 2 then long
    else if !codes && apostrophes ≤ 2 then
      ['\'', '\'', '\''] ++ start ++ chars ++ ['\'', '\'', '\'']
    else if lines then long
    else short
  String.ofList written

end InstantReplay.TomlText
