import InstantReplay.Toml.Scalar

/-!
# TOML documents

A document is a list of statements: headers that open tables, and keys with values. The statements
are read first; `TomlDocument.build?` then makes the tables, and refuses a document that defines
something twice. `TomlDocument.parse?` does both.
-/

namespace InstantReplay

/-- A line of a document that says something. -/
inductive TomlStatement
  /-- `[path.key]` -/
  | header (path : List String) (key : String)
  /-- `[[path.key]]` -/
  | nextHeader (path : List String) (key : String)
  /-- `path.key = value` -/
  | assign (path : List String) (key : String) (value : TomlValue)

namespace TomlDocument

open TomlText (isGap isPlain)

/-- How deep keys and values may be nested. -/
def depthLimit : Nat := 79

/-- The characters with each line feed alone at its line's end. -/
def joinLineEnds : List Char → List Char
  | '\r' :: '\n' :: rest => '\n' :: joinLineEnds rest
  | c :: rest => c :: joinLineEnds rest
  | [] => []

/-- The characters without the gaps at their start. -/
def skipGaps (chars : List Char) : List Char := chars.dropWhile isGap

/-- The characters without the gaps, comments and line ends at their start. The flag says whether
they start inside a comment. -/
def skipSpace (inComment : Bool) : List Char → List Char
  | [] => []
  | c :: rest =>
    if c == '\n' then skipSpace false rest
    else if inComment then if isPlain c then skipSpace true rest else c :: rest
    else if isGap c then skipSpace false rest
    else if c == '#' then skipSpace true rest
    else c :: rest

/-- What follows the end of a line, before which gaps and a comment may stand. -/
def lineEnd? (chars : List Char) : Option (List Char) :=
  let rest :=
    match skipGaps chars with
    | '#' :: comment => comment.dropWhile isPlain
    | rest => rest
  match rest with
  | [] => some []
  | '\n' :: rest => some rest
  | _ => none

/-- Whether a character can stand in a key without quotes. -/
def isBare (c : Char) : Bool := c.isAlphanum || c == '-' || c == '_'

/-- One part of a key, and what follows. -/
def keyPart? (chars : List Char) : Option (String × List Char) :=
  match chars with
  | '"' :: _ | '\'' :: _ => TomlText.readShort? chars
  | chars =>
    match chars.takeWhile isBare with
    | [] => none
    | found => some (String.ofList found, chars.dropWhile isBare)

/-- The parts of a key, and what follows. -/
def keyParts? : Nat → List Char → Option (List String × List Char)
  | 0, _ => none
  | fuel + 1, chars => do
    let (part, rest) ← keyPart? (skipGaps chars)
    match skipGaps rest with
    | '.' :: rest =>
      let (parts, rest) ← keyParts? fuel rest
      return (part :: parts, rest)
    | rest => return ([part], rest)

/-- A key: the path to it, its last part, and what follows. -/
def key? (chars : List Char) : Option ((List String × String) × List Char) := do
  let (parts, rest) ← keyParts? depthLimit chars
  return ((parts.dropLast, ← parts.getLast?), rest)

/-- What follows a character. -/
def after? (c : Char) : List Char → Option (List Char)
  | d :: rest => if c = d then some rest else none
  | [] => none

mutual

/-- A value and what follows it. `depth` is how deep it may be nested, `fuel` bounds how many
values are read. -/
def value? : (fuel depth : Nat) → List Char → Option (TomlValue × List Char)
  | 0, _, _ => none
  | fuel + 1, depth, chars =>
    match chars with
    | '"' :: _ | '\'' :: _ => do
      let (text, rest) ← TomlText.read? chars
      return (.string text, rest)
    | '[' :: rest =>
      match depth with
      | 0 => none
      | depth + 1 =>
        match skipSpace false rest with
        | ']' :: rest => some (.array [], rest)
        | rest => do
          let (items, rest) ← items? fuel depth rest
          return (.array items, rest)
    | '{' :: rest =>
      match depth with
      | 0 => none
      | depth + 1 =>
        match skipGaps rest with
        | '}' :: rest => some (.table .inline [], rest)
        | rest => do
          let (entries, rest) ← fields? fuel depth [] rest
          return (.table .inline entries, rest)
    | chars => TomlScalar.read? chars

/-- The items of an array up to its end; a comma may follow the last. -/
def items? : (fuel depth : Nat) → List Char → Option (List TomlValue × List Char)
  | 0, _, _ => none
  | fuel + 1, depth, chars => do
    let (item, rest) ← value? fuel depth chars
    match skipSpace false rest with
    | ']' :: rest => return ([item], rest)
    | ',' :: rest =>
      match skipSpace false rest with
      | ']' :: rest => return ([item], rest)
      | rest =>
        let (items, rest) ← items? fuel depth rest
        return (item :: items, rest)
    | _ => none

/-- The entries of a table in braces up to its end, after those that were read before. -/
def fields? : (fuel depth : Nat) → TomlEntries → List Char → Option (TomlEntries × List Char)
  | 0, _, _, _ => none
  | fuel + 1, depth, before, chars => do
    let ((path, key), rest) ← key? chars
    let (value, rest) ← value? fuel depth (skipGaps (← after? '=' rest))
    let entries ← before.define path key value
    match skipGaps rest with
    | '}' :: rest => return (entries, rest)
    | ',' :: rest => fields? fuel depth entries rest
    | _ => none

end

/-- The statement that starts here, and the lines after it. -/
def statement? (chars : List Char) : Option (TomlStatement × List Char) :=
  match chars with
  | '[' :: '[' :: rest => do
    let ((path, key), rest) ← key? rest
    return (.nextHeader path key, ← lineEnd? (← after? ']' (← after? ']' rest)))
  | '[' :: rest => do
    let ((path, key), rest) ← key? rest
    return (.header path key, ← lineEnd? (← after? ']' rest))
  | chars => do
    let ((path, key), rest) ← key? chars
    let rest := skipGaps (← after? '=' rest)
    let (value, rest) ← value? (rest.length + 1) depthLimit rest
    return (.assign path key value, ← lineEnd? rest)

/-- The statements of a document. The number bounds how many lines are read. -/
def statements? : Nat → List Char → Option (List TomlStatement)
  | 0, _ => none
  | fuel + 1, chars =>
    match skipGaps chars with
    | [] => some []
    | '\n' :: rest => statements? fuel rest
    | '#' :: rest => do statements? fuel (← lineEnd? ('#' :: rest))
    | rest => do
      let (statement, rest) ← statement? rest
      return statement :: (← statements? fuel rest)

/-- The root table after a statement, and the path of the table that is open then. -/
def apply (root : TomlEntries) (opened : List String) :
    TomlStatement → Option (TomlEntries × List String)
  | .header path key => do return (← root.openTable path key, path ++ [key])
  | .nextHeader path key => do return (← root.openNext path key, path ++ [key])
  | .assign path key value => do
    return (← root.change false (fun _ inner => inner.define path key value) opened .headed,
      opened)

/-- The root table after statements. -/
def buildFrom (root : TomlEntries) (opened : List String) :
    List TomlStatement → Option TomlEntries
  | [] => some root
  | statement :: rest => do
    let (root, opened) ← apply root opened statement
    buildFrom root opened rest

/-- The root table that statements define. -/
def build? (statements : List TomlStatement) : Option TomlEntries := buildFrom [] [] statements

/-- The text after a mark of byte order at its start. -/
def dropMark : List Char → List Char
  | '\ufeff' :: rest => rest
  | chars => chars

/-- The root table of a document. -/
def parse? (text : String) : Option TomlEntries := do
  let chars := joinLineEnds (dropMark text.toList)
  build? (← statements? (chars.length + 1) chars)

end TomlDocument

end InstantReplay
