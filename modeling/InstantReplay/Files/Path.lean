/-!
# Paths

A path is a text whose names are separated by slashes. It is absolute when it starts with one.
Empty names, and the name `.` unless a relative path starts with it, say nothing.
-/

namespace InstantReplay.Path

/-- The pieces of a text between the characters `mark`, at least one. -/
def split (mark : Char) : List Char → List (List Char)
  | [] => [[]]
  | c :: rest =>
    if c = mark then [] :: split mark rest
    else
      match split mark rest with
      | [] => [[c]]
      | piece :: pieces => (c :: piece) :: pieces

/-- The names between slashes, the empty ones too. -/
def pieces (path : String) : List String := (split '/' path.toList).map String.ofList

/-- Names with slashes between them. -/
def ofPieces (pieces : List String) : String := String.intercalate "/" pieces

/-- Whether a name says nothing. -/
def isVoid (name : String) : Bool := name == "" || name == "."

/-- Whether a path starts at the root. -/
def isAbsolute (path : String) : Bool := path.toList.head? == some '/'

/-- The names a path goes through from the root or from the directory it is taken from. -/
def names (path : String) : List String := (pieces path).filter (!isVoid ·)

/-- A relative path taken from the directory `base`. -/
def join (base path : String) : String :=
  if isAbsolute path then path
  else if base.isEmpty || base.toList.getLast? == some '/' then base ++ path
  else base ++ "/" ++ path

/-- Names without those at the end that say nothing. -/
def dropVoid (names : List String) : List String := (names.reverse.dropWhile isVoid).reverse

/-- The path without its last name: the directory that holds what the path names. The root and
the empty path have none. -/
def parent? (path : String) : Option String :=
  match isAbsolute path, pieces path with
  | true, root :: rest =>
    match dropVoid rest with
    | [] => none
    | kept =>
      match dropVoid kept.dropLast with
      | [] => some "/"
      | above => some (ofPieces (root :: above))
  | _, first :: rest =>
    match dropVoid rest with
    | [] => if first.isEmpty then none else some ""
    | kept => some (ofPieces (first :: dropVoid kept.dropLast))
  | _, [] => none

end InstantReplay.Path
