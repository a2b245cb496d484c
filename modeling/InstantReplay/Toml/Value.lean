/-!
# TOML values

The values of a TOML document. A table remembers how it was written, because that decides which
later lines may add to it.
-/

namespace InstantReplay

/-- How a table came to be. -/
inductive TableForm
  /-- Only named on the way to a table with a header. -/
  | implied
  /-- Made by a dotted key. -/
  | dotted
  /-- Under a header of its own. -/
  | headed
  /-- Written in braces. -/
  | inline
  deriving DecidableEq

/-- A value. Numbers with a fraction and dates are kept as they were written. -/
inductive TomlValue
  | string (text : String)
  | integer (value : Int)
  | float (text : String)
  | boolean (value : Bool)
  | date (text : String)
  | array (items : List TomlValue)
  | table (form : TableForm) (entries : List (String × TomlValue))
  /-- Tables that share a header in double brackets. -/
  | tables (items : List (List (String × TomlValue)))

/-- The keys and values of a table, in the order in which the keys appeared. -/
abbrev TomlEntries := List (String × TomlValue)

namespace TomlEntries

/-- The value under a key. -/
def value? (key : String) (entries : TomlEntries) : Option TomlValue :=
  (entries.find? (·.1 = key)).map (·.2)

/-- The entries with the value under a key exchanged. -/
def replace (key : String) (value : TomlValue) (entries : TomlEntries) : TomlEntries :=
  entries.map fun entry => if entry.1 = key then (key, value) else entry

/-- The entries with the table at the end of a path changed. Tables on the way that are missing
are made; of tables that share a header the last one is meant. A dotted key cannot reach into a
table that has a header of its own, and nothing reaches into a table in braces. -/
def change (byDots : Bool) (change : TableForm → TomlEntries → Option TomlEntries) :
    List String → TableForm → TomlEntries → Option TomlEntries
  | [], form, entries => change form entries
  | key :: path, _, entries =>
    match entries.value? key with
    | none => do
      let form := if byDots then .dotted else .implied
      let inner ← TomlEntries.change byDots change path form []
      return entries ++ [(key, .table form inner)]
    | some (.table form inner) =>
      if form = .inline ∨ byDots ∧ form = .headed then none
      else do
        let inner ← TomlEntries.change byDots change path form inner
        return entries.replace key (.table form inner)
    | some (.tables items) => do
      let last ← TomlEntries.change byDots change path .headed (← items.getLast?)
      return entries.replace key (.tables (items.dropLast ++ [last]))
    | some _ => none

/-- Puts a new value under a dotted key. A key without dots cannot be added to a table that was
made by dots, nor one with dots to a table that was not. -/
def define (path : List String) (key : String) (value : TomlValue) (entries : TomlEntries) :
    Option TomlEntries :=
  entries.change true (fun form inner =>
    if decide (form = .dotted) == path.isEmpty then none
    else if (inner.value? key).isSome then none
    else some (inner ++ [(key, value)])) path .headed

/-- Starts the table of a header. A table that was only implied keeps what it holds. -/
def openTable (path : List String) (key : String) (entries : TomlEntries) : Option TomlEntries :=
  entries.change false (fun _ inner =>
    match inner.value? key with
    | none => some (inner ++ [(key, .table .headed [])])
    | some (.table .implied held) => some (inner.replace key (.table .headed held))
    | some _ => none) path .headed

/-- Starts one more of the tables that share a header. -/
def openNext (path : List String) (key : String) (entries : TomlEntries) : Option TomlEntries :=
  entries.change false (fun _ inner =>
    match inner.value? key with
    | none => some (inner ++ [(key, .tables [[]])])
    | some (.tables items) => some (inner.replace key (.tables (items ++ [[]])))
    | some _ => none) path .headed

end TomlEntries

end InstantReplay
