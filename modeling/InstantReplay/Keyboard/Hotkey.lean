import InstantReplay.Failure
import InstantReplay.Text.Blank
import InstantReplay.Text.LowerCase

/-!
# Hotkeys

A hotkey is a key together with keys that have to be held. It is written as names joined by plus
signs, in any order and in capital or small letters: `ctrl+shift+f9`.
-/

namespace InstantReplay

/-- The number of a key. -/
abbrev KeyCode := Nat

namespace KeyCode

/-- The keys that are held with others: their names, the left key and the right one. -/
def holders : List (List String × KeyCode × KeyCode) :=
  [(["ctrl", "control"], 29, 97), (["alt"], 56, 100), (["shift"], 42, 54),
   (["super", "meta", "win"], 125, 126)]

/-- The names of the other keys that a hotkey can have. -/
def names : List (String × KeyCode) :=
  [("f1", 59), ("f2", 60), ("f3", 61), ("f4", 62), ("f5", 63), ("f6", 64), ("f7", 65), ("f8", 66),
   ("f9", 67), ("f10", 68), ("f11", 87), ("f12", 88),
   ("1", 2), ("2", 3), ("3", 4), ("4", 5), ("5", 6), ("6", 7), ("7", 8), ("8", 9), ("9", 10),
   ("0", 11),
   ("a", 30), ("b", 48), ("c", 46), ("d", 32), ("e", 18), ("f", 33), ("g", 34), ("h", 35),
   ("i", 23), ("j", 36), ("k", 37), ("l", 38), ("m", 50), ("n", 49), ("o", 24), ("p", 25),
   ("q", 16), ("r", 19), ("s", 31), ("t", 20), ("u", 22), ("v", 47), ("w", 17), ("x", 45),
   ("y", 21), ("z", 44),
   ("space", 57), ("enter", 28), ("return", 28), ("escape", 1), ("esc", 1), ("tab", 15),
   ("insert", 110), ("ins", 110), ("delete", 111), ("del", 111), ("home", 102), ("end", 107),
   ("pageup", 104), ("pgup", 104), ("pagedown", 109), ("pgdn", 109),
   ("printscreen", 99), ("print", 99), ("prtsc", 99), ("pause", 119), ("scrolllock", 70)]

/-- The key `a`. -/
def letterA : KeyCode := 30

/-- The key that ends a line. -/
def enter : KeyCode := 28

/-- The left key of those that are held, by name. -/
def holder? (name : String) : Option KeyCode :=
  (holders.find? fun (names, _, _) => name ∈ names).map fun (_, left, _) => left

/-- Another key, by name. -/
def named? (name : String) : Option KeyCode := names.lookup name

/-- The keys that count as a key that has to be held: the left one stands for both. -/
def variants (key : KeyCode) : List KeyCode :=
  match holders.find? fun (_, left, _) => left = key with
  | some (_, left, right) => [left, right]
  | none => [key]

end KeyCode

/-- A key, and the keys that have to be held with it, in ascending order and each once. -/
structure Hotkey where
  modifiers : List KeyCode
  key : KeyCode
  deriving DecidableEq

namespace Hotkey

/-- A key added to a list in ascending order, unless it is there. -/
def insert (key : KeyCode) : List KeyCode → List KeyCode
  | [] => [key]
  | first :: rest =>
    if key < first then key :: first :: rest
    else if key = first then first :: rest
    else first :: insert key rest

/-- A hotkey of any keys. -/
def make (modifiers : List KeyCode) (key : KeyCode) : Hotkey :=
  ⟨modifiers.foldl (fun sorted modifier => insert modifier sorted) [], key⟩

/-- The parts of the text of a hotkey: in small letters, without blanks around them. -/
def parts (text : String) : List String :=
  ((lowerCase text).toList.splitOn '+').map fun part => String.ofList (trim part)

/-- What parts that were read so far name: the keys to be held, and the key. -/
structure Reading where
  modifiers : List KeyCode := []
  key : Option KeyCode := none

/-- The reading after one more part of the hotkey `text`. -/
def read (text : String) (reading : Reading) (part : String) : Except Failure Reading :=
  match KeyCode.holder? part with
  | some modifier => .ok { reading with modifiers := reading.modifiers ++ [modifier] }
  | none =>
    if part.isEmpty then .error (.config s!"Empty key in hotkey '{text}'")
    else if reading.key.isSome then .error (.config s!"Hotkey '{text}' names more than one key")
    else
      match KeyCode.named? part with
      | some key => .ok { reading with key := some key }
      | none => .error (.config s!"Unknown key: {part}")

/-- The hotkey that a text names. -/
def parse (text : String) : Except Failure Hotkey := do
  let reading ← (parts text).foldlM (read text) {}
  match reading.key with
  | some key => return make reading.modifiers key
  | none => throw (.config "No key specified in hotkey")

/-- Whether the keys that are down are those of the hotkey; others may be down too. -/
def fires (hotkey : Hotkey) (down : List KeyCode) : Bool :=
  down.contains hotkey.key &&
    hotkey.modifiers.all fun modifier => (KeyCode.variants modifier).any down.contains

end Hotkey

end InstantReplay
