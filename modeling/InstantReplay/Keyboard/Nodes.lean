import InstantReplay.Keyboard.Listener
import InstantReplay.SystemError
import InstantReplay.Text.Quoted

/-!
# Finding keyboards

The nodes in the directory of input devices are asked what keys they have. Those with letters and
an enter key are keyboards.
-/

namespace InstantReplay

/-- An input device, as its node answers. -/
inductive InputNode
  /-- It cannot be asked. -/
  | refused (error : Errno)
  /-- Its name, its keys if it has any at all, and what else it has. -/
  | device (name : String) (keys : Option (List KeyCode)) (extras : Extras)
  deriving DecidableEq

namespace InputNode

/-- Whether a device is a keyboard. -/
def isKeyboard (keys : Option (List KeyCode)) : Bool :=
  keys.any fun keys => keys.contains KeyCode.letterA && keys.contains KeyCode.enter

/-- The longest name that is seen, in bytes. -/
def maxName : Nat := 255

/-- The first characters of a name, up to a number of bytes. -/
def cutName (left : Nat) : List Char → List Char
  | [] => []
  | c :: rest => if c.utf8Size ≤ left then c :: cutName (left - c.utf8Size) rest else []

/-- A device's name as it is shown. -/
def shownName (name : String) : String :=
  if name.isEmpty then "unknown" else String.ofList (cutName maxName name.toList)

end InputNode

/-- What the input devices and threads of a machine answer. -/
structure InputWorld where
  /-- The nodes in the directory of input devices. -/
  nodes : List (String × InputNode) := []
  /-- Refusals of the next requests to read without waiting. -/
  waitRefusals : List Errno := []
  /-- Refusals of the next requests for a thread. -/
  threadRefusals : List Errno := []

namespace InputWorld

/-- The next answer of a kind that may be a refusal. -/
def next (refusals : List Errno) : Option Errno × List Errno := (refusals.head?, refusals.tail)

/-- Whether text occurs in another. -/
def occursIn (text other : String) : Bool := 1 < (other.splitOn text).length

/-- Looks at a node: the keyboard to listen to, if it is one. -/
def consider (name : String) (node : InputNode) : Act InputWorld (Option Keyboard) := do
  let path := "/dev/input/" ++ name
  let shown := quoted path
  if !occursIn "event" path then return none
  match node with
  | .refused error =>
    Act.note (.trace ("Could not open " ++ shown ++ ": " ++ (IoError.os error).text))
    return none
  | .device title keys extras =>
    if !InputNode.isKeyboard keys then return none
    let refusal ← Act.step fun world =>
      let (refusal, rest) := next world.waitRefusals
      (refusal, { world with waitRefusals := rest })
    match refusal with
    | some error =>
      Act.note (.debug ("Skipping " ++ shown ++ ": " ++ (IoError.os error).text))
      return none
    | none =>
      Act.note
        (.debug ("Found keyboard device: " ++ shown ++ " - " ++ InputNode.shownName title))
      return some { node := name, extras := extras }

/-- The keyboards. -/
def keyboards : Act InputWorld (List Keyboard) := do
  (← Act.state).nodes.filterMapM fun (name, node) => consider name node

/-- Starts to listen for a hotkey on all keyboards. -/
def listen (hotkey : Hotkey) : Act InputWorld HotkeyListener := do
  let found ← keyboards
  if found.isEmpty then
    Act.note (.warn "Make sure you have permission to read /dev/input/event* devices.")
    Act.note (.warn "You may need to add your user to the 'input' group.")
    throw (.trigger "No keyboard devices found")
  let count := found.length
  Act.note (.info s!"Monitoring {count} keyboard device(s) for the save hotkey")
  let refusal ← Act.step fun world =>
    let (refusal, rest) := next world.threadRefusals
    (refusal, { world with threadRefusals := rest })
  match refusal with
  | some error =>
    throw (.trigger ("Failed to spawn hotkey thread: " ++ (IoError.os error).text))
  | none => return { hotkey := hotkey, keyboards := found }

end InputWorld

end InstantReplay
