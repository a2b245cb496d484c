import InstantReplay.Failure
import InstantReplay.Files.Path
import InstantReplay.Text.Blank
import InstantReplay.Text.Numeral

/-!
# Device names

A device is named by a graphics card and one of its planes, as in `card0:31`. Without a plane one
is chosen; `auto`, or no name at all, means the first card.
-/

namespace InstantReplay

/-- A graphics card, and the plane to capture if it is not to be chosen. -/
structure DeviceName where
  card : String
  plane : Option UInt32
  deriving DecidableEq

namespace DeviceName

/-- The directory of the cards. -/
def directory : String := "/dev/dri"

/-- The card when none is named. -/
def defaultCard : String := "card0"

/-- A text in lower case, where only the letters `A` to `Z` have one. -/
def lowerAscii (text : List Char) : List Char := text.map Char.toLower

/-- The characters before the first colon, and those after it if there is one. -/
def cut : List Char → List Char × Option (List Char)
  | [] => ([], none)
  | c :: rest =>
    if c = ':' then ([], some rest)
    else
      let (before, after) := cut rest
      (c :: before, after)

/-- The failure of a plane that is no number. -/
def badPlane (name : String) : Failure :=
  .capture s!"Invalid plane id in device name '{name}'"

/-- The failure of a card that has no name or one with a slash. -/
def badCard (name : String) : Failure :=
  .capture s!"Invalid card name in device name '{name}'"

/-- The card part of a name, if it can be one. -/
def checkCard (name : String) (card : List Char) (plane : Option UInt32) :
    Except Failure DeviceName :=
  if card.isEmpty ∨ '/' ∈ card then .error (badCard name)
  else .ok ⟨String.ofList card, plane⟩

/-- Reads a device name. -/
def parse (text : String) : Except Failure DeviceName :=
  let chars := trim text.toList
  let name := String.ofList chars
  if chars.isEmpty ∨ lowerAscii chars = ['a', 'u', 't', 'o'] then .ok ⟨defaultCard, none⟩
  else
    match cut chars with
    | (card, none) => checkCard name card none
    | (card, some digits) =>
      match Numeral.word32? digits with
      | none => .error (badPlane name)
      | some plane => checkCard name card (some plane)

/-- The name as it is shown. -/
def text (name : DeviceName) : String :=
  match name.plane with
  | some plane => name.card ++ ":" ++ toString plane.toNat
  | none => name.card

/-- The path of the card. -/
def path (name : DeviceName) : String := Path.join directory name.card

end DeviceName

end InstantReplay
