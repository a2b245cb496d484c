import InstantReplay.Failure
import InstantReplay.Files.Home
import InstantReplay.Template.Render
import InstantReplay.Text.Blank

/-!
# Output names

Replays are saved under names made from the time of the save. An `OutputName` holds a time format
that was read without complaint; rendering it for a moment gives the path of a file.
-/

namespace InstantReplay

/-- A time format for the path of a replay. -/
structure OutputName where
  text : String
  items : List TimeItem
  parse_text : TimeFormat.parse? text.toList = some items

namespace OutputName

/-- Reads a time format; it must not be blank. -/
def parse (text : String) : Except Failure OutputName :=
  if isAllBlank text then .error (.config "Output template is empty")
  else
    match parsed : TimeFormat.parse? text.toList with
    | some items => .ok ⟨text, items, parsed⟩
    | none => .error (.config s!"Invalid time format in output template '{text}'")

/-- The name used when none is given. -/
def defaultText : String := "~/Videos/Replay_%Y-%m-%d_%H-%M-%S.mp4"

/-- The path for a moment. -/
def render (name : OutputName) (home : HomeSource) (moment : Moment) : Except Failure String :=
  match TimeFormat.render? (.ofMoment moment) name.items with
  | some path => .ok (expandHome home path)
  | none => .error (.config ("Cannot format '" ++ name.text ++ "'"))

end OutputName

end InstantReplay
