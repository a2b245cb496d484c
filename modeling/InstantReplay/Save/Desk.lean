import InstantReplay.Save.PostSave
import InstantReplay.Save.Saver

/-!
# Saving into files

A saver together with the files it saves into. A save makes the directory of its file, writes the
file, and starts the user's command.
-/

namespace InstantReplay

/-- A saver and what it works in. -/
structure SaveDesk (μ : Type) where
  saver : Saver μ
  world : PostSaveWorld
  home : HomeSource
  /-- The moment that the names of files are made of. -/
  moment : Moment := ⟨0, 0, .utc⟩
  timing : SaveTiming
  /-- What the muxer was asked. -/
  calls : List MuxerCall := []

namespace SaveDesk

variable {μ : Type}

/-- An action on the files. -/
def onFiles {α : Type} (action : Act FileTree α) : Act (SaveDesk μ) α :=
  action.within (·.world.files) fun files desk =>
    { desk with world := { desk.world with files := files } }

/-- Saves to a file. -/
def saveTo (path : String) : Act (SaveDesk μ) SaveReport := do
  let desk ← Act.state
  let outcome := desk.saver.saveTo path desk.timing
  Act.change fun desk =>
    { desk with saver := outcome.saver, calls := desk.calls ++ outcome.calls }
  outcome.log.forM Act.note
  if let some command := outcome.command then
    (PostSaveWorld.runCommand command path).within (·.world)
      fun world desk => { desk with world := world }
  Act.ofExcept outcome.result

/-- Saves to the file that the saver's name for it gives now. -/
def save : Act (SaveDesk μ) SaveReport := do
  let desk ← Act.state
  saveTo (← onFiles (desk.saver.name.prepare desk.home desk.moment))

end SaveDesk

end InstantReplay
