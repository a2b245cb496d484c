import InstantReplay.Save.Desk

/-!
# The stages of a save

A save goes through stages. The file gets its name; what the histories hold is copied; the calls to
the muxer are made one by one; then the file is complete, or it is given up. Other things may happen
between two stages. `SaveDesk.save` goes through all of them at once.
-/

namespace InstantReplay

/-- What a save has to do next. -/
inductive SaveStage
  | naming
  | copying (path : String)
  /-- The calls `left` are still to be made. -/
  | writing (path : String) (snapshots : List Snapshot) (draft : Draft) (left : List PlannedCall)
  /-- All calls were taken. -/
  | written (path : String) (snapshots : List Snapshot) (draft : Draft)
  /-- A call was not taken. -/
  | stopped (path : String) (failure : Failure)
  | ended (result : Except Failure SaveReport)

namespace SaveStage

variable {μ : Type}

/-- Calls the muxer. -/
def call (call : MuxerCall) : Act (SaveDesk μ) (Except Failure Nat) :=
  Act.step fun desk =>
    let (answer, state) := desk.saver.muxer.answer call desk.saver.state
    (answer, { desk with
      saver := { desk.saver with state := state }, calls := desk.calls ++ [call] })

/-- Gives the file a name. -/
def name : Act (SaveDesk μ) SaveStage := do
  let desk ← Act.state
  match ← (SaveDesk.onFiles (desk.saver.name.prepare desk.home desk.moment)).attempt with
  | .ok path => return .copying path
  | .error failure => return .ended (.error failure)

/-- Copies what the histories hold and makes a clip of it. -/
def copy (path : String) : Act (SaveDesk μ) SaveStage := do
  let desk ← Act.state
  let saver := desk.saver
  if saver.streams.isEmpty then return .ended (.error (.save "No streams are being recorded"))
  else
    let snapshots := saver.snapshots
    (saver.draftNotes snapshots desk.timing).forM Act.note
    match saver.draft snapshots with
    | .error failure => return .ended (.error failure)
    | .ok draft =>
      (Saver.emptyNotes saver.formats draft).forM Act.note
      return .writing path snapshots draft (draft.plan saver.formats path)

/-- Makes the next call of those that are left. -/
def write (path : String) (snapshots : List Snapshot) (draft : Draft) :
    List PlannedCall → Act (SaveDesk μ) SaveStage
  | [] => return .written path snapshots draft
  | planned :: left => do
    match ← call planned.call with
    | .error failure => return .stopped path failure
    | .ok number =>
      match planned.expected with
      | some expected =>
        if number = expected then return .writing path snapshots draft left
        else return .stopped path (Muxer.misnumbered number expected)
      | none => return .writing path snapshots draft left

/-- Drops what was saved from the histories and starts the user's command. -/
def complete (path : String) (snapshots : List Snapshot) (draft : Draft) :
    Act (SaveDesk μ) SaveStage := do
  let desk ← Act.state
  let report : SaveReport := ⟨path, draft.packetsPerStream, draft.durationMicros⟩
  let released := Saver.release desk.saver.streams snapshots
  Act.change fun desk => { desk with saver := { desk.saver with
    streams := released.map (·.2), saves := desk.saver.saves + 1 } }
  (Saver.savedNote report desk.timing :: Saver.releaseNotes released).forM Act.note
  if let some command := desk.saver.postSave.map (ShellQuote.command · path) then
    (PostSaveWorld.runCommand command path).within (·.world)
      fun world desk => { desk with world := world }
  return .ended (.ok report)

/-- Gives the file up. -/
def giveUp (path : String) (failure : Failure) : Act (SaveDesk μ) SaveStage := do
  let _ ← call .abandon
  let shown := quoted path
  let reason := failure.message
  Act.note (.error s!"Save to {shown} failed: {reason}")
  return .ended (.error (.during s!"Failed to save {shown}" failure))

/-- Does what is next. -/
def next : SaveStage → Act (SaveDesk μ) SaveStage
  | .naming => name
  | .copying path => copy path
  | .writing path snapshots draft left => write path snapshots draft left
  | .written path snapshots draft => complete path snapshots draft
  | .stopped path failure => giveUp path failure
  | .ended result => return .ended result

end SaveStage

end InstantReplay
