import InstantReplay.Proofs.Act
import InstantReplay.Proofs.Save.Calls
import InstantReplay.Save.Stages

/-!
# A save, stage by stage

Every stage of a save leads to another one, and the calls made so far fit the stage: a save that
succeeds has ended its file, and one that fails has given it up, unless it never made a call
(`SaveStage.Fits`, `SaveStage.exists_next`). A save that goes through all of its stages at once is
`SaveDesk.save` (`SaveStage.ends_naming`).
-/

namespace InstantReplay

/-- A save that is over has ended its file or given it up, unless it made no calls. -/
def MuxerCall.Settled (result : Except Failure SaveReport) (calls : List MuxerCall) : Prop :=
  match result with
  | .ok _ => calls.getLast? = some .finish
  | .error _ => calls = [] ∨ calls.getLast? = some .abandon

/-- The last call of a plan ends the file. -/
theorem Draft.getLast?_plan (draft : Draft) (formats : List StreamFormat) (path : String) :
    ((draft.plan formats path).map (·.call)).getLast? = some .finish := by
  rw [plan, List.map_append]
  exact List.getLast?_concat

/-- Running a command does not fail. -/
theorem PostSaveWorld.run_runCommand (command path : String) (scene : Scene PostSaveWorld) :
    ((runCommand command path).run.run scene).1 = .ok () := by
  rw [runCommand, Act.run_bind_ok (Act.run_state scene)]
  rcases scene.state.threadRefusals with _ | ⟨refusal, rest⟩
  · dsimp only
    rw [Act.run_bind_ok (Act.run_note _ _)]
    rcases scene.state.shellFault? with _ | fault
    · dsimp only
      rw [Act.run_bind_ok (Act.run_change _ _)]
      split <;> rfl
    · rfl
  · rfl

namespace SaveStage

variable {μ : Type} {path : String} {snapshots : List Snapshot} {draft : Draft}

/-- The calls of a save so far fit its stage. -/
def Fits (made : List MuxerCall) : SaveStage → Prop
  | .naming => made = []
  | .copying _ => made = []
  | .writing _ _ _ left => (made ++ left.map (·.call)).getLast? = some .finish
  | .written _ _ _ => made.getLast? = some .finish
  | .stopped _ _ => True
  | .ended result => MuxerCall.Settled result made

/-- The stage leads to another one: what that is, and what the desk and the log are then. -/
def Leads (stage : SaveStage) (desk : SaveDesk μ) (later : SaveStage) (after : SaveDesk μ)
    (lines : List LogLine) : Prop :=
  stage.next.runOn desk = (.ok later, after, lines)

/-- The stage leads to another one, and the calls fit on. -/
def GoesOn (stage : SaveStage) (desk : SaveDesk μ) : Prop :=
  ∃ later after lines calls, Leads stage desk later after lines ∧
    after.calls = desk.calls ++ calls ∧ ∀ made, stage.Fits made → later.Fits (made ++ calls)

variable {desk : SaveDesk μ}

/-! ## What each stage does -/

/-- What naming the file leads to. -/
def ofName : Except Failure String → SaveStage
  | .ok path => .copying path
  | .error failure => .ended (.error failure)

theorem leads_naming {outcome : Except Failure String} {files : FileTree} {lines : List LogLine}
    (hname : (desk.saver.name.prepare desk.home desk.moment).runOn desk.world.files =
      (outcome, files, lines)) :
    Leads .naming desk (ofName outcome)
      { desk with world := { desk.world with files := files } } lines := by
  rw [Leads, Act.runOn, next, name, Act.run_bind_ok (Act.run_state _),
    Act.run_bind_ok (Act.run_attempt _ _), SaveDesk.onFiles, Act.run_within]
  dsimp only
  rw [hname]
  cases outcome <;> rfl

theorem leads_copying_of_isEmpty (path : String) (hempty : desk.saver.streams.isEmpty) :
    Leads (.copying path) desk (.ended (.error (.save "No streams are being recorded"))) desk [] := by
  rw [Leads, Act.runOn, next, copy, Act.run_bind_ok (Act.run_state _)]
  dsimp only
  rw [if_pos hempty]
  rfl

theorem leads_copying_of_error (path : String) (hstreams : ¬desk.saver.streams.isEmpty)
    {failure : Failure} (hdraft : desk.saver.draft desk.saver.snapshots = .error failure) :
    Leads (.copying path) desk (.ended (.error failure)) desk
      (desk.saver.draftNotes desk.saver.snapshots desk.timing) := by
  rw [Leads, Act.runOn, next, copy, Act.run_bind_ok (Act.run_state _)]
  dsimp only
  rw [if_neg hstreams, Act.run_bind_ok (Act.run_forM_note _ _), hdraft]
  rfl

theorem leads_copying_of_ok (hstreams : ¬desk.saver.streams.isEmpty)
    (hdraft : desk.saver.draft desk.saver.snapshots = .ok draft) :
    Leads (.copying path) desk
      (.writing path desk.saver.snapshots draft (draft.plan desk.saver.formats path)) desk
      (desk.saver.draftNotes desk.saver.snapshots desk.timing ++
        Saver.emptyNotes desk.saver.formats draft) := by
  rw [Leads, Act.runOn, next, copy, Act.run_bind_ok (Act.run_state _)]
  dsimp only
  rw [if_neg hstreams, Act.run_bind_ok (Act.run_forM_note _ _), hdraft]
  dsimp only
  rw [Act.run_bind_ok (Act.run_forM_note _ _)]
  rfl

/-- The desk after a call to the muxer. -/
def called (desk : SaveDesk μ) (call : MuxerCall) : SaveDesk μ :=
  { desk with
    saver := { desk.saver with state := (desk.saver.muxer.answer call desk.saver.state).2 }
    calls := desk.calls ++ [call] }

theorem leads_writing_nil :
    Leads (.writing path snapshots draft []) desk (.written path snapshots draft) desk [] :=
  rfl

/-- What a call that is to be made leads to, by the answer of the muxer. -/
def afterAnswer (path : String) (snapshots : List Snapshot) (draft : Draft) (planned : PlannedCall)
    (left : List PlannedCall) : Except Failure Nat → SaveStage
  | .error failure => .stopped path failure
  | .ok number =>
    match planned.expected with
    | some expected =>
      if number = expected then .writing path snapshots draft left
      else .stopped path (Muxer.misnumbered number expected)
    | none => .writing path snapshots draft left

theorem leads_writing_cons (path : String) (snapshots : List Snapshot) (draft : Draft)
    (desk : SaveDesk μ) (planned : PlannedCall) (left : List PlannedCall) :
    Leads (.writing path snapshots draft (planned :: left)) desk
      (afterAnswer path snapshots draft planned left
        (desk.saver.muxer.answer planned.call desk.saver.state).1)
      (called desk planned.call) [] := by
  rw [Leads, Act.runOn, next, write, call, Act.run_bind_ok (Act.run_step _ _)]
  dsimp only
  rcases (desk.saver.muxer.answer planned.call desk.saver.state).1 with failure | number
  · rfl
  · rcases hexpected : planned.expected with _ | expected
    · simp only [afterAnswer, hexpected]
      rfl
    · simp only [afterAnswer, hexpected]
      by_cases hnumber : number = expected
      · simp only [if_pos hnumber]
        rfl
      · simp only [if_neg hnumber]
        rfl

theorem leads_stopped (failure : Failure) :
    Leads (.stopped path failure) desk
      (.ended (.error (.during s!"Failed to save {quoted path}" failure))) (called desk .abandon)
      [.error s!"Save to {quoted path} failed: {failure.message}"] :=
  rfl

/-- What is left of a desk and what is noted when the user's command is started. -/
def commanded (desk : SaveDesk μ) (path : String) : Option String → SaveDesk μ × List LogLine
  | none => (desk, [])
  | some command =>
    let (_, world, lines) := (PostSaveWorld.runCommand command path).runOn desk.world
    ({ desk with world := world }, lines)

theorem run_commanded (desk : SaveDesk μ) (path : String) (command : String) (log : List LogLine) :
    ((PostSaveWorld.runCommand command path).within SaveDesk.world
        fun world desk => { desk with world := world }).run.run ⟨desk, log⟩ =
      (.ok (), ⟨(commanded desk path (some command)).1,
        log ++ (commanded desk path (some command)).2⟩) := by
  have hcommand : ((PostSaveWorld.runCommand command path).runOn desk.world).1 = .ok () :=
    PostSaveWorld.run_runCommand command path { state := desk.world }
  rw [Act.run_within, hcommand]
  rfl

/-- What a save reports. -/
def report (path : String) (draft : Draft) : SaveReport :=
  ⟨path, draft.packetsPerStream, draft.durationMicros⟩

/-- The streams without what was saved, and how much that was of each. -/
def released (desk : SaveDesk μ) (snapshots : List Snapshot) :
    List (Option Nat × FollowedStream) :=
  Saver.release desk.saver.streams snapshots

/-- The desk when what was saved is dropped from the histories. -/
def relieved (desk : SaveDesk μ) (snapshots : List Snapshot) : SaveDesk μ :=
  { desk with saver := { desk.saver with
    streams := (released desk snapshots).map (·.2), saves := desk.saver.saves + 1 } }

theorem leads_written (path : String) {command : Option String}
    (hcommand : desk.saver.postSave.map (ShellQuote.command · path) = command) :
    let commanded := commanded (relieved desk snapshots) path command
    Leads (.written path snapshots draft) desk (.ended (.ok (report path draft))) commanded.1
      (Saver.savedNote (report path draft) desk.timing ::
        Saver.releaseNotes (released desk snapshots) ++ commanded.2) := by
  rw [Leads, Act.runOn, next, complete, Act.run_bind_ok (Act.run_state _)]
  dsimp only
  rw [Act.run_bind_ok (Act.run_change _ _), Act.run_bind_ok (Act.run_forM_note _ _), hcommand]
  rcases command with _ | command
  · exact congrArg (fun lines => (_, _, lines)) (List.append_nil _).symm
  · dsimp only
    rw [Act.run_bind_ok (run_commanded _ path command _)]
    rfl

/-! ## Every stage leads on -/

theorem goesOn_naming (desk : SaveDesk μ) : GoesOn .naming desk := by
  rcases hname : (desk.saver.name.prepare desk.home desk.moment).runOn desk.world.files with
    ⟨outcome, files, lines⟩
  refine ⟨_, _, _, [], leads_naming hname, (List.append_nil _).symm, ?_⟩
  rintro _ rfl
  cases outcome
  · exact .inl rfl
  · rfl

theorem goesOn_copying (path : String) (desk : SaveDesk μ) : GoesOn (.copying path) desk := by
  by_cases hempty : desk.saver.streams.isEmpty
  · refine ⟨_, _, _, [], leads_copying_of_isEmpty path hempty, (List.append_nil _).symm, ?_⟩
    rintro _ rfl
    exact .inl rfl
  · rcases hdraft : desk.saver.draft desk.saver.snapshots with failure | draft
    · refine ⟨_, _, _, [], leads_copying_of_error path hempty hdraft, (List.append_nil _).symm, ?_⟩
      rintro _ rfl
      exact .inl rfl
    · refine ⟨_, _, _, [], leads_copying_of_ok hempty hdraft, (List.append_nil _).symm, ?_⟩
      rintro _ rfl
      exact Draft.getLast?_plan draft desk.saver.formats path

theorem goesOn_writing (left : List PlannedCall) :
    GoesOn (.writing path snapshots draft left) desk := by
  rcases left with _ | ⟨planned, left⟩
  · refine ⟨_, _, _, [], leads_writing_nil, (List.append_nil _).symm, fun made hmade => ?_⟩
    simpa [Fits] using hmade
  · refine ⟨_, _, _, [planned.call], leads_writing_cons _ _ _ _ planned left, rfl, fun made hmade => ?_⟩
    have hleft : (SaveStage.writing path snapshots draft left).Fits (made ++ [planned.call]) := by
      simpa [Fits] using hmade
    rcases (desk.saver.muxer.answer planned.call desk.saver.state).1 with failure | number
    · trivial
    · rw [afterAnswer]
      split
      · split
        · exact hleft
        · trivial
      · exact hleft

/-- **Every stage of a save leads to another one**, and the calls made so far go on to fit. -/
theorem goesOn (stage : SaveStage) (desk : SaveDesk μ) : stage.GoesOn desk := by
  cases stage with
  | naming => exact goesOn_naming desk
  | copying path => exact goesOn_copying path desk
  | writing _ _ _ left => exact goesOn_writing left
  | written path snapshots draft =>
    have hcalls (command : Option String) :
        (commanded (relieved desk snapshots) path command).1.calls = desk.calls := by
      cases command <;> rfl
    refine ⟨_, _, _, [], leads_written path rfl, ?_, fun made hmade => ?_⟩
    · rw [hcalls, List.append_nil]
    · rw [List.append_nil]
      exact hmade
  | stopped path failure =>
    exact ⟨_, _, _, [.abandon], leads_stopped failure, rfl,
      fun made _ => .inr (List.getLast?_concat)⟩
  | ended result =>
    refine ⟨_, _, _, [], rfl, (List.append_nil _).symm, fun made hmade => ?_⟩
    rw [List.append_nil]
    exact hmade

/-! ## All stages in turn -/

/-- The stages of a save in turn: how it ends, and what the desk is and what was noted then. -/
inductive Ends : SaveStage → SaveDesk μ → Except Failure SaveReport → SaveDesk μ →
    List LogLine → Prop
  | ended (result : Except Failure SaveReport) (desk : SaveDesk μ) :
      Ends (.ended result) desk result desk []
  | next {stage later : SaveStage} {desk after last : SaveDesk μ}
      {result : Except Failure SaveReport} {lines rest : List LogLine}
      (hstage : ∀ result, stage ≠ .ended result) (hleads : Leads stage desk later after lines)
      (hrest : Ends later after result last rest) : Ends stage desk result last (lines ++ rest)

variable {result : Except Failure SaveReport} {last : SaveDesk μ} {lines : List LogLine}

/-- The desk after calls to the muxer that leave it in this state. -/
def afterCalls (desk : SaveDesk μ) (calls : List MuxerCall) (state : μ) : SaveDesk μ :=
  { desk with saver := { desk.saver with state := state }, calls := desk.calls ++ calls }

theorem called_eq_afterCalls {call : MuxerCall} {answer : Except Failure Nat} {state : μ}
    (hanswer : desk.saver.muxer.answer call desk.saver.state = (answer, state)) :
    called desk call = afterCalls desk [call] state := by
  rw [called, hanswer, afterCalls]

/-- The calls that are left are made up to the first that is not taken. -/
theorem ends_writing {made : Performed μ} {left : List PlannedCall}
    (hmade : desk.saver.muxer.perform left desk.saver.state = made)
    (hrest : Ends
      (match made.result with
        | .ok () => .written path snapshots draft
        | .error failure => .stopped path failure)
      (afterCalls desk made.calls made.state) result last lines) :
    Ends (.writing path snapshots draft left) desk result last lines := by
  induction left generalizing desk made with
  | nil =>
    subst hmade
    refine .next (by simp) leads_writing_nil ?_
    simpa [Muxer.perform, afterCalls] using hrest
  | cons planned left ih =>
    rcases hanswer : desk.saver.muxer.answer planned.call desk.saver.state with ⟨answer, state⟩
    have hcalled := called_eq_afterCalls hanswer
    have hfirst := leads_writing_cons path snapshots draft desk planned left
    rw [hanswer, hcalled] at hfirst
    refine .next (by simp) hfirst ?_
    -- a call that is taken leaves the rest to be made on the desk after it
    have hgo (hmade : made = { desk.saver.muxer.perform left state with
        calls := planned.call :: (desk.saver.muxer.perform left state).calls }) :
        Ends (.writing path snapshots draft left) (afterCalls desk [planned.call] state) result
          last lines := by
      subst hmade
      refine ih rfl ?_
      simpa [afterCalls] using hrest
    rw [Muxer.perform, hanswer] at hmade
    rcases answer with failure | number
    · subst hmade
      exact hrest
    · rcases hexpected : planned.expected with _ | expected
      · simp only [hexpected] at hmade
        simpa only [afterAnswer, hexpected] using hgo hmade.symm
      · simp only [hexpected] at hmade
        by_cases hnumber : number = expected
        · rw [if_pos hnumber] at hmade
          simpa only [afterAnswer, hexpected, if_pos hnumber] using hgo hmade.symm
        · rw [if_neg hnumber] at hmade
          subst hmade
          simpa only [afterAnswer, hexpected, if_neg hnumber] using hrest

/-- The desk after a save to a file, without what the user's command does. -/
def afterSave (desk : SaveDesk μ) (path : String) : SaveDesk μ :=
  let outcome := desk.saver.saveTo path desk.timing
  { desk with saver := outcome.saver, calls := desk.calls ++ outcome.calls }

/-- What a save to a file leaves and notes in the end. -/
def finished (desk : SaveDesk μ) (path : String) : SaveDesk μ × List LogLine :=
  let outcome := desk.saver.saveTo path desk.timing
  let commanded := commanded (afterSave desk path) path outcome.command
  (commanded.1, outcome.log ++ commanded.2)

theorem run_saveTo (path : String) (scene : Scene (SaveDesk μ)) :
    (SaveDesk.saveTo path).run.run scene =
      ((scene.state.saver.saveTo path scene.state.timing).result,
        ⟨(finished scene.state path).1, scene.log ++ (finished scene.state path).2⟩) := by
  rw [SaveDesk.saveTo, Act.run_bind_ok (Act.run_state scene)]
  dsimp only
  rw [Act.run_bind_ok (Act.run_change _ _), Act.run_bind_ok (Act.run_forM_note _ _), finished]
  rcases hcommand : (scene.state.saver.saveTo path scene.state.timing).command with _ | command
  · dsimp only
    rw [Act.run_ofExcept]
    simp [commanded, afterSave]
  · dsimp only
    rw [Act.run_bind_ok (run_commanded _ path command _), Act.run_ofExcept]
    simp [afterSave]

/-- From the copy on, when there is a clip to write. -/
theorem ends_copying_of_ok (hempty : ¬desk.saver.streams.isEmpty)
    (hdraft : desk.saver.draft desk.saver.snapshots = .ok draft) {made : Performed μ}
    (hmade : desk.saver.muxer.perform (draft.plan desk.saver.formats path) desk.saver.state = made)
    (hrest : Ends
      (match made.result with
        | .ok () => .written path desk.saver.snapshots draft
        | .error failure => .stopped path failure)
      (afterCalls desk made.calls made.state) result last lines) :
    Ends (.copying path) desk result last
      (desk.saver.draftNotes desk.saver.snapshots desk.timing ++
        Saver.emptyNotes desk.saver.formats draft ++ lines) :=
  .next (by simp) (leads_copying_of_ok hempty hdraft) (ends_writing hmade hrest)

/-- **From the copy on, the stages of a save are `SaveDesk.saveTo`.** -/
theorem ends_copying (path : String) (desk : SaveDesk μ) :
    Ends (.copying path) desk (desk.saver.saveTo path desk.timing).result (finished desk path).1
      (finished desk path).2 := by
  by_cases hempty : desk.saver.streams.isEmpty
  · have hover := Ends.ended (.error (.save "No streams are being recorded")) desk
    have hends := hover.next (by simp) (leads_copying_of_isEmpty path hempty)
    simpa [finished, afterSave, Saver.saveTo, hempty, commanded] using hends
  rcases hdraft : desk.saver.draft desk.saver.snapshots with failure | draft
  · have hover := Ends.ended (.error failure) desk
    have hends := hover.next (by simp) (leads_copying_of_error path hempty hdraft)
    simpa [finished, afterSave, Saver.saveTo, hempty, hdraft, commanded] using hends
  rcases hmade : desk.saver.muxer.perform (draft.plan desk.saver.formats path)
    desk.saver.state with ⟨failure | _, calls, state⟩
  · have hover := Ends.ended (.error (.during s!"Failed to save {quoted path}" failure))
      (called (afterCalls desk calls state) .abandon)
    have hends := ends_copying_of_ok hempty hdraft hmade
      (hover.next (by simp) (leads_stopped failure))
    simpa [finished, afterSave, Saver.saveTo, hempty, hdraft, commanded, Muxer.performOrAbandon,
      hmade, called, afterCalls] using hends
  · have hends := ends_copying_of_ok hempty hdraft hmade
      (Ends.next (by simp) (leads_written path rfl) (.ended _ _))
    simpa [finished, afterSave, Saver.saveTo, hempty, hdraft, Muxer.performOrAbandon, hmade,
      afterCalls, relieved, released, report] using hends

/-- **The stages of a save in turn are `SaveDesk.save`.** -/
theorem ends_naming (desk : SaveDesk μ) :
    Ends .naming desk (SaveDesk.save.runOn desk).1 (SaveDesk.save.runOn desk).2.1
      (SaveDesk.save.runOn desk).2.2 := by
  rcases hname : (desk.saver.name.prepare desk.home desk.moment).runOn desk.world.files with
    ⟨failure | path, files, notes⟩
  · have hends := (Ends.ended (.error failure) _).next (by simp) (leads_naming hname)
    rw [List.append_nil] at hends
    have hsave : SaveDesk.save.runOn desk = (.error failure,
        { desk with world := { desk.world with files := files } }, notes) := by
      rw [Act.runOn, SaveDesk.save, Act.run_bind_ok (Act.run_state _)]
      dsimp only
      rw [SaveDesk.onFiles, Act.run_bind_error (by rw [Act.run_within, hname])]
      rfl
    rw [hsave]
    exact hends
  · let named : SaveDesk μ := { desk with world := { desk.world with files := files } }
    have hends := (ends_copying path named).next (by simp) (leads_naming hname)
    have hsave : SaveDesk.save.runOn desk =
        ((named.saver.saveTo path named.timing).result, (finished named path).1,
          notes ++ (finished named path).2) := by
      rw [Act.runOn, SaveDesk.save, Act.run_bind_ok (Act.run_state _)]
      dsimp only
      rw [SaveDesk.onFiles, Act.run_bind_ok (by rw [Act.run_within, hname]), run_saveTo]
      rfl
    rw [hsave]
    exact hends

/-- **A save comes to its end from every stage.** -/
theorem exists_ends (stage : SaveStage) (desk : SaveDesk μ) :
    ∃ result last lines, Ends stage desk result last lines := by
  have hwritten (path : String) (snapshots : List Snapshot) (draft : Draft) (desk : SaveDesk μ) :
      ∃ result last lines, Ends (.written path snapshots draft) desk result last lines :=
    ⟨_, _, _, .next (by simp) (leads_written path rfl) (.ended _ _)⟩
  have hstopped (path : String) (failure : Failure) (desk : SaveDesk μ) :
      ∃ result last lines, Ends (.stopped path failure) desk result last lines :=
    ⟨_, _, _, .next (by simp) (leads_stopped failure) (.ended _ _)⟩
  cases stage with
  | naming => exact ⟨_, _, _, ends_naming desk⟩
  | copying path => exact ⟨_, _, _, ends_copying path desk⟩
  | writing path snapshots draft left =>
    rcases hmade : desk.saver.muxer.perform left desk.saver.state with ⟨failure | _, calls, state⟩
    · obtain ⟨result, last, lines, hends⟩ := hstopped path failure (afterCalls desk calls state)
      exact ⟨result, last, lines, ends_writing hmade hends⟩
    · obtain ⟨result, last, lines, hends⟩ :=
        hwritten path snapshots draft (afterCalls desk calls state)
      exact ⟨result, last, lines, ends_writing hmade hends⟩
  | written path snapshots draft => exact hwritten path snapshots draft desk
  | stopped path failure => exact hstopped path failure desk
  | ended result => exact ⟨_, _, _, .ended result desk⟩

end SaveStage

end InstantReplay
