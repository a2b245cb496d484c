import InstantReplay.Proofs.Act
import InstantReplay.Proofs.Save.Outcome
import InstantReplay.Save.Desk

/-!
# Saves that fail

A save that fails changes nothing but the muxer's own state: the histories, the number of saves and
all else of the saver stay, no command is started, and a later save makes the calls that it would
have made without the failed one (`Saver.saveTo_failed`).
-/

namespace InstantReplay

namespace Saver

variable {μ ν : Type}

/-- The saver with another muxer. -/
def withMuxer (saver : Saver μ) (muxer : Muxer ν) (state : ν) : Saver ν where
  muxer := muxer
  state := state
  name := saver.name
  streams := saver.streams
  startOnKeyframe := saver.startOnKeyframe
  postSave := saver.postSave
  saves := saver.saves

/-- A saver with something to save can save it, if only its muxer obliges. -/
theorem isOk_saveTo_counting {saver : Saver μ} (h : ¬ saver.HoldsNothing) (path : String)
    (timing : SaveTiming) :
    ((saver.withMuxer Muxer.counting 0).saveTo path timing).result.isOk := by
  have hobliging : (saver.withMuxer Muxer.counting 0).muxer.Obliging 0 :=
    Muxer.obliging_counting 0
  exact (isOk_saveTo_iff _ path timing).2 ⟨h, takesAll_of_obliging hobliging path⟩

/-- A save that fails with something to save is stopped at a call that the muxer does not take. -/
theorem exists_stop_of_not_isOk {saver : Saver μ} (hnothing : ¬ saver.HoldsNothing) {path : String}
    {timing : SaveTiming} (h : (saver.saveTo path timing).result.isOk = false) :
    ∃ failure taken call, taken ++ [call] <+: saver.clipCalls path ∧
      saver.muxer.TakesAll saver.state [] taken ∧ ¬ saver.muxer.Takes saver.state taken call ∧
      saver.muxer.perform (saver.clip.plan saver.formats path) saver.state =
        ⟨.error failure, taken ++ [call], saver.muxer.after (taken ++ [call]) saver.state⟩ := by
  have htakes : ¬ saver.muxer.TakesAll saver.state [] (saver.clipCalls path) := fun htakes => by
    rw [(isOk_saveTo_iff saver path timing).2 ⟨hnothing, htakes⟩] at h
    cases h
  exact Muxer.perform_of_not_takesAll [] (saver.clip.numbered_plan saver.formats path) htakes

/-- A save that fails leaves all of the saver but the state of its muxer. -/
theorem saver_of_not_isOk {saver : Saver μ} {path : String} {timing : SaveTiming}
    (h : (saver.saveTo path timing).result.isOk = false) :
    (saver.saveTo path timing).saver =
        { saver with state := (saver.saveTo path timing).saver.state } ∧
      (saver.saveTo path timing).command = none := by
  by_cases hnothing : saver.HoldsNothing
  · obtain ⟨-, -, hsaver, hcommand⟩ := saveTo_of_holdsNothing hnothing path timing
    rw [hsaver]
    exact ⟨rfl, hcommand⟩
  · obtain ⟨failure, taken, call, -, -, -, hperform⟩ := exists_stop_of_not_isOk hnothing h
    obtain ⟨-, -, hsaver, hcommand⟩ := saveTo_of_stopped hnothing hperform timing
    rw [hsaver]
    exact ⟨rfl, hcommand⟩

end Saver

/-- A save that fails leaves all that a command could touch: the files and the threads to be had. -/
theorem SaveDesk.runOn_saveTo_of_not_isOk {μ : Type} (desk : SaveDesk μ) {path : String}
    (h : (desk.saver.saveTo path desk.timing).result.isOk = false) :
    ((saveTo path).runOn desk).2.1 = { desk with
      saver := (desk.saver.saveTo path desk.timing).saver
      calls := desk.calls ++ (desk.saver.saveTo path desk.timing).calls } := by
  show ((saveTo path).run.run { state := desk }).2.state = _
  rw [saveTo, Act.run_bind_ok (Act.run_state _)]
  dsimp only
  rw [Act.run_bind_ok (Act.run_change _ _), Act.run_bind_ok (Act.run_forM_note _ _),
    (Saver.saver_of_not_isOk h).2, Act.run_ofExcept]

namespace Saver

variable {μ : Type}

/-- **A failed save changes nothing.** Only the state of the muxer is another one afterwards. No
command is started, so that the files stay as they are. The muxer is not asked if there is nothing
to save. Otherwise its calls are those of a save that succeeds, up to the first that it does not
take, and then one to give the file up. A later save makes the calls of a save without the failed
one: with any muxer in any state, and so also with the same muxer once it works. -/
theorem saveTo_failed (saver : Saver μ) (path : String) (timing : SaveTiming)
    (hfailed : (saver.saveTo path timing).result.isOk = false) :
    (saver.saveTo path timing).saver =
        { saver with state := (saver.saveTo path timing).saver.state } ∧
      (saver.saveTo path timing).command = none ∧
      (∀ desk : SaveDesk μ, desk.saver = saver → desk.timing = timing →
        ((SaveDesk.saveTo path).runOn desk).2.1.world = desk.world) ∧
      (saver.HoldsNothing → (saver.saveTo path timing).calls = [] ∧
        (saver.saveTo path timing).saver.state = saver.state) ∧
      (¬ saver.HoldsNothing →
        ((saver.withMuxer Muxer.counting 0).saveTo path timing).result.isOk ∧
        ∃ taken call, (saver.saveTo path timing).calls = taken ++ [call, .abandon] ∧
          saver.muxer.TakesAll saver.state [] taken ∧ ¬ saver.muxer.Takes saver.state taken call ∧
          ∀ {ν : Type} (other : Muxer ν) (state : ν) (timing' : SaveTiming),
            ((saver.withMuxer other state).saveTo path timing').result.isOk →
              taken ++ [call] <+: ((saver.withMuxer other state).saveTo path timing').calls) ∧
      (∀ {ν : Type} (other : Muxer ν) (state : ν) (path' : String) (timing' : SaveTiming),
        (((saver.saveTo path timing).saver.withMuxer other state).saveTo path' timing').calls =
          ((saver.withMuxer other state).saveTo path' timing').calls) ∧
      ∀ {ν : Type} (other : Muxer ν) (state : ν) (path' : String) (timing' : SaveTiming),
        ((saver.saveTo path timing).saver.saveTo path' timing').result.isOk →
        ((saver.withMuxer other state).saveTo path' timing').result.isOk →
          ((saver.saveTo path timing).saver.saveTo path' timing').calls =
            ((saver.withMuxer other state).saveTo path' timing').calls := by
  obtain ⟨hsaver, hcommand⟩ := saver_of_not_isOk hfailed
  refine ⟨hsaver, hcommand, ?_, fun hnothing => ?_, fun hnothing => ?_, ?_, ?_⟩
  · rintro desk rfl rfl
    rw [desk.runOn_saveTo_of_not_isOk hfailed]
  · obtain ⟨-, hcalls, hsame, -⟩ := saveTo_of_holdsNothing hnothing path timing
    exact ⟨hcalls, by rw [hsame]⟩
  · obtain ⟨failure, taken, call, hprefix, htaken, hcall, hperform⟩ :=
      exists_stop_of_not_isOk hnothing hfailed
    refine ⟨isOk_saveTo_counting hnothing path timing, taken, call, ?_, htaken, hcall, ?_⟩
    · rw [(saveTo_of_stopped hnothing hperform timing).2.1, List.append_assoc]
      rfl
    · intro ν other state timing' hother
      rw [calls_of_isOk hother]
      exact hprefix
  · intro ν other state path' timing'
    rw [hsaver]
    rfl
  · intro ν other state path' timing' hlater hother
    rw [calls_of_isOk hlater, calls_of_isOk hother, hsaver]
    rfl

/-- A save whose muxer refuses the header, after the tracks of the two streams with packets. -/
theorem saveTo_refused :
    let saver := sample (PickyMuxer.muxer ⟨"header", 0, 0⟩) {}
    let outcome := saver.saveTo "clip" ⟨"1ms", "2ms"⟩
    outcome.result.isOk = false ∧ ¬ saver.HoldsNothing ∧ outcome.calls.length = 5 ∧
      outcome.calls.getLast? = some .abandon ∧
      outcome.saver = { saver with state := outcome.saver.state } :=
  ⟨by decide +kernel, by simp [HoldsNothing]; decide +kernel, by decide +kernel, by decide +kernel,
    (saveTo_failed _ "clip" ⟨"1ms", "2ms"⟩ (by decide +kernel)).1⟩

end Saver

end InstantReplay
