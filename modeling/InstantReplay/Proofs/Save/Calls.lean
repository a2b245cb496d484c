import InstantReplay.Save.Muxer
import Mathlib.Data.List.Basic

/-!
# Calls to a muxer

A muxer takes a call if it does not fail, and if it gives a track the number of the tracks declared
before (`Muxer.Takes`). The calls of a plan that numbers its tracks like that
(`PlannedCall.Numbered`) are made in turn, either all of them (`Muxer.perform_of_takesAll`) or up to
the first that is not taken (`Muxer.perform_of_not_takesAll`).
-/

namespace InstantReplay

/-- Whether a call declares a track. -/
def MuxerCall.isDeclaration : MuxerCall → Bool
  | .declare _ => true
  | _ => false

/-- Whether a call starts a file. -/
def MuxerCall.isCreation : MuxerCall → Bool
  | .create _ => true
  | _ => false

/-- The number of tracks that calls declare. -/
def MuxerCall.tracks (calls : List MuxerCall) : Nat := calls.countP isDeclaration

/-- The plan expects a number of each track, counting from `track` on, and of nothing else. -/
def PlannedCall.Numbered : Nat → List PlannedCall → Prop
  | _, [] => True
  | track, planned :: rest =>
    if planned.call.isDeclaration then
      planned.expected = some track ∧ Numbered (track + 1) rest
    else planned.expected = none ∧ Numbered track rest

theorem MuxerCall.tracks_concat (earlier : List MuxerCall) (call : MuxerCall) :
    tracks (earlier ++ [call]) = tracks earlier + if call.isDeclaration then 1 else 0 := by
  rw [tracks, List.countP_append, List.countP_singleton]
  rfl

namespace PlannedCall

theorem Numbered.rest {planned : PlannedCall} {rest : List PlannedCall} {earlier : List MuxerCall}
    (h : Numbered (MuxerCall.tracks earlier) (planned :: rest)) :
    Numbered (MuxerCall.tracks (earlier ++ [planned.call])) rest := by
  rw [MuxerCall.tracks_concat]
  rw [Numbered] at h
  split at h
  · rename_i hdeclares
    simpa [hdeclares] using h.2
  · rename_i hdeclares
    simpa [hdeclares] using h.2

theorem Numbered.append {track : Nat} {plan rest : List PlannedCall} (h : Numbered track plan)
    (hrest : Numbered (track + MuxerCall.tracks (plan.map (·.call))) rest) :
    Numbered track (plan ++ rest) := by
  induction plan generalizing track with
  | nil => exact hrest
  | cons planned plan ih =>
    rw [List.map_cons, MuxerCall.tracks, List.countP_cons] at hrest
    rw [Numbered] at h
    rw [List.cons_append, Numbered]
    split at h
    · rename_i hdeclares
      rw [if_pos hdeclares] at hrest ⊢
      refine ⟨h.1, ih h.2 ?_⟩
      rw [show track + 1 + MuxerCall.tracks (plan.map (·.call)) =
        track + (MuxerCall.tracks (plan.map (·.call)) + 1) by omega]
      exact hrest
    · rename_i hdeclares
      rw [if_neg hdeclares] at hrest ⊢
      exact ⟨h.1, ih h.2 hrest⟩

/-- A plan without tracks is numbered if it expects no numbers. -/
theorem numbered_of_plain {plan : List PlannedCall}
    (h : ∀ planned ∈ plan, planned.call.isDeclaration = false ∧ planned.expected = none)
    (track : Nat) : Numbered track plan := by
  induction plan with
  | nil => trivial
  | cons planned plan ih =>
    obtain ⟨hcall, hexpected⟩ := h planned List.mem_cons_self
    rw [Numbered, if_neg (by simp [hcall])]
    exact ⟨hexpected, ih fun other hother => h other (List.mem_cons_of_mem _ hother)⟩

end PlannedCall

namespace Muxer

variable {μ : Type} {muxer : Muxer μ} {state : μ}

/-- The state of a muxer after calls. -/
def after (muxer : Muxer μ) (calls : List MuxerCall) (state : μ) : μ :=
  calls.foldl (fun state call => (muxer.answer call state).2) state

theorem after_concat (muxer : Muxer μ) (calls : List MuxerCall) (call : MuxerCall) (state : μ) :
    muxer.after (calls ++ [call]) state = (muxer.answer call (muxer.after calls state)).2 := by
  rw [after, List.foldl_append]
  rfl

/-- After the calls `earlier`, the muxer does not fail at a call; if the call declares a track, its
number is that of the tracks declared before. -/
def Takes (muxer : Muxer μ) (state : μ) (earlier : List MuxerCall) (call : MuxerCall) : Prop :=
  ∃ number, (muxer.answer call (muxer.after earlier state)).1 = .ok number ∧
    (call.isDeclaration → number = MuxerCall.tracks earlier)

/-- After the calls `earlier`, the muxer takes each of the calls that are made in turn. -/
def TakesAll (muxer : Muxer μ) (state : μ) : List MuxerCall → List MuxerCall → Prop
  | _, [] => True
  | earlier, call :: calls =>
    muxer.Takes state earlier call ∧ muxer.TakesAll state (earlier ++ [call]) calls

/-- The muxer takes whatever calls follow the start of a file, and so numbers the tracks of the
file 0, 1, 2, …. -/
def Obliging (muxer : Muxer μ) (state : μ) : Prop :=
  ∀ path calls, (∀ call ∈ calls, call.isCreation = false) →
    muxer.TakesAll state [] (.create path :: calls)

theorem perform_cons_of_takes {planned : PlannedCall} {rest : List PlannedCall}
    {earlier : List MuxerCall} (htakes : muxer.Takes state earlier planned.call)
    (hnumbered : PlannedCall.Numbered (MuxerCall.tracks earlier) (planned :: rest)) :
    muxer.perform (planned :: rest) (muxer.after earlier state) =
      let later := muxer.perform rest (muxer.after (earlier ++ [planned.call]) state)
      { later with calls := planned.call :: later.calls } := by
  obtain ⟨number, hanswer, hnumber⟩ := htakes
  rw [after_concat, perform]
  rcases hsplit : muxer.answer planned.call (muxer.after earlier state) with ⟨result, next⟩
  rw [hsplit] at hanswer
  dsimp only at hanswer
  subst hanswer
  rw [PlannedCall.Numbered] at hnumbered
  split at hnumbered
  · rename_i hdeclares
    simp only [hnumbered.1, hnumber hdeclares, if_true]
  · simp only [hnumbered.1]

theorem perform_cons_of_not_takes {planned : PlannedCall} {rest : List PlannedCall}
    {earlier : List MuxerCall} (htakes : ¬ muxer.Takes state earlier planned.call)
    (hnumbered : PlannedCall.Numbered (MuxerCall.tracks earlier) (planned :: rest)) :
    ∃ failure, muxer.perform (planned :: rest) (muxer.after earlier state) =
      ⟨.error failure, [planned.call], muxer.after (earlier ++ [planned.call]) state⟩ := by
  rw [after_concat, perform]
  rcases hsplit : muxer.answer planned.call (muxer.after earlier state) with ⟨result, next⟩
  rcases result with failure | number
  · exact ⟨failure, rfl⟩
  · have hwrong : ¬(planned.call.isDeclaration → number = MuxerCall.tracks earlier) :=
      fun hnumber => htakes ⟨number, by rw [hsplit], hnumber⟩
    obtain ⟨hdeclares, hne⟩ := Classical.not_imp.1 hwrong
    rw [PlannedCall.Numbered, if_pos hdeclares] at hnumbered
    exact ⟨misnumbered number (MuxerCall.tracks earlier), by simp only [hnumbered.1, if_neg hne]⟩

/-- A plan is performed as a whole if every call is taken. -/
theorem perform_of_takesAll {plan : List PlannedCall} (earlier : List MuxerCall)
    (hnumbered : PlannedCall.Numbered (MuxerCall.tracks earlier) plan)
    (htakes : muxer.TakesAll state earlier (plan.map (·.call))) :
    muxer.perform plan (muxer.after earlier state) =
      ⟨.ok (), plan.map (·.call), muxer.after (earlier ++ plan.map (·.call)) state⟩ := by
  induction plan generalizing earlier with
  | nil => rw [List.map_nil, List.append_nil, perform]
  | cons planned rest ih =>
    rw [perform_cons_of_takes htakes.1 hnumbered, ih _ hnumbered.rest htakes.2]
    simp

/-- **A plan is performed up to the first call that is not taken.** -/
theorem perform_of_not_takesAll {plan : List PlannedCall} (earlier : List MuxerCall)
    (hnumbered : PlannedCall.Numbered (MuxerCall.tracks earlier) plan)
    (htakes : ¬ muxer.TakesAll state earlier (plan.map (·.call))) :
    ∃ failure taken call, taken ++ [call] <+: plan.map (·.call) ∧
      muxer.TakesAll state earlier taken ∧ ¬ muxer.Takes state (earlier ++ taken) call ∧
      muxer.perform plan (muxer.after earlier state) =
        ⟨.error failure, taken ++ [call], muxer.after (earlier ++ (taken ++ [call])) state⟩ := by
  induction plan generalizing earlier with
  | nil => exact absurd trivial htakes
  | cons planned rest ih =>
    by_cases hfirst : muxer.Takes state earlier planned.call
    · obtain ⟨failure, taken, call, hprefix, htaken, hcall, hperform⟩ :=
        ih _ hnumbered.rest fun hrest => htakes ⟨hfirst, hrest⟩
      refine ⟨failure, planned.call :: taken, call, ?_, ⟨hfirst, htaken⟩, ?_, ?_⟩
      · exact List.cons_prefix_cons.2 ⟨rfl, hprefix⟩
      · simpa using hcall
      · rw [perform_cons_of_takes hfirst hnumbered, hperform]
        simp
    · obtain ⟨failure, hperform⟩ := perform_cons_of_not_takes hfirst hnumbered
      refine ⟨failure, [], planned.call, ?_, trivial, ?_, ?_⟩
      · exact List.cons_prefix_cons.2 ⟨rfl, List.nil_prefix⟩
      · simpa using hfirst
      · rw [hperform]
        rfl

/-! ## A muxer that works -/

/-- A muxer that takes every call and numbers the tracks of each file 0, 1, 2, …. -/
def counting : Muxer Nat where
  answer call tracks :=
    (.ok tracks,
      match call with
      | .create _ => 0
      | .declare _ => tracks + 1
      | _ => tracks)

theorem takesAll_counting (earlier calls : List MuxerCall) (tracks : Nat)
    (hearlier : counting.after earlier tracks = MuxerCall.tracks earlier)
    (hcalls : ∀ call ∈ calls, call.isCreation = false) :
    counting.TakesAll tracks earlier calls := by
  induction calls generalizing earlier with
  | nil => trivial
  | cons call calls ih =>
    refine ⟨⟨_, rfl, fun _ => hearlier⟩, ih _ ?_ fun other hother =>
      hcalls other (List.mem_cons_of_mem _ hother)⟩
    have hcall := hcalls call List.mem_cons_self
    rw [after_concat, hearlier, MuxerCall.tracks_concat]
    cases call <;> simp_all [counting, MuxerCall.isDeclaration, MuxerCall.isCreation]

theorem obliging_counting (tracks : Nat) : counting.Obliging tracks := fun _ calls hcalls =>
  ⟨⟨_, rfl, fun h => by cases h⟩, takesAll_counting _ calls tracks rfl hcalls⟩

end Muxer

end InstantReplay
