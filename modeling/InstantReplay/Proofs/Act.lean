import InstantReplay.Act

/-!
# Running actions

What an action does when it is run on a scene, for the actions that others are made of. An action
is run step by step with `Act.run_bind_ok`.
-/

namespace InstantReplay.Act

variable {σ α β : Type}

theorem run_state (scene : Scene σ) :
    (state : Act σ σ).run.run scene = (.ok scene.state, scene) :=
  rfl

theorem run_change (f : σ → σ) (scene : Scene σ) :
    (change f).run.run scene = (.ok (), { scene with state := f scene.state }) :=
  rfl

theorem run_ofExcept (result : Except Failure α) (scene : Scene σ) :
    (ofExcept result : Act σ α).run.run scene = (result, scene) := by
  cases result <;> rfl

theorem run_note (line : LogLine) (scene : Scene σ) :
    (note line : Act σ Unit).run.run scene = (.ok (), { scene with log := scene.log ++ [line] }) :=
  rfl

theorem run_step (f : σ → α × σ) (scene : Scene σ) :
    (step f).run.run scene =
      (.ok (f scene.state).1, { scene with state := (f scene.state).2 }) :=
  rfl

/-- Two actions in turn. -/
theorem run_bind (first : Act σ α) (next : α → Act σ β) (scene : Scene σ) :
    (first >>= next).run.run scene =
      match first.run.run scene with
      | (.ok value, later) => (next value).run.run later
      | (.error failure, later) => (.error failure, later) := by
  show (StateT.bind first.run fun result => ExceptT.bindCont next result) scene = _
  rw [StateT.bind]
  rcases hfirst : first.run.run scene with ⟨_ | _, later⟩
  · have : first.run scene = (.error _, later) := hfirst
    rw [this]
    rfl
  · have : first.run scene = (.ok _, later) := hfirst
    rw [this]
    rfl

/-- Two actions in turn, when the first does not fail. -/
theorem run_bind_ok {first : Act σ α} {next : α → Act σ β} {scene later : Scene σ} {value : α}
    (h : first.run.run scene = (.ok value, later)) :
    (first >>= next).run.run scene = (next value).run.run later := by
  rw [run_bind, h]

/-- Two actions in turn, when the first fails. -/
theorem run_bind_error {first : Act σ α} {next : α → Act σ β} {scene later : Scene σ}
    {failure : Failure} (h : first.run.run scene = (.error failure, later)) :
    (first >>= next).run.run scene = (.error failure, later) := by
  rw [run_bind, h]

/-- Two actions in turn that end well: so does each of them. -/
theorem exists_of_run_bind_ok {first : Act σ α} {next : α → Act σ β} {scene last : Scene σ}
    {value : β} (h : (first >>= next).run.run scene = (.ok value, last)) :
    ∃ middle later, first.run.run scene = (.ok middle, later) ∧
      (next middle).run.run later = (.ok value, last) := by
  rw [run_bind] at h
  rcases hfirst : first.run.run scene with ⟨failure | middle, later⟩
  · rw [hfirst] at h
    cases h
  · rw [hfirst] at h
    exact ⟨middle, later, rfl, h⟩

theorem run_tryCatch (action : Act σ α) (handle : Failure → Act σ α) (scene : Scene σ) :
    (tryCatch action handle).run.run scene =
      match action.run.run scene with
      | (.ok value, later) => (.ok value, later)
      | (.error failure, later) => (handle failure).run.run later := by
  simp only [tryCatch, tryCatchThe, MonadExceptOf.tryCatch, ExceptT.tryCatch, ExceptT.run_mk,
    StateT.run_bind]
  rcases hfirst : action.run.run scene with ⟨_ | _, later⟩
  · have : StateT.run action scene = (.error _, later) := hfirst
    rw [this]
    rfl
  · have : StateT.run action scene = (.ok _, later) := hfirst
    rw [this]
    rfl

/-- An attempt has what the action comes to as its value. -/
theorem run_attempt (action : Act σ α) (scene : Scene σ) :
    action.attempt.run.run scene = (.ok (action.run.run scene).1, (action.run.run scene).2) := by
  rw [attempt, run_tryCatch, run_bind]
  rcases action.run.run scene with ⟨failure | value, later⟩ <;> rfl

/-- Noting lines adds them to the log. -/
theorem run_forM_note (lines : List LogLine) (scene : Scene σ) :
    (lines.forM (note (σ := σ))).run.run scene =
      (.ok (), { scene with log := scene.log ++ lines }) := by
  induction lines generalizing scene with
  | nil =>
    rw [List.append_nil]
    rfl
  | cons line lines ih =>
    have hline : (note line : Act σ Unit).run.run scene =
        (.ok (), { scene with log := scene.log ++ [line] }) := rfl
    show (note line >>= fun _ => lines.forM note : Act σ Unit).run.run scene = _
    rw [run_bind_ok hline, ih, List.append_assoc, List.singleton_append]

/-- An action on a part of the state changes only this part. -/
theorem run_within {τ : Type} (part : σ → τ) (put : τ → σ → σ) (action : Act τ α)
    (scene : Scene σ) :
    (within part put action).run.run scene =
      ((action.runOn (part scene.state)).1,
        { state := put (action.runOn (part scene.state)).2.1 scene.state
          log := scene.log ++ (action.runOn (part scene.state)).2.2 }) := by
  rw [within, run_bind_ok (run_state scene)]
  rcases action.runOn (part scene.state) with ⟨outcome, inner, lines⟩
  dsimp only
  rw [run_bind_ok (run_change _ _), run_bind_ok (run_forM_note _ _), run_ofExcept]

/-! ## What an action can come to -/

/-- The action comes to this value on some scene. -/
def Yields (action : Act σ α) (value : α) : Prop :=
  ∃ scene later, action.run.run scene = (.ok value, later)

theorem yields_of_run {action : Act σ α} {value : α} (scene : Scene σ)
    (h : (action.run.run scene).1 = .ok value) : Yields action value :=
  ⟨scene, (action.run.run scene).2, Prod.ext h rfl⟩

theorem Yields.exists_of_bind {first : Act σ α} {next : α → Act σ β} {value : β}
    (h : Yields (first >>= next) value) : ∃ middle, Yields first middle ∧ Yields (next middle) value := by
  obtain ⟨scene, last, hrun⟩ := h
  obtain ⟨middle, later, hfirst, hnext⟩ := exists_of_run_bind_ok hrun
  exact ⟨middle, ⟨scene, later, hfirst⟩, later, last, hnext⟩

theorem Yields.eq_of_pure {found value : α} (h : Yields (pure found : Act σ α) value) :
    value = found := by
  obtain ⟨scene, later, hrun⟩ := h
  cases hrun
  rfl

theorem not_yields_throw {failure : Failure} {value : α} :
    ¬Yields (throw failure : Act σ α) value := by
  rintro ⟨scene, later, hrun⟩
  cases hrun

theorem Yields.eq_of_ofExcept {result : Except Failure α} {value : α}
    (h : Yields (ofExcept result : Act σ α) value) : result = .ok value := by
  cases result with
  | error failure => exact absurd h not_yields_throw
  | ok found => rw [Yields.eq_of_pure h]

end InstantReplay.Act
