import InstantReplay.Failure
import InstantReplay.Log

/-!
# Actions

An action changes a state, notes lines in the log, and gives a value or fails. What it did before
a failure stays done.
-/

namespace InstantReplay

/-- What an action works on: a state, and the log so far. -/
structure Scene (σ : Type) where
  state : σ
  log : List LogLine := []

/-- An action on states in `σ`. -/
abbrev Act (σ : Type) := ExceptT Failure (StateM (Scene σ))

namespace Act

variable {σ τ α : Type}

/-- Notes a line in the log. -/
def note (line : LogLine) : Act σ Unit :=
  modify fun scene => { scene with log := scene.log ++ [line] }

/-- A step of the state that gives a value. -/
def step (f : σ → α × σ) : Act σ α :=
  modifyGet fun scene =>
    let (value, state) := f scene.state
    (value, { scene with state := state })

/-- The state. -/
def state : Act σ σ := do return (← get).state

/-- Changes the state. -/
def change (f : σ → σ) : Act σ Unit := step fun state => ((), f state)

/-- A value or a failure that is there already. -/
def ofExcept : Except Failure α → Act σ α
  | .ok value => pure value
  | .error failure => throw failure

/-- The action's value or failure as a value; this action itself does not fail. -/
def attempt (action : Act σ α) : Act σ (Except Failure α) :=
  tryCatch (do return .ok (← action)) fun failure => pure (.error failure)

/-- Runs an action: its outcome, the state after it and the lines it noted. -/
def runOn (action : Act σ α) (state : σ) : Except Failure α × σ × List LogLine :=
  let (outcome, scene) := action.run.run { state := state }
  (outcome, scene.state, scene.log)

/-- An action on a part of the state. -/
def within (part : σ → τ) (put : τ → σ → σ) (action : Act τ α) : Act σ α := do
  let (outcome, inner, lines) := action.runOn (part (← Act.state))
  change (put inner)
  lines.forM note
  ofExcept outcome

end Act

end InstantReplay
