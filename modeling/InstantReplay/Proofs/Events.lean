import Mathlib.Data.List.Basic

/-!
# Runs and their events

What a part of the program does to the world outside is a run of that world, with an event for
every call that the part makes and the answer it gets (`Trail`). A statement about the calls is one
about each event and what was before and behind it (`AtEach`).
-/

namespace InstantReplay

/-- A run from one state to another, with its events. -/
inductive Trail {σ ε : Type} (step : σ → ε → σ → Prop) : σ → List ε → σ → Prop
  | nil (state : σ) : Trail step state [] state
  | cons {first middle last : σ} {event : ε} {events : List ε} (hstep : step first event middle)
      (hrest : Trail step middle events last) : Trail step first (event :: events) last

namespace Trail

variable {σ ε : Type} {step : σ → ε → σ → Prop} {first middle last : σ} {event : ε}
  {front back : List ε}

theorem single (hstep : step first event last) : Trail step first [event] last :=
  .cons hstep (.nil last)

theorem append (hfront : Trail step first front middle) (hback : Trail step middle back last) :
    Trail step first (front ++ back) last := by
  induction hfront with
  | nil => exact hback
  | cons hstep _ ih => exact .cons hstep (ih hback)

theorem exists_of_cons (h : Trail step first (event :: back) last) :
    ∃ middle, step first event middle ∧ Trail step middle back last := by
  cases h with
  | cons hstep hrest => exact ⟨_, hstep, hrest⟩

/-- A run may be cut in two anywhere. -/
theorem exists_of_append (h : Trail step first (front ++ back) last) :
    ∃ middle, Trail step first front middle ∧ Trail step middle back last := by
  induction front generalizing first with
  | nil => exact ⟨first, .nil first, h⟩
  | cons event front ih =>
    obtain ⟨next, hstep, hrest⟩ := exists_of_cons h
    obtain ⟨middle, hfront, hback⟩ := ih hrest
    exact ⟨middle, .cons hstep hfront, hback⟩

end Trail

/-- Each event is as it should be, between those before it and those behind it. -/
def AtEach {ε : Type} (events : List ε) (good : List ε → ε → List ε → Prop) : Prop :=
  ∀ before event behind, events = before ++ event :: behind → good before event behind

namespace AtEach

variable {ε : Type} {good : List ε → ε → List ε → Prop} {event : ε} {front back : List ε}

theorem nil : AtEach [] good := fun before event behind h =>
  absurd h.symm (List.append_ne_nil_of_right_ne_nil before (List.cons_ne_nil event behind))

theorem cons (hfirst : good [] event back)
    (hback : AtEach back fun before other behind => good (event :: before) other behind) :
    AtEach (event :: back) good := by
  intro before other behind h
  cases before with
  | nil =>
    obtain ⟨rfl, rfl⟩ := List.cons_eq_cons.1 h
    exact hfirst
  | cons first before =>
    obtain ⟨rfl, hrest⟩ := List.cons_eq_cons.1 h
    exact hback before other behind hrest

theorem append (hfront : AtEach front fun before event behind => good before event (behind ++ back))
    (hback : AtEach back fun before event behind => good (front ++ before) event behind) :
    AtEach (front ++ back) good := by
  induction front generalizing good with
  | nil => exact hback
  | cons first front ih =>
    exact .cons (hfront [] first front rfl) <|
      ih (fun before event behind h => hfront (first :: before) event behind (congrArg _ h)) hback

end AtEach

/-- What each step keeps of the events before it and the state after them is kept by a run, and what
each step makes of its event holds of every event. -/
theorem Trail.keeps {σ ε : Type} {step : σ → ε → σ → Prop} {kept : List ε → σ → Prop}
    {good : List ε → ε → Prop}
    (hstep : ∀ before first event next, kept before first → step first event next →
      kept (before ++ [event]) next ∧ good before event)
    {first last : σ} {before events : List ε} (h : kept before first)
    (htrail : Trail step first events last) :
    kept (before ++ events) last ∧
      AtEach events fun middle event _ => good (before ++ middle) event := by
  induction htrail generalizing before with
  | nil => exact ⟨(List.append_nil before).symm ▸ h, .nil⟩
  | cons hfirst _ ih =>
    obtain ⟨hnext, hgood⟩ := hstep _ _ _ _ h hfirst
    obtain ⟨hlast, hrest⟩ := ih hnext
    rw [List.append_assoc, List.singleton_append] at hlast
    refine ⟨hlast, .cons ?_ ?_⟩
    · rw [List.append_nil]
      exact hgood
    · simpa only [List.append_assoc, List.singleton_append] using hrest

/-- The events of inputs in turn, where `events` gives those that an input adds to the ones so
far. -/
def gather {ι ε : Type} (events : List ε → List ι → ι → List ε) (sofar : List ε)
    (before : List ι) : List ι → List ε
  | [] => sofar
  | input :: rest => gather events (sofar ++ events sofar before input) (before ++ [input]) rest

theorem gather_concat {ι ε : Type} (events : List ε → List ι → ι → List ε) (sofar : List ε)
    (before inputs : List ι) (input : ι) :
    gather events sofar before (inputs ++ [input]) = gather events sofar before inputs ++
      events (gather events sofar before inputs) (before ++ inputs) input := by
  induction inputs generalizing sofar before with
  | nil => simp only [List.nil_append, gather, List.append_nil]
  | cons first rest ih =>
    rw [List.cons_append, gather, ih, gather, List.append_assoc before, List.singleton_append]

end InstantReplay
