import InstantReplay.Proofs.Save.Runs
import Mathlib.Logic.Function.Basic

/-!
# Consistent cuts

Each history has a lock. A writer changes the history of a stream only while it holds the lock, and
a saver that copies the histories takes all locks first, one after the other in the order of the
streams, and gives them back after the last copy. `CutRun.step?` takes one of these steps; a step
that has to wait for a lock is none, and an attempt at it changes nothing (`CutRun.step`).

While the saver takes the locks, the streams that it has not reached yet keep changing. Still, the
copies of a round are what all histories hold at one moment of that round, the one at which the last
lock is taken (`CutRun.Instant`). So the copies respect the order of commits across streams, and no
party waits for ever (`CutRun.consistent_cut`).
-/

namespace InstantReplay

/-- Who holds the lock of a history. -/
inductive LockHolder
  | writer
  | saver
  deriving DecidableEq

/-- How far a saver is with copying the histories. -/
inductive CutPhase
  /-- The locks of the streams before `next` are taken, none between two cuts. -/
  | locking (next : Nat)
  /-- All locks are taken, and some streams are copied. -/
  | copying (copies : List Snapshot)
  /-- All streams are copied, and the locks of those before `next` are given back. -/
  | unlocking (copies : List Snapshot) (next : Nat)

/-- Whether a saver of `width` streams holds the lock `index` in a phase. -/
def CutPhase.Owns (width index : Nat) : CutPhase → Prop
  | .locking next => index < next
  | .copying _ => index < width
  | .unlocking _ next => next ≤ index ∧ index < width

/-- A saver and the writers of its streams. -/
structure CutRun (μ : Type) where
  saver : Saver μ
  /-- Who holds the lock of a stream. -/
  holder : Nat → Option LockHolder := fun _ => none
  phase : CutPhase := .locking 0
  /-- The copies made so far. -/
  cuts : List (List Snapshot) := []

/-- What a party does. -/
inductive CutEvent
  /-- The writer of a stream takes its lock. -/
  | enter (index : Nat)
  /-- The writer of a stream puts a call to the history. -/
  | feed (index : Nat) (call : HistoryCall)
  /-- The writer of a stream gives its lock back. -/
  | leave (index : Nat)
  /-- The saver does what comes next. -/
  | save

namespace CutRun

variable {μ : Type}

/-- The number of streams. -/
def width (run : CutRun μ) : Nat := run.saver.streams.length

/-- The run with another holder of the lock `index`. -/
def setHolder (run : CutRun μ) (index : Nat) (holder : Option LockHolder) : CutRun μ :=
  { run with holder := Function.update run.holder index holder }

/-- The run after a call on the history of the stream `index`. -/
def ask (run : CutRun μ) (index : Nat) (call : HistoryCall) : CutRun μ :=
  { run with saver := { run.saver with
      streams := run.saver.streams.modify index
        (FollowedStream.change fun history => (history.answer call).2) } }

/-- What the saver does next, unless it waits for a lock. -/
def advance? (run : CutRun μ) : Option (CutRun μ) :=
  match run.phase with
  | .locking next =>
    if next < run.width then
      if run.holder next = none then
        some { run.setHolder next (some .saver) with phase := .locking (next + 1) }
      else none
    else some { run with phase := .copying [] }
  | .copying copies =>
    match run.saver.streams[copies.length]? with
    | some stream => some { run with phase := .copying (copies ++ [stream.history.snapshot]) }
    | none => some { run with phase := .unlocking copies 0 }
  | .unlocking copies next =>
    if next < run.width then
      some { run.setHolder next none with phase := .unlocking copies (next + 1) }
    else some { run with phase := .locking 0, cuts := run.cuts ++ [copies] }

/-- A step of a run. There is none if the party does not hold the lock that it needs or waits for
one. -/
def step? (run : CutRun μ) : CutEvent → Option (CutRun μ)
  | .enter index =>
    if index < run.width ∧ run.holder index = none then
      some (run.setHolder index (some .writer))
    else none
  | .feed index call =>
    if run.holder index = some .writer ∧ call.feeds then some (run.ask index call) else none
  | .leave index =>
    if run.holder index = some .writer then some (run.setHolder index none) else none
  | .save => run.advance?

/-- The run after an attempt at a step. -/
def step (run : CutRun μ) (event : CutEvent) : CutRun μ := (run.step? event).getD run

/-- The run after events. -/
def after (run : CutRun μ) (events : List CutEvent) : CutRun μ := events.foldl step run

/-- The run after the first `moment` of some events. -/
def atMoment (start : CutRun μ) (events : List CutEvent) (moment : Nat) : CutRun μ :=
  start.after (events.take moment)

/-- Nobody holds a lock, and nothing is copied yet. -/
structure Idle (run : CutRun μ) : Prop where
  free : ∀ index, run.holder index = none
  phase_eq : run.phase = .locking 0
  cuts_eq : run.cuts = []
  sound : ∀ stream ∈ run.saver.streams, stream.history.Sound

/-! ## Moments of a run -/

/-- The moment at which the saver gets the last lock and so holds all of them. -/
structure Instant (start : CutRun μ) (events : List CutEvent) (moment : Nat) : Prop where
  locked : ∀ index < start.width, (start.atMoment events moment).holder index = some .saver
  acquired : ∀ last, start.width = last + 1 → ∃ earlier, moment = earlier + 1 ∧
    (start.atMoment events earlier).holder last ≠ some .saver

/-- The event after the first `moment` of some events commits an entry to the stream `index`. -/
def Commits (start : CutRun μ) (events : List CutEvent) (moment index : Nat)
    (entry : NumberedPacket) : Prop :=
  ∃ before after, (start.atMoment events moment).saver.streams[index]? = some before ∧
    (start.atMoment events (moment + 1)).saver.streams[index]? = some after ∧
    before.next ≤ entry.seq ∧ entry ∈ after.held

/-- The event after the first `moment` of some events evicts an entry of the stream `index`. -/
def Evicts (start : CutRun μ) (events : List CutEvent) (moment index : Nat)
    (entry : NumberedPacket) : Prop :=
  ∃ before after, (start.atMoment events moment).saver.streams[index]? = some before ∧
    (start.atMoment events (moment + 1)).saver.streams[index]? = some after ∧
    entry ∈ before.held ∧ entry ∉ after.held ∧ before.history.evicted < after.history.evicted

/-- If a cut has an entry, it has all entries that were committed before, to any stream, but for
those that were evicted before the moment of the cut. -/
def Causal (start : CutRun μ) (events : List CutEvent) (moment : Nat) (cut : List Snapshot) :
    Prop :=
  ∀ (earlier later index place : Nat) (entry other : NumberedPacket) (snapshot : Snapshot),
    earlier < later → start.Commits events earlier index entry →
    start.Commits events later place other → cut[place]? = some snapshot →
    other ∈ snapshot.numbered →
      (∃ beside, cut[index]? = some beside ∧ entry ∈ beside.numbered) ∨
        ∃ between, earlier < between ∧ between < moment ∧ start.Evicts events between index entry

/-- No party is stuck: there always is a step, and both the saver and any writer can get on with
the help of the others. -/
structure Progresses (run : CutRun μ) : Prop where
  moves : ∃ event later, run.step? event = some later
  saves : ∃ events, (run.after events).phase = .locking 0 ∧
    (run.after events).cuts.length = run.cuts.length + 1
  enters : ∀ index < run.width, ∃ events, (run.after events).holder index = some .writer

/-! ## What a step does -/

variable {run later start : CutRun μ} {event : CutEvent} {events : List CutEvent}
  {index moment : Nat} {before : FollowedStream} {entry : NumberedPacket} {cut : List Snapshot}

/-- The step `event` leads from `run` to another run, and how it does. -/
inductive Moves (run : CutRun μ) : CutEvent → CutRun μ → Prop
  | entered (index : Nat) (hlt : index < run.width) (hfree : run.holder index = none) :
    Moves run (.enter index) (run.setHolder index (some .writer))
  | fed (index : Nat) (call : HistoryCall) (hheld : run.holder index = some .writer)
    (hcall : call.feeds) : Moves run (.feed index call) (run.ask index call)
  | left (index : Nat) (hheld : run.holder index = some .writer) :
    Moves run (.leave index) (run.setHolder index none)
  | locked (next : Nat) (hphase : run.phase = .locking next) (hlt : next < run.width)
    (hfree : run.holder next = none) :
    Moves run .save { run.setHolder next (some .saver) with phase := .locking (next + 1) }
  | began (next : Nat) (hphase : run.phase = .locking next) (hle : run.width ≤ next) :
    Moves run .save { run with phase := .copying [] }
  | copied (copies : List Snapshot) (stream : FollowedStream) (hphase : run.phase = .copying copies)
    (hstream : run.saver.streams[copies.length]? = some stream) :
    Moves run .save { run with phase := .copying (copies ++ [stream.history.snapshot]) }
  | finished (copies : List Snapshot) (hphase : run.phase = .copying copies)
    (hle : run.width ≤ copies.length) : Moves run .save { run with phase := .unlocking copies 0 }
  | unlocked (copies : List Snapshot) (next : Nat) (hphase : run.phase = .unlocking copies next)
    (hlt : next < run.width) :
    Moves run .save { run.setHolder next none with phase := .unlocking copies (next + 1) }
  | ended (copies : List Snapshot) (next : Nat) (hphase : run.phase = .unlocking copies next)
    (hle : run.width ≤ next) :
    Moves run .save { run with phase := .locking 0, cuts := run.cuts ++ [copies] }

/-- **A step is one of these moves.** -/
theorem moves_of_step? (h : run.step? event = some later) : run.Moves event later := by
  cases event with
  | enter index =>
    obtain ⟨⟨hlt, hfree⟩, hlater⟩ := Option.ite_none_right_eq_some.1 h
    exact Option.some.inj hlater ▸ .entered index hlt hfree
  | feed index call =>
    obtain ⟨⟨hheld, hcall⟩, hlater⟩ := Option.ite_none_right_eq_some.1 h
    exact Option.some.inj hlater ▸ .fed index call hheld hcall
  | leave index =>
    obtain ⟨hheld, hlater⟩ := Option.ite_none_right_eq_some.1 h
    exact Option.some.inj hlater ▸ .left index hheld
  | save =>
    rw [step?, advance?] at h
    rcases hphase : run.phase with next | copies | ⟨copies, next⟩
    · simp only [hphase] at h
      split at h
      · rename_i hlt
        obtain ⟨hfree, hlater⟩ := Option.ite_none_right_eq_some.1 h
        exact Option.some.inj hlater ▸ .locked next hphase hlt hfree
      · rename_i hle
        exact Option.some.inj h ▸ .began next hphase (Nat.le_of_not_lt hle)
    · simp only [hphase] at h
      split at h
      · rename_i stream hstream
        exact Option.some.inj h ▸ .copied copies stream hphase hstream
      · rename_i hnone
        exact Option.some.inj h ▸ .finished copies hphase (List.getElem?_eq_none_iff.1 hnone)
    · simp only [hphase] at h
      split at h
      · rename_i hlt
        exact Option.some.inj h ▸ .unlocked copies next hphase hlt
      · rename_i hle
        exact Option.some.inj h ▸ .ended copies next hphase (Nat.le_of_not_lt hle)

theorem step_eq_or_moves (run : CutRun μ) (event : CutEvent) :
    run.step event = run ∨ run.Moves event (run.step event) := by
  rw [step]
  rcases hstep : run.step? event with _ | later
  · exact Or.inl rfl
  · exact Or.inr (moves_of_step? hstep)

/-- From one moment to the next, nothing changes or there is a move. -/
theorem atMoment_succ (start : CutRun μ) (events : List CutEvent) (moment : Nat) :
    start.atMoment events (moment + 1) = start.atMoment events moment ∨
      ∃ event, (start.atMoment events moment).Moves event (start.atMoment events (moment + 1)) := by
  rw [atMoment, atMoment]
  rcases Nat.lt_or_ge moment events.length with hlt | hge
  · rw [List.take_succ_eq_append_getElem hlt, after, List.foldl_append]
    exact (step_eq_or_moves _ _).imp_right fun hmoves => ⟨_, hmoves⟩
  · rw [List.take_of_length_le hge, List.take_of_length_le (Nat.le_succ_of_le hge)]
    exact Or.inl rfl

/-! ## What a step does to the streams -/

/-- A move leaves the streams as they are, or it is a call of a writer that holds the lock. -/
theorem Moves.streams_eq_or (h : run.Moves event later) :
    later.saver.streams = run.saver.streams ∨
      ∃ index call, run.holder index = some .writer ∧ call.feeds ∧ later = run.ask index call := by
  cases h with
  | fed index call hheld hcall => exact Or.inr ⟨index, call, hheld, hcall, rfl⟩
  | _ => exact Or.inl rfl

theorem Moves.width_eq (h : run.Moves event later) : later.width = run.width := by
  rcases h.streams_eq_or with hsame | ⟨index, call, -, -, rfl⟩
  · rw [width, hsame, width]
  · exact List.length_modify _ _ _

/-- **A stream is fed in a step**, if it changes at all. -/
theorem Moves.exists_feeds (h : run.Moves event later)
    (hsound : ∀ stream ∈ run.saver.streams, stream.history.Sound)
    (hbefore : run.saver.streams[index]? = some before) :
    ∃ after, later.saver.streams[index]? = some after ∧ after.history.Sound ∧
      ∃ new dropped, before.history.Feeds after.history new dropped := by
  have hstays : later.saver.streams[index]? = some before → ∃ after,
      later.saver.streams[index]? = some after ∧ after.history.Sound ∧
        ∃ new dropped, before.history.Feeds after.history new dropped := fun hlater =>
    ⟨before, hlater, hsound _ (List.mem_of_getElem? hbefore), [], [], before.history.feeds_self⟩
  rcases h.streams_eq_or with hsame | ⟨place, call, -, hcall, rfl⟩
  · exact hstays (hsame ▸ hbefore)
  by_cases hplace : place = index
  · have hhistory := hsound _ (List.mem_of_getElem? hbefore)
    refine ⟨before.change fun history => (history.answer call).2, ?_, hhistory.answer call,
      hhistory.exists_feeds hcall⟩
    rw [ask, List.getElem?_modify, hbefore, hplace]
    simp
  · refine hstays ?_
    rw [ask, List.getElem?_modify, hbefore]
    simp [hplace]

/-! ## Who holds the locks -/

/-- The saver holds the locks of its phase, and only streams of the saver are locked. -/
structure Orderly (run : CutRun μ) : Prop where
  owner_iff : ∀ index, run.holder index = some .saver ↔ run.phase.Owns run.width index
  next_le : ∀ next, run.phase = .locking next → next ≤ run.width
  holder_lt : ∀ index, run.holder index ≠ none → index < run.width
  sound : ∀ stream ∈ run.saver.streams, stream.history.Sound

theorem Idle.orderly (h : start.Idle) : start.Orderly where
  owner_iff index := by
    rw [h.free, h.phase_eq, CutPhase.Owns]
    simp
  next_le next hphase := by
    rw [h.phase_eq, CutPhase.locking.injEq] at hphase
    omega
  holder_lt index hholder := absurd (h.free index) hholder
  sound := h.sound

theorem holder_setHolder (run : CutRun μ) (index place : Nat) (holder : Option LockHolder) :
    (run.setHolder index holder).holder place =
      if place = index then holder else run.holder place :=
  Function.update_apply _ _ _ _

/-- A lock that gets another holder belongs to a stream. -/
theorem Moves.holder_eq_or (h : run.Moves event later) (horderly : run.Orderly) (place : Nat) :
    later.holder place = run.holder place ∨ place < run.width := by
  have hset : ∀ (index : Nat) (holder : Option LockHolder), index < run.width →
      (run.setHolder index holder).holder place = run.holder place ∨ place < run.width := by
    intro index holder hlt
    rw [holder_setHolder]
    split
    · rename_i hplace
      exact Or.inr (hplace ▸ hlt)
    · exact Or.inl rfl
  cases h with
  | entered index hlt => exact hset index _ hlt
  | left index hheld => exact hset index _ (horderly.holder_lt index (by simp [hheld]))
  | locked next hphase hlt => exact hset next _ hlt
  | unlocked copies next hphase hlt => exact hset next _ hlt
  | _ => exact Or.inl rfl

/-- A lock that changes hands is the next one of the saver, or none of its own. -/
theorem Moves.owner_iff (h : run.Moves event later) (horderly : run.Orderly) (place : Nat) :
    later.holder place = some .saver ↔ later.phase.Owns run.width place := by
  have howner := horderly.owner_iff place
  cases h with
  | entered index hlt hfree =>
    show (run.setHolder index (some .writer)).holder place = _ ↔ run.phase.Owns run.width place
    rw [holder_setHolder, ← howner]
    split
    · simp [*]
    · rfl
  | fed => exact howner
  | left index hheld =>
    show (run.setHolder index none).holder place = _ ↔ run.phase.Owns run.width place
    rw [holder_setHolder, ← howner]
    split
    · simp [*]
    · rfl
  | locked next hphase hlt hfree =>
    rw [hphase, CutPhase.Owns] at howner
    show (run.setHolder next (some .saver)).holder place = _ ↔ place < next + 1
    rw [holder_setHolder]
    split
    · simp [*]
    · rw [howner]
      omega
  | began next hphase hle =>
    have hlast := horderly.next_le next hphase
    rw [hphase, CutPhase.Owns] at howner
    show run.holder place = some .saver ↔ place < run.width
    rw [howner]
    omega
  | copied copies stream hphase hstream => rwa [hphase, CutPhase.Owns] at howner
  | finished copies hphase hle =>
    rw [hphase, CutPhase.Owns] at howner
    show run.holder place = some .saver ↔ 0 ≤ place ∧ place < run.width
    rw [howner]
    omega
  | unlocked copies next hphase hlt =>
    rw [hphase, CutPhase.Owns] at howner
    show (run.setHolder next none).holder place = _ ↔ next + 1 ≤ place ∧ place < run.width
    rw [holder_setHolder]
    split
    · simp [*]
    · rw [howner]
      omega
  | ended copies next hphase hle =>
    rw [hphase, CutPhase.Owns] at howner
    show run.holder place = some .saver ↔ place < 0
    rw [howner]
    omega

theorem Moves.next_le (h : run.Moves event later) (horderly : run.Orderly) {next : Nat}
    (hphase : later.phase = .locking next) : next ≤ run.width := by
  cases h with
  | locked first hfirst hlt hfree =>
    rw [CutPhase.locking.injEq] at hphase
    omega
  | ended copies first hfirst hle =>
    rw [CutPhase.locking.injEq] at hphase
    omega
  | entered | fed | left => exact horderly.next_le next hphase
  | _ => cases hphase

theorem Moves.sound (h : run.Moves event later)
    (hsound : ∀ stream ∈ run.saver.streams, stream.history.Sound) :
    ∀ stream ∈ later.saver.streams, stream.history.Sound := by
  intro stream hstream
  obtain ⟨index, hindex⟩ := List.mem_iff_getElem?.1 hstream
  have hlt : index < run.saver.streams.length := by
    rw [← width, ← h.width_eq]
    exact (List.getElem?_eq_some_iff.1 hindex).1
  obtain ⟨after, hafter, hlater, -⟩ := h.exists_feeds hsound (List.getElem?_eq_getElem hlt)
  rw [hindex, Option.some.injEq] at hafter
  exact hafter ▸ hlater

/-- **A step keeps the locks to the phase of the saver.** -/
theorem Moves.orderly (h : run.Moves event later) (horderly : run.Orderly) : later.Orderly where
  owner_iff place := by
    rw [h.width_eq]
    exact h.owner_iff horderly place
  next_le next hphase := by
    rw [h.width_eq]
    exact h.next_le horderly hphase
  holder_lt place hplace := by
    rw [h.width_eq]
    rcases h.holder_eq_or horderly place with hsame | hlt
    · exact horderly.holder_lt place (hsame ▸ hplace)
    · exact hlt
  sound := h.sound horderly.sound

theorem orderly_after (h : run.Orderly) (events : List CutEvent) : (run.after events).Orderly := by
  induction events generalizing run with
  | nil => exact h
  | cons event events ih =>
    refine ih ?_
    rcases step_eq_or_moves run event with hsame | hmoves
    · rw [hsame]
      exact h
    · exact hmoves.orderly h

theorem width_after (run : CutRun μ) (events : List CutEvent) :
    (run.after events).width = run.width := by
  induction events generalizing run with
  | nil => rfl
  | cons event events ih =>
    refine (ih _).trans ?_
    rcases step_eq_or_moves run event with hsame | hmoves
    · rw [hsame]
    · exact hmoves.width_eq

/-! ## The copies of a cut -/

/-- While the saver holds all locks no history changes. -/
theorem Moves.streams_eq (h : run.Moves event later) (horderly : run.Orderly)
    (howns : ∀ index < run.width, run.phase.Owns run.width index) :
    later.saver.streams = run.saver.streams := by
  rcases h.streams_eq_or with hsame | ⟨index, call, hheld, -, -⟩
  · exact hsame
  · have hlt := horderly.holder_lt index (by simp [hheld])
    rw [(horderly.owner_iff index).2 (howns index hlt), Option.some.injEq] at hheld
    cases hheld

/-- What a run has to do with the instant of its round: as long as the saver holds all locks the
histories are those of the instant, and the copies are copies of them. -/
def FollowsInstant (run instant : CutRun μ) : Prop :=
  match run.phase with
  | .locking _ => run.saver.streams = instant.saver.streams
  | .copying copies => run.saver.streams = instant.saver.streams ∧
      copies = instant.saver.snapshots.take copies.length
  | .unlocking copies _ => copies = instant.saver.snapshots

/-- Up to `moment` there was the instant of the round `round`, counted from the first one, and the
run was `P` at it. -/
def HadInstant (start : CutRun μ) (events : List CutEvent) (moment round : Nat)
    (P : CutRun μ → Prop) : Prop :=
  ∃ earlier ≤ moment, (start.atMoment events earlier).cuts.length = round ∧
    start.Instant events earlier ∧ P (start.atMoment events earlier)

theorem HadInstant.succ {round : Nat} {P Q : CutRun μ → Prop}
    (h : start.HadInstant events moment round P) (hpq : ∀ run, P run → Q run) :
    start.HadInstant events (moment + 1) round Q := by
  obtain ⟨earlier, hle, hround, hinstant, hrun⟩ := h
  exact ⟨earlier, Nat.le_succ_of_le hle, hround, hinstant, hpq _ hrun⟩

/-- A round in which the saver got all locks goes back to its instant, and so do the cuts of the
rounds before. -/
structure Recalls (start : CutRun μ) (events : List CutEvent) (moment : Nat)
    (run : CutRun μ) : Prop where
  round : (∀ next, run.phase = .locking next → next = start.width) →
    start.HadInstant events moment run.cuts.length run.FollowsInstant
  cuts : ∀ round cut, run.cuts[round]? = some cut →
    start.HadInstant events moment round fun instant => cut = instant.saver.snapshots

/-- Without streams every moment is an instant. -/
theorem instant_of_width (hwidth : start.width = 0) (events : List CutEvent) (moment : Nat) :
    start.Instant events moment where
  locked index hlt := by omega
  acquired last hlast := by omega

/-- A step of a writer does not touch histories that are being copied. -/
theorem Moves.followsInstant_of_phase_eq {instant : CutRun μ} (h : run.Moves event later)
    (horderly : run.Orderly) (hphase : later.phase = run.phase)
    (hall : ∀ next, run.phase = .locking next → next = run.width)
    (hfollows : run.FollowsInstant instant) : later.FollowsInstant instant := by
  have hstreams := h.streams_eq horderly
  rcases hrun : run.phase with next | copies | ⟨copies, next⟩
  · simp only [FollowsInstant, hphase, hrun] at hfollows ⊢
    rw [hrun, hall next hrun] at hstreams
    exact (hstreams fun _ hlt => hlt).trans hfollows
  · simp only [FollowsInstant, hphase, hrun] at hfollows ⊢
    rw [hrun] at hstreams
    exact ⟨(hstreams fun _ hlt => hlt).trans hfollows.1, hfollows.2⟩
  · simpa only [FollowsInstant, hphase, hrun] using hfollows

/-- **From its instant to its end a round goes on following the instant.** -/
theorem Moves.followsInstant {instant : CutRun μ} (h : run.Moves event later)
    (horderly : run.Orderly) (hall : ∀ next, run.phase = .locking next → next = run.width)
    (hcuts : later.cuts = run.cuts) (hfollows : run.FollowsInstant instant) :
    later.FollowsInstant instant := by
  have hwriter (hphase : later.phase = run.phase) : later.FollowsInstant instant :=
    h.followsInstant_of_phase_eq horderly hphase hall hfollows
  cases h with
  | entered | fed | left => exact hwriter rfl
  | locked next hphase hlt hfree => exact absurd (hall next hphase) (Nat.ne_of_lt hlt)
  | began next hphase hle =>
    simp only [FollowsInstant, hphase] at hfollows
    exact ⟨hfollows, by simp⟩
  | copied copies stream hphase hstream =>
    simp only [FollowsInstant, hphase] at hfollows
    obtain ⟨hstreams, hcopies⟩ := hfollows
    refine ⟨hstreams, ?_⟩
    have hsnapshot : instant.saver.snapshots[copies.length]? = some stream.history.snapshot := by
      rw [Saver.snapshots, ← hstreams, List.getElem?_map, hstream, Option.map_some]
    rw [List.length_append, List.length_singleton, List.take_add_one, ← hcopies, hsnapshot,
      Option.toList_some]
  | finished copies hphase hle =>
    simp only [FollowsInstant, hphase] at hfollows
    obtain ⟨hstreams, hcopies⟩ := hfollows
    have hlength : instant.saver.snapshots.length ≤ copies.length := by
      rwa [Saver.snapshots, List.length_map, ← hstreams]
    rw [List.take_of_length_le hlength] at hcopies
    exact hcopies
  | unlocked copies next hphase hlt => simpa only [FollowsInstant, hphase] using hfollows
  | ended => simp at hcuts

/-- **A round goes back to the instant at which the saver got the last lock.** -/
theorem Moves.round (h : run.Moves event later) (hrun : start.atMoment events moment = run)
    (hlater : start.atMoment events (moment + 1) = later) (horderly : run.Orderly)
    (hwidth : run.width = start.width) (hrecalls : start.Recalls events moment run)
    (hall : ∀ next, later.phase = .locking next → next = start.width) :
    start.HadInstant events (moment + 1) later.cuts.length later.FollowsInstant := by
  have hlaterOrderly := h.orderly horderly
  have hgoes (hlocked : ∀ next, run.phase = .locking next → next = start.width)
      (hcuts : later.cuts = run.cuts) :
      start.HadInstant events (moment + 1) later.cuts.length later.FollowsInstant := by
    rw [hcuts]
    exact (hrecalls.round hlocked).succ fun instant =>
      h.followsInstant horderly (fun next hnext => (hlocked next hnext).trans hwidth.symm) hcuts
  cases h with
  | entered | fed | left => exact hgoes hall rfl
  | copied | finished | unlocked => exact hgoes (by simp [*]) rfl
  | began next hphase hle =>
    refine hgoes (fun other hother => ?_) rfl
    have hlast := horderly.next_le next hphase
    rw [hphase, CutPhase.locking.injEq] at hother
    omega
  -- the step that takes the last lock makes the instant, and so does any without a lock to take
  | locked next hphase hlt hfree =>
    have hnext : next + 1 = start.width := hall (next + 1) rfl
    refine ⟨moment + 1, Nat.le_refl _, by rw [hlater], ⟨fun index hindex => ?_, fun last hlast => ?_⟩,
      ?_⟩
    · rw [hlater]
      exact (hlaterOrderly.owner_iff index).2 (hnext ▸ hindex)
    · obtain rfl : last = next := by omega
      exact ⟨moment, rfl, by rw [hrun, hfree]; simp⟩
    · rw [hlater]
      rfl
  | ended copies next hphase hle =>
    have hnone : start.width = 0 := (hall 0 rfl).symm
    refine ⟨moment + 1, Nat.le_refl _, by rw [hlater], instant_of_width hnone events _, ?_⟩
    rw [hlater]
    rfl

/-- The copies that a round ends with are the cut of that round. -/
theorem Moves.cuts (h : run.Moves event later) (hrecalls : start.Recalls events moment run)
    (round : Nat) (cut : List Snapshot) (hcut : later.cuts[round]? = some cut) :
    start.HadInstant events (moment + 1) round fun instant => cut = instant.saver.snapshots := by
  have hold : run.cuts[round]? = some cut →
      start.HadInstant events (moment + 1) round fun instant => cut = instant.saver.snapshots :=
    fun hrun => (hrecalls.cuts round cut hrun).succ fun _ => id
  cases h with
  | ended copies next hphase hle =>
    have hcut : (run.cuts ++ [copies])[round]? = some cut := hcut
    rcases Nat.lt_or_ge round run.cuts.length with hlt | hge
    · rw [List.getElem?_append_left hlt] at hcut
      exact hold hcut
    · rw [List.getElem?_append_right hge, List.getElem?_singleton,
        Option.ite_none_right_eq_some] at hcut
      obtain ⟨hlast, ⟨⟩⟩ := hcut
      obtain rfl : round = run.cuts.length := by omega
      refine (hrecalls.round (by simp [hphase])).succ fun instant hfollows => ?_
      simpa only [FollowsInstant, hphase] using hfollows
  | _ => exact hold hcut

theorem Recalls.succ (h : start.Recalls events moment run) :
    start.Recalls events (moment + 1) run where
  round hall := (h.round hall).succ fun _ => id
  cuts round cut hcut := (h.cuts round cut hcut).succ fun _ => id

/-- **Every cut goes back to the instant of its round**, and so does a round that is going on. -/
theorem recalls_atMoment (hidle : start.Idle) (events : List CutEvent) (moment : Nat) :
    start.Recalls events moment (start.atMoment events moment) := by
  induction moment with
  | zero =>
    refine ⟨fun hall => ?_, fun round cut hcut => ?_⟩
    · have hnone : 0 = start.width := hall 0 hidle.phase_eq
      refine ⟨0, Nat.le_refl _, rfl, instant_of_width hnone.symm events 0, ?_⟩
      show start.FollowsInstant start
      rw [FollowsInstant, hidle.phase_eq]
    · have hcut : start.cuts[round]? = some cut := hcut
      rw [hidle.cuts_eq] at hcut
      cases hcut
  | succ moment ih =>
    have horderly : (start.atMoment events moment).Orderly := orderly_after hidle.orderly _
    have hwidth : (start.atMoment events moment).width = start.width := width_after start _
    rcases atMoment_succ start events moment with hsame | ⟨event, hmoves⟩
    · rw [hsame]
      exact ih.succ
    · exact ⟨hmoves.round rfl rfl horderly hwidth ih, hmoves.cuts ih⟩

/-! ## Commits across streams -/

/-- **What a stream holds at one moment, it holds later or has evicted in between.** -/
theorem exists_later (hidle : start.Idle) {first last : Nat} (hle : first ≤ last)
    (hbefore : (start.atMoment events first).saver.streams[index]? = some before) :
    ∃ after, (start.atMoment events last).saver.streams[index]? = some after ∧
      before.next ≤ after.next ∧ ∀ entry ∈ before.held, entry ∈ after.held ∨
        ∃ between, first ≤ between ∧ between < last ∧ start.Evicts events between index entry := by
  induction last, hle using Nat.le_induction with
  | base => exact ⟨before, hbefore, Nat.le_refl _, fun entry hentry => Or.inl hentry⟩
  | succ last hle ih =>
    obtain ⟨middle, hmiddle, hnext, hheld⟩ := ih
    have horderly : (start.atMoment events last).Orderly := orderly_after hidle.orderly _
    obtain ⟨after, hafter, new, dropped, hfeeds⟩ : ∃ after,
        (start.atMoment events (last + 1)).saver.streams[index]? = some after ∧
          ∃ new dropped, middle.history.Feeds after.history new dropped := by
      rcases atMoment_succ start events last with hsame | ⟨event, hmoves⟩
      · rw [hsame]
        exact ⟨middle, hmiddle, [], [], middle.history.feeds_self⟩
      · obtain ⟨after, hafter, -, hfeeds⟩ := hmoves.exists_feeds horderly.sound hmiddle
        exact ⟨after, hafter, hfeeds⟩
    refine ⟨after, hafter, hnext.trans (FollowedStream.evolves_of_feeds hfeeds).next_le,
      fun entry hentry => ?_⟩
    rcases hheld entry hentry with hmem | ⟨between, hfirst, hlast, hevicts⟩
    · by_cases hkept : entry ∈ after.held
      · exact Or.inl hkept
      -- an entry that is not held any more is among the oldest, which count as evicted
      have hdropped : entry ∈ dropped := by
        have hall : entry ∈ middle.held ++ new := List.mem_append_left new hmem
        rw [FollowedStream.held, hfeeds.entries_eq] at hall
        exact (List.mem_append.1 hall).resolve_right hkept
      have hpos : 0 < dropped.length := List.length_pos_of_mem hdropped
      have hevicted := hfeeds.evicted_eq
      exact Or.inr ⟨last, hle, Nat.lt_succ_self last, middle, after, hmiddle, hafter, hmem, hkept,
        by omega⟩
    · exact Or.inr ⟨between, hfirst, Nat.lt_succ_of_lt hlast, hevicts⟩

theorem getElem?_snapshots {saver : Saver μ} {snapshot : Snapshot}
    (h : saver.snapshots[index]? = some snapshot) :
    ∃ stream, saver.streams[index]? = some stream ∧ stream.history.snapshot = snapshot := by
  rw [Saver.snapshots, List.getElem?_map] at h
  exact Option.map_eq_some_iff.1 h

/-- **A cut respects the order of commits.** -/
theorem causal_snapshots (hidle : start.Idle) (events : List CutEvent) (moment : Nat) :
    start.Causal events moment (start.atMoment events moment).saver.snapshots := by
  intro earlier later index place entry other snapshot hlt hcommits hothers hsnapshot hother
  have horderly : (start.atMoment events moment).Orderly := orderly_after hidle.orderly _
  obtain ⟨-, committed, -, hcommitted, -, hentry⟩ := hcommits
  obtain ⟨fresh, -, hfresh, -, hnew, -⟩ := hothers
  obtain ⟨stream, hstream, rfl⟩ := getElem?_snapshots hsnapshot
  have hsound := horderly.sound stream (List.mem_of_getElem? hstream)
  rw [hsound.numbered_snapshot] at hother
  have hseq : other.seq < stream.next := hsound.consecutive.seq_lt hother
  -- the cut has a number that was not given before the later commit
  have hmoment : later < moment := by
    by_contra hge
    obtain ⟨same, hsame, hnext, -⟩ := exists_later hidle (Nat.le_of_not_lt hge) hstream
    rw [hfresh, Option.some.injEq] at hsame
    rw [← hsame] at hnext
    omega
  have hearlier : earlier + 1 ≤ moment := by omega
  obtain ⟨beside, hbeside, -, hheld⟩ := exists_later hidle hearlier hcommitted
  rcases hheld entry hentry with hkept | ⟨between, hfirst, hlast, hevicts⟩
  · refine Or.inl ⟨beside.history.snapshot, ?_, ?_⟩
    · rw [Saver.snapshots, List.getElem?_map, hbeside, Option.map_some]
    · rw [(horderly.sound beside (List.mem_of_getElem? hbeside)).numbered_snapshot]
      exact hkept
  · exact Or.inr ⟨between, hfirst, hlast, hevicts⟩

/-! ## Nobody waits for ever -/

theorem after_append (run : CutRun μ) (first second : List CutEvent) :
    run.after (first ++ second) = (run.after first).after second :=
  List.foldl_append

/-- A bound for the steps of the saver to the end of its round. -/
def remaining (run : CutRun μ) : Nat :=
  match run.phase with
  | .locking next => (run.width - next) + 2 * run.width + 3
  | .copying copies => (run.width - copies.length) + run.width + 2
  | .unlocking _ next => (run.width - next) + 1

/-- A step of the saver ends its round or brings it closer to the end. -/
theorem Moves.ends_or_remaining_lt (h : run.Moves .save later) :
    (later.phase = .locking 0 ∧ later.cuts.length = run.cuts.length + 1) ∨
      later.cuts = run.cuts ∧ later.remaining < run.remaining := by
  have hwidth := h.width_eq
  cases h with
  | ended copies next hphase hle =>
    exact Or.inl ⟨rfl, by rw [List.length_append, List.length_singleton]⟩
  | locked next hphase hlt hfree =>
    refine Or.inr ⟨rfl, ?_⟩
    simp only [remaining, hphase, hwidth]
    omega
  | began next hphase hle =>
    refine Or.inr ⟨rfl, ?_⟩
    simp only [remaining, hphase, hwidth, List.length_nil]
    omega
  | copied copies stream hphase hstream =>
    have hlt : copies.length < run.width := (List.getElem?_eq_some_iff.1 hstream).1
    refine Or.inr ⟨rfl, ?_⟩
    simp only [remaining, hphase, hwidth, List.length_append, List.length_singleton]
    omega
  | finished copies hphase hle =>
    refine Or.inr ⟨rfl, ?_⟩
    simp only [remaining, hphase, hwidth]
    omega
  | unlocked copies next hphase hlt =>
    refine Or.inr ⟨rfl, ?_⟩
    simp only [remaining, hphase, hwidth]
    omega

/-- **The saver can go on, or a writer holds the lock that it waits for.** -/
theorem step?_save_or (horderly : run.Orderly) :
    (∃ later, run.step? .save = some later) ∨
      ∃ next, run.phase = .locking next ∧ run.holder next = some .writer := by
  rcases hphase : run.phase with next | copies | ⟨copies, next⟩
  · rcases hholder : run.holder next with _ | _ | _
    · left
      by_cases hlt : next < run.width <;> simp [step?, advance?, hphase, hholder, hlt]
    · exact Or.inr ⟨next, rfl, hholder⟩
    · have howns := (horderly.owner_iff next).1 hholder
      rw [hphase, CutPhase.Owns] at howns
      omega
  · left
    rcases hstream : run.saver.streams[copies.length]? with _ | stream <;>
      simp [step?, advance?, hphase, hstream]
  · left
    by_cases hlt : next < run.width <;> simp [step?, advance?, hphase, hlt]

/-- The saver gets to take a step, at most after a writer has given a lock back. -/
theorem exists_moves_save (horderly : run.Orderly) :
    ∃ (events : List CutEvent) (between : CutRun μ), between.Moves .save (run.after events) ∧
      between.remaining = run.remaining ∧ between.cuts = run.cuts := by
  rcases step?_save_or horderly with ⟨later, hstep⟩ | ⟨next, hphase, hheld⟩
  · have hafter : run.after [.save] = later := by
      show run.step .save = later
      rw [step, hstep, Option.getD_some]
    exact ⟨[.save], run, hafter ▸ moves_of_step? hstep, rfl, rfl⟩
  · have hleave : run.step (.leave next) = run.setHolder next none := by
      simp [step, step?, hheld]
    rcases step?_save_or ((Moves.left next hheld).orderly horderly) with
      ⟨later, hstep⟩ | ⟨other, hother, hwriter⟩
    · have hafter : run.after [.leave next, .save] = later := by
        show (run.step (.leave next)).step .save = later
        rw [hleave, step, hstep, Option.getD_some]
      exact ⟨_, run.setHolder next none, hafter ▸ moves_of_step? hstep, rfl, rfl⟩
    · -- the lock that the saver waits for has just been given back
      have hsame : CutPhase.locking next = .locking other := hphase.symm.trans hother
      rw [CutPhase.locking.injEq] at hsame
      rw [← hsame, holder_setHolder, if_pos rfl] at hwriter
      cases hwriter

/-- From everywhere the saver can finish its round. -/
theorem exists_saves (horderly : run.Orderly) :
    ∃ events, (run.after events).phase = .locking 0 ∧
      (run.after events).cuts.length = run.cuts.length + 1 := by
  induction hremaining : run.remaining using Nat.strong_induction_on generalizing run with
  | h remaining ih =>
    obtain ⟨events, between, hmoves, hsame, hcuts⟩ := exists_moves_save horderly
    rcases hmoves.ends_or_remaining_lt with ⟨hphase, hlength⟩ | ⟨hkept, hlt⟩
    · exact ⟨events, hphase, by rw [hlength, hcuts]⟩
    · obtain ⟨more, hphase, hlength⟩ :=
        ih _ (by omega) (orderly_after horderly events) rfl
      exact ⟨events ++ more, by rw [after_append, hphase],
        by rw [after_append, hlength, hkept, hcuts]⟩

/-- From everywhere a writer can get its lock. -/
theorem exists_enters (horderly : run.Orderly) (hlt : index < run.width) :
    ∃ events, (run.after events).holder index = some .writer := by
  obtain ⟨events, hphase, -⟩ := exists_saves horderly
  have hfinal := orderly_after horderly events
  rcases hholder : (run.after events).holder index with _ | _ | _
  · refine ⟨events ++ [.enter index], ?_⟩
    have hwidth : index < (run.after events).width := by rwa [width_after]
    rw [after_append]
    show ((run.after events).step (.enter index)).holder index = _
    simp [step, step?, hholder, hwidth, holder_setHolder]
  · exact ⟨events, hholder⟩
  · have howns := (hfinal.owner_iff index).1 hholder
    rw [hphase, CutPhase.Owns] at howns
    omega

theorem Orderly.progresses (horderly : run.Orderly) : run.Progresses where
  moves := by
    rcases step?_save_or horderly with ⟨later, hstep⟩ | ⟨next, -, hheld⟩
    · exact ⟨.save, later, hstep⟩
    · exact ⟨.leave next, _, by rw [step?, if_pos hheld]⟩
  saves := exists_saves horderly
  enters _ hlt := exists_enters horderly hlt

/-- **The copies that a saver makes are a consistent cut**, however its steps and those of the
writers are interleaved: those of each round are what all histories hold at the moment of that round
at which the saver gets the last lock. Nobody waits for ever. -/
theorem consistent_cut (start : CutRun μ) (hidle : start.Idle) (events : List CutEvent) :
    (∀ round cut, (start.after events).cuts[round]? = some cut → ∃ moment ≤ events.length,
      (start.atMoment events moment).cuts.length = round ∧
        start.Instant events moment ∧
        cut = (start.atMoment events moment).saver.snapshots ∧
        start.Causal events moment cut) ∧
      (start.after events).Progresses := by
  constructor
  · intro round cut hcut
    have hwhole : start.atMoment events events.length = start.after events := by
      rw [atMoment, List.take_length]
    obtain ⟨moment, hle, hround, hinstant, rfl⟩ :=
      (recalls_atMoment hidle events events.length).cuts round cut (hwhole ▸ hcut)
    exact ⟨moment, hle, hround, hinstant, rfl, causal_snapshots hidle events moment⟩
  · exact (orderly_after hidle.orderly events).progresses

/-- While the saver holds the lock of the video, the last stream gets one more packet, and another
one between two rounds. -/
theorem consistent_cut_sample :
    let start : CutRun Nat := { saver := Saver.sample Muxer.counting 0 }
    let packet : Packet := ⟨⟨#[2]⟩, 90000, 90000, true, 0⟩
    let events := [.save, .enter 0, .enter 2, .save, .save, .feed 2 (.push packet), .leave 2] ++
      List.replicate 10 .save ++ [.enter 2, .feed 2 (.push packet), .leave 2] ++
      List.replicate 12 .save
    start.Idle ∧
      (∀ round cut, (start.after events).cuts[round]? = some cut → ∃ moment ≤ events.length,
        (start.atMoment events moment).cuts.length = round ∧ start.Instant events moment ∧
        cut = (start.atMoment events moment).saver.snapshots ∧ start.Causal events moment cut) ∧
      (start.after events).cuts.map (·.map (·.numbered.map (·.seq))) =
        [[[0, 1, 2, 3], [], [0, 1, 2]], [[0, 1, 2, 3], [], [0, 1, 2, 3]]] := by
  intro start packet events
  have hidle : start.Idle := by
    refine ⟨fun _ => rfl, rfl, rfl, ?_⟩
    simp only [start, Saver.sample, List.forall_mem_cons]
    exact ⟨(FollowedStream.reached_taking ..).sound, (FollowedStream.reached_taking ..).sound,
      (FollowedStream.reached_taking ..).sound, by simp⟩
  exact ⟨hidle, (consistent_cut start hidle events).1, by decide +kernel⟩

end CutRun

end InstantReplay
