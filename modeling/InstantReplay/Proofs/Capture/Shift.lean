import InstantReplay.Proofs.Capture.Streaks

/-!
# What a worker does until it is told to stop

A worker's shift is made of rounds. In each of them the worker looks at the flag, asks its source,
takes what that gives, and pauses after a failure (`Shift.exists_handle`). What holds of the rounds
that come behind one round holds with this one in front of them (`Shift.Stint.round`), and so of any
number of rounds (`Shift.exists_work`). So the worker's pauses and the lines it notes follow the
streaks of its source, whatever that gives (`Shift.exists_schedule`). Only a packet with which the
history breaks down ends the rounds early; there is none while the times of all packets are less
than `2 ^ 63` ticks apart (`History.Keeps.takesAll`).
-/

namespace InstantReplay

theorem StopFlag.isSet_of_le {flag : StopFlag} {look later : Nat} (hle : look ≤ later)
    (hset : flag.isSet look = true) : flag.isSet later = true := by
  induction later, hle using Nat.le_induction with
  | base => exact hset
  | succ later _ ih => exact flag.stays later ih

/-- The flag that is set at this look. -/
def StopFlag.from (look : Nat) : StopFlag where
  isSet other := decide (look ≤ other)
  stays _ hset := decide_eq_true (Nat.le_succ_of_le (of_decide_eq_true hset))

/-! ## Pauses -/

namespace Worker

theorem sum_pauseSteps (pause : Nat) : (pauseSteps pause).sum = pause := by
  induction pause using pauseSteps.induct with
  | case1 => rw [pauseSteps, if_pos rfl, List.sum_nil]
  | case2 pause hpause ih =>
    rw [pauseSteps, if_neg hpause, List.sum_cons, ih]
    omega

theorem mem_pauseSteps {time pause : Nat} (h : time ∈ pauseSteps pause) :
    0 < time ∧ time ≤ pauseStep := by
  induction pause using pauseSteps.induct with
  | case1 =>
    rw [pauseSteps, if_pos rfl] at h
    cases h
  | case2 pause hpause ih =>
    rw [pauseSteps, if_neg hpause] at h
    rcases List.mem_cons.1 h with rfl | h
    · exact ⟨Nat.lt_min.2 ⟨Nat.pos_of_ne_zero hpause, Nat.zero_lt_succ _⟩, Nat.min_le_right _ _⟩
    · exact ih h

end Worker

namespace Deed

def isAsked : Deed → Bool
  | .asked _ => true
  | _ => false

def pull? : Deed → Option Pull
  | .asked pull => some pull
  | _ => none

def time? : Deed → Option Nat
  | .slept time => some time
  | _ => none

/-- What the source gave, each time it was asked. -/
def pulls (deeds : List Deed) : List Pull := deeds.filterMap pull?

/-- How long the worker slept, each time. -/
def times (deeds : List Deed) : List Nat := deeds.filterMap time?

/-- What is done before the source is asked again. -/
def meanwhile (deeds : List Deed) : List Deed := deeds.takeWhile fun deed => !deed.isAsked

variable {deeds rest : List Deed}

theorem pulls_nil : pulls [] = [] := rfl

theorem pulls_looked (stop : Bool) : pulls [.looked stop] = [] := rfl

@[simp] theorem pulls_append : pulls (deeds ++ rest) = pulls deeds ++ pulls rest :=
  List.filterMap_append

@[simp] theorem times_append : times (deeds ++ rest) = times deeds ++ times rest :=
  List.filterMap_append

theorem mem_times {time : Nat} : time ∈ times deeds ↔ .slept time ∈ deeds := by
  rw [times, List.mem_filterMap]
  constructor
  · rintro ⟨deed, hdeed, htime⟩
    cases deed with
    | slept other => exact Option.some.inj htime ▸ hdeed
    | _ => cases htime
  · exact fun h => ⟨_, h, rfl⟩

theorem pulls_eq_nil (h : ∀ deed ∈ deeds, deed.isAsked = false) : pulls deeds = [] := by
  refine List.filterMap_eq_nil_iff.2 fun deed hdeed => ?_
  cases deed with
  | asked => cases h _ hdeed
  | _ => rfl

/-- What holds each time the source is asked holds of each thing it gave. -/
theorem atEach_pulls {good : List Pull → Pull → Prop}
    (h : AtEach deeds fun before deed _ => ∀ pull, deed = .asked pull → good (pulls before) pull) :
    AtEach (pulls deeds) fun before pull _ => good before pull := by
  induction deeds generalizing good with
  | nil => exact .nil
  | cons deed deeds ih =>
    have hrest : AtEach deeds fun before other _ => ∀ pull, other = .asked pull →
        good (pulls (deed :: before)) pull := fun before other behind hsplit =>
      h (deed :: before) other behind (congrArg _ hsplit)
    cases deed with
    | asked pull => exact .cons (h [] _ deeds rfl pull rfl) (ih hrest)
    | looked stop => exact ih hrest
    | slept time => exact ih hrest

theorem meanwhile_append (h : ∀ deed ∈ deeds, deed.isAsked = false) :
    meanwhile (deeds ++ rest) = deeds ++ meanwhile rest :=
  List.takeWhile_append_of_pos fun deed hdeed => by rw [h deed hdeed]; rfl

end Deed

/-- A pause, in what is done before the source is asked again: it is made of short steps, and only
a worker that is told to stop cuts it short. -/
structure Paused (pause : Nat) (meanwhile : List Deed) : Prop where
  steps : ∀ time, .slept time ∈ meanwhile → 0 < time ∧ time ≤ Worker.pauseStep
  within : (Deed.times meanwhile).sum ≤ pause
  full : (Deed.times meanwhile).sum = pause ∨ .looked true ∈ meanwhile

/-- What sleeping in steps does. -/
structure Slept (flag : StopFlag) (steps : List Nat) (deeds : List Deed) (looks : Nat) : Prop where
  awake : ∀ deed ∈ deeds, deed.isAsked = false
  taken : Deed.times deeds <+: steps
  all : Deed.times deeds = steps ∨ .looked true ∈ deeds
  told : .looked true ∈ deeds → flag.isSet looks = true

theorem Slept.nil (flag : StopFlag) (looks : Nat) : Slept flag [] [] looks :=
  ⟨nofun, List.prefix_refl [], Or.inl rfl, nofun⟩

theorem Slept.cons {flag : StopFlag} {time looks : Nat} {rest : List Nat} {deeds : List Deed}
    (h : Slept flag rest deeds looks) :
    Slept flag (time :: rest) (.looked false :: .slept time :: deeds) looks where
  awake := List.forall_mem_cons.2 ⟨rfl, List.forall_mem_cons.2 ⟨rfl, h.awake⟩⟩
  taken := List.cons_prefix_cons.2 ⟨rfl, h.taken⟩
  all := h.all.imp (congrArg (time :: ·)) fun hmem => .tail _ (.tail _ hmem)
  told hmem := h.told (by simpa using hmem)

/-- What is said of each time that the source is asked does not concern a pause. -/
theorem Slept.atEach {flag : StopFlag} {steps : List Nat} {deeds : List Deed} {looks : Nat}
    (h : Slept flag steps deeds looks) {good : List Deed → Pull → List Deed → Prop} :
    AtEach deeds fun before deed behind =>
      ∀ pull, deed = .asked pull → good before pull behind := by
  rintro before _ behind hsplit pull rfl
  exact nomatch h.awake (.asked pull) (by simp [hsplit])

theorem Slept.pulls_round {flag : StopFlag} {steps : List Nat} {pausing rest : List Deed}
    {looks : Nat} {pull : Pull} (h : Slept flag steps pausing looks) :
    Deed.pulls (.looked false :: .asked pull :: (pausing ++ rest)) = pull :: Deed.pulls rest := by
  show pull :: Deed.pulls (pausing ++ rest) = _
  rw [Deed.pulls_append, Deed.pulls_eq_nil h.awake, List.nil_append]

theorem Slept.paused {flag : StopFlag} {pause looks : Nat} {deeds rest : List Deed}
    (h : Slept flag (Worker.pauseSteps pause) deeds looks)
    (hrest : Deed.times (Deed.meanwhile rest) = []) :
    Paused pause (Deed.meanwhile (deeds ++ rest)) := by
  have htimes : Deed.times (Deed.meanwhile (deeds ++ rest)) = Deed.times deeds := by
    rw [Deed.meanwhile_append h.awake, Deed.times_append, hrest, List.append_nil]
  refine ⟨fun time hmem => ?_, ?_, ?_⟩
  · rw [← Deed.mem_times, htimes] at hmem
    exact Worker.mem_pauseSteps (h.taken.subset hmem)
  · obtain ⟨others, hothers⟩ := h.taken
    rw [htimes, ← Worker.sum_pauseSteps pause, ← hothers, List.sum_append]
    exact Nat.le_add_right _ _
  · rw [htimes]
    refine h.all.imp (fun hall => ?_) fun hmem => ?_
    · rw [hall, Worker.sum_pauseSteps]
    · rw [Deed.meanwhile_append h.awake]
      exact List.mem_append_left _ hmem

namespace Shift

variable {σ : Type} {tap : Tap Packet σ} {flag : StopFlag} {fresh : CaptureLane}

theorem run_look (scene : Scene (Shift σ)) :
    (look flag).run.run scene = (.ok (flag.isSet scene.state.looks), { scene with
      state := { scene.state with
        deeds := scene.state.deeds ++ [.looked (flag.isSet scene.state.looks)]
        looks := scene.state.looks + 1 } }) :=
  rfl

theorem exists_sleep (flag : StopFlag) (steps : List Nat) (scene : Scene (Shift σ)) : ∃ deeds looks,
    (sleep flag steps).run.run scene = (.ok (), { scene with
      state := { scene.state with deeds := scene.state.deeds ++ deeds, looks } }) ∧
    Slept flag steps deeds looks ∧ scene.state.looks ≤ looks := by
  induction steps generalizing scene with
  | nil => exact ⟨[], scene.state.looks, by rw [List.append_nil]; rfl, .nil flag _, Nat.le_refl _⟩
  | cons time rest ih =>
    rw [sleep, Act.run_bind_ok (run_look scene)]
    by_cases hset : flag.isSet scene.state.looks = true
    · rw [if_pos hset, hset]
      refine ⟨[.looked true], scene.state.looks + 1, rfl, ?_, Nat.le_succ _⟩
      exact ⟨by simp [Deed.isAsked], List.nil_prefix, Or.inr (List.mem_singleton_self _),
        fun _ => flag.stays _ hset⟩
    · rw [if_neg hset, Bool.eq_false_of_not_eq_true hset]
      rw [Act.run_bind_ok (Act.run_change _ _)]
      obtain ⟨deeds, looks, hrest, hslept, hle⟩ := ih _
      refine ⟨.looked false :: .slept time :: deeds, looks, ?_, hslept.cons, ?_⟩
      · rw [hrest]
        simp only [List.append_assoc, List.cons_append, List.nil_append]
      · exact Nat.le_of_succ_le hle

theorem run_ask (scene : Scene (Shift σ)) :
    (ask tap).run.run scene =
      (.ok (Pull.ofResult (tap.next scene.state.source).1), { scene with
        state := { scene.state with
          source := (tap.next scene.state.source).2
          deeds := scene.state.deeds ++
            [.asked (Pull.ofResult (tap.next scene.state.source).1)] } }) :=
  rfl

theorem run_onLane {action : Act CaptureLane Unit} {scene : Scene (Shift σ)} {lane : CaptureLane}
    {lines : List LogLine} (h : action.runOn scene.state.lane = (.ok (), lane, lines)) :
    (onLane action).run.run scene =
      (.ok (), ⟨{ scene.state with lane }, scene.log ++ lines⟩) := by
  rw [onLane, Act.run_within, h]

/-- What a worker does with a pull: it takes it, and pauses as long as is due. -/
theorem exists_handle (flag : StopFlag) (scene : Scene (Shift σ)) {earlier : List Pull}
    {pull : Pull} (h : fresh.Follows earlier scene.state.lane)
    (hrunning : scene.state.lane.worker.life = .running) (hpull : pull ≠ .broke) :
    ∃ lane deeds looks, (handle flag pull).run.run scene = (.ok (),
        ⟨⟨lane, scene.state.source, scene.state.deeds ++ deeds, looks⟩,
          scene.log ++ Pull.notes fresh.worker earlier pull⟩) ∧
      fresh.Follows (earlier ++ [pull]) lane ∧ lane.worker.life ≠ .stopped ∧
      Slept flag (Worker.pauseSteps (Pull.pauseAfter earlier pull)) deeds looks ∧
      scene.state.looks ≤ looks := by
  obtain ⟨lane, htake, hlane, hlife⟩ :=
    CaptureLane.Follows.exists_take { state := scene.state.lane } h hrunning hpull
  have htaken : (CaptureLane.take pull).runOn scene.state.lane =
      (.ok (), lane, Pull.notes fresh.worker earlier pull) := by
    rw [Act.runOn, htake]
    rfl
  rw [handle, Act.run_bind_ok (Act.run_state scene), Act.run_bind_ok (run_onLane htaken)]
  dsimp only
  have hidle : Slept flag (Worker.pauseSteps 0) [] scene.state.looks := by
    rw [Worker.pauseSteps, if_pos rfl]
    exact .nil flag _
  cases pull with
  | packet packet =>
    exact ⟨lane, [], _, by rw [List.append_nil]; rfl, hlane, hlife, hidle, Nat.le_refl _⟩
  | nothing =>
    exact ⟨lane, [], _, by rw [List.append_nil]; rfl, hlane, hlife, hidle, Nat.le_refl _⟩
  | failed failure =>
    obtain ⟨deeds, looks, hsleep, hslept, hle⟩ := exists_sleep flag
      (Worker.pauseSteps scene.state.lane.worker.pause)
      ⟨{ scene.state with lane }, scene.log ++
        Pull.notes fresh.worker earlier (.failed failure)⟩
    rw [h.pauseAfter_failed]
    exact ⟨lane, deeds, looks, hsleep, hlane, hlife, hslept, hle⟩
  | broke => exact absurd rfl hpull

end Shift

/-- Asked in this state, the source gives the pull. -/
def Tap.Gives {σ : Type} (tap : Tap Packet σ) (state : σ) (pull : Pull) (later : σ) : Prop :=
  Pull.ofResult (tap.next state).1 = pull ∧ (tap.next state).2 = later

/-- The line for a worker that stops. -/
def Worker.stopNote (stream packets : Nat) : LogLine :=
  .debug s!"Worker for stream {stream} stopping after {packets} units"

/-! ## Rounds in turn -/

namespace Shift

variable {σ : Type} {tap : Tap Packet σ} {flag : StopFlag} {fresh : CaptureLane}

/-- What a worker that has handled earlier pulls does in some rounds, or until told to stop, and the
lines it notes. -/
structure Schedule (tap : Tap Packet σ) (flag : StopFlag) (fresh : CaptureLane)
    (earlier : List Pull) (rounds : Nat) (first : Shift σ) (deeds : List Deed) (last : Shift σ)
    (lines : List LogLine) : Prop where
  /-- It asks the source as often as it goes round. -/
  asks : Trail tap.Gives first.source (Deed.pulls deeds) last.source
  goes : (Deed.pulls deeds).length = rounds ∨ .looked true ∈ deeds ∨
    last.lane.worker.life = .broken
  /-- It stops once the flag is set, unless it is broken by then, -/
  ends : ∀ round < rounds, flag.isSet (first.looks + round) = true →
    last.lane.worker.life = .stopped ∨ last.lane.worker.life = .broken
  /-- and asks only while no packet has broken it. -/
  works : AtEach deeds fun before deed _ => ∀ pull, deed = .asked pull →
    fresh.history.TakesAll (Pull.packets fresh.worker.stream (earlier ++ Deed.pulls before))
  /-- It looks before it asks, -/
  looks : AtEach deeds fun before deed _ => ∀ pull, deed = .asked pull →
    before.getLast? = some (.looked false)
  /-- and asks no more when it is told to stop. -/
  stops : AtEach deeds fun _ deed behind => deed = .looked true → Deed.pulls behind = []
  /-- It pauses as long as is due after the pull, behind the pulls before. -/
  pauses : AtEach deeds fun before deed behind => ∀ pull, deed = .asked pull →
    Paused (Pull.pauseAfter (earlier ++ Deed.pulls before) pull) (Deed.meanwhile behind)
  /-- It handles all that the source gave. -/
  follows : fresh.Follows (earlier ++ Deed.pulls deeds) last.lane
  log : last.lane.worker.life ≠ .stopped ∧
      lines = Pull.allNotes fresh.worker earlier (Deed.pulls deeds) ∨
    last.lane.worker.life = .stopped ∧ .looked true ∈ deeds ∧
      lines = Pull.allNotes fresh.worker earlier (Deed.pulls deeds) ++
        [Worker.stopNote fresh.worker.stream last.lane.worker.packets]

/-- A schedule that can be put behind another round: there is no sleep before the source is asked,
and it is not asked at all if the flag is set by then. -/
structure Stint (tap : Tap Packet σ) (flag : StopFlag) (fresh : CaptureLane) (earlier : List Pull)
    (rounds : Nat) (first : Shift σ) (deeds : List Deed) (last : Shift σ) (lines : List LogLine) :
    Prop extends Schedule tap flag fresh earlier rounds first deeds last lines where
  idle : Deed.times (Deed.meanwhile deeds) = []
  told : flag.isSet first.looks = true → Deed.pulls deeds = []

variable {first middle last : Shift σ} {earlier : List Pull} {pull : Pull} {rounds : Nat}
  {pausing deeds : List Deed} {lines : List LogLine}

theorem mem_round {deed : Deed} (h : deed ∈ deeds) :
    deed ∈ .looked false :: .asked pull :: (pausing ++ deeds) :=
  .tail _ (.tail _ (List.mem_append_right pausing h))

/-- No round is made when none is left, or when the worker is broken. -/
theorem Stint.nil (h : fresh.Follows earlier first.lane)
    (hlife : first.lane.worker.life ≠ .stopped)
    (hnone : rounds = 0 ∨ first.lane.worker.life = .broken) :
    Stint tap flag fresh earlier rounds first [] first [] where
  asks := .nil _
  goes := hnone.imp Eq.symm Or.inr
  ends _ hround _ := .inr (hnone.resolve_left (Nat.ne_of_gt (Nat.zero_lt_of_lt hround)))
  works := .nil
  looks := .nil
  pauses := .nil
  stops := .nil
  follows := by rwa [Deed.pulls_nil, List.append_nil]
  log := Or.inl ⟨hlife, rfl⟩
  idle := rfl
  told _ := rfl

/-- The worker is told to stop. -/
theorem Stint.stop (h : fresh.Follows earlier first.lane)
    (hrunning : first.lane.worker.life = .running) {later : List Deed} {looks : Nat} :
    Stint tap flag fresh earlier (rounds + 1) first [.looked true]
      ⟨{ first.lane with worker := { first.lane.worker with life := .stopped } }, first.source,
        later, looks⟩
      [Worker.stopNote first.lane.worker.stream first.lane.worker.packets] where
  asks := .nil _
  goes := Or.inr (Or.inl (List.mem_singleton_self _))
  ends _ _ _ := Or.inl rfl
  works := .cons nofun .nil
  looks := .cons nofun .nil
  pauses := .cons nofun .nil
  stops := .cons (fun _ => rfl) .nil
  follows := by
    rw [Deed.pulls_looked, List.append_nil]
    exact h.stopped hrunning
  log := Or.inr ⟨rfl, List.mem_singleton_self _, by rw [h.stream]; rfl⟩
  idle := rfl
  told _ := rfl

/-- A round in which the source is asked comes before the others. -/
theorem Stint.round
    (hrest : Stint tap flag fresh (earlier ++ [pull]) rounds middle deeds last lines)
    (hunset : flag.isSet first.looks = false) (hlooks : first.looks < middle.looks)
    (hgives : tap.Gives first.source pull middle.source)
    (htakes : fresh.history.TakesAll (Pull.packets fresh.worker.stream earlier))
    (hslept : Slept flag (Worker.pauseSteps (Pull.pauseAfter earlier pull)) pausing middle.looks) :
    Stint tap flag fresh earlier (rounds + 1) first
      (.looked false :: .asked pull :: (pausing ++ deeds)) last
      (Pull.notes fresh.worker earlier pull ++ lines) where
  asks := by
    rw [hslept.pulls_round]
    exact .cons hgives hrest.asks
  goes := by
    rw [hslept.pulls_round, List.length_cons]
    exact hrest.goes.imp (congrArg (· + 1)) (Or.imp_left mem_round)
  ends round hround hset := by
    cases round with
    | zero => exact absurd (hunset.symm.trans hset) Bool.false_ne_true
    | succ round =>
      exact hrest.ends round (Nat.lt_of_succ_lt_succ hround) (flag.isSet_of_le (by omega) hset)
  works := by
    refine .cons nofun (.cons (fun _ _ => ?_) (hslept.atEach.append ?_))
    · rwa [Deed.pulls_looked, List.append_nil]
    · intro before deed behind hsplit other hdeed
      rw [hslept.pulls_round, List.append_cons]
      exact hrest.works before deed behind hsplit other hdeed
  looks := by
    refine .cons nofun (.cons (fun _ _ => rfl) (hslept.atEach.append ?_))
    intro before deed behind hsplit other hdeed
    show (_ :: _ :: (pausing ++ before)).getLast? = _
    rw [← List.cons_append, ← List.cons_append, List.getLast?_append,
      hrest.looks before deed behind hsplit other hdeed, Option.some_or]
  -- A pause that sees the flag set is the last thing done before the worker stops.
  stops := by
    refine .cons nofun (.cons nofun (.append ?_ hrest.stops))
    rintro before _ behind hsplit rfl
    have hset := hslept.told (by simp [hsplit])
    have hbehind : Deed.pulls behind = [] :=
      Deed.pulls_eq_nil fun deed hdeed => hslept.awake deed (by simp [hsplit, hdeed])
    rw [Deed.pulls_append, hbehind, hrest.told hset, List.append_nil]
  pauses := by
    refine .cons nofun (.cons ?_ (hslept.atEach.append ?_))
    · rintro _ ⟨⟩
      rw [Deed.pulls_looked, List.append_nil]
      exact hslept.paused hrest.idle
    · intro before deed behind hsplit other hdeed
      rw [hslept.pulls_round, List.append_cons]
      exact hrest.pauses before deed behind hsplit other hdeed
  follows := by
    rw [hslept.pulls_round, List.append_cons]
    exact hrest.follows
  log := by
    rw [hslept.pulls_round, Pull.allNotes, List.append_assoc]
    exact hrest.log.imp (And.imp_right (congrArg _))
      (And.imp_right (And.imp mem_round (congrArg _)))
  idle := rfl
  told hset := absurd (hunset.symm.trans hset) Bool.false_ne_true

theorem run_stop {scene : Scene CaptureLane} (h : scene.state.worker.life = .running) :
    CaptureLane.stop.run.run scene =
      (.ok (), ⟨{ scene.state with worker := { scene.state.worker with life := .stopped } },
        scene.log ++ [Worker.stopNote scene.state.worker.stream scene.state.worker.packets]⟩) := by
  rw [CaptureLane.stop, Act.run_bind_ok (Act.run_state _)]
  simp only [if_pos h]
  rfl

theorem runOn_stop {lane : CaptureLane} (h : lane.worker.life = .running) :
    CaptureLane.stop.runOn lane =
      (.ok (), { lane with worker := { lane.worker with life := .stopped } },
        [Worker.stopNote lane.worker.stream lane.worker.packets]) := by
  rw [Act.runOn, run_stop h]
  rfl

/-- A worker goes round after round, until told to stop or broken. -/
theorem exists_work (tap : Tap Packet σ) (flag : StopFlag) (rounds : Nat)
    (scene : Scene (Shift σ)) {earlier : List Pull} (h : fresh.Follows earlier scene.state.lane)
    (hlife : scene.state.lane.worker.life ≠ .stopped) :
    ∃ last deeds lines,
      (work tap flag rounds).run.run scene = (.ok (), ⟨last, scene.log ++ lines⟩) ∧
      last.deeds = scene.state.deeds ++ deeds ∧
      Stint tap flag fresh earlier rounds scene.state deeds last lines := by
  induction rounds generalizing scene earlier with
  | zero =>
    refine ⟨scene.state, [], [], by rw [List.append_nil]; rfl, (List.append_nil _).symm, ?_⟩
    exact .nil h hlife (.inl rfl)
  | succ rounds ih =>
    rw [work, Act.run_bind_ok (Act.run_state scene)]
    by_cases hbroken : scene.state.lane.worker.life = .broken
    · have hfinished : scene.state.lane.worker.isFinished = true := by
        rw [Worker.isFinished, hbroken]
        rfl
      rw [if_pos hfinished]
      refine ⟨scene.state, [], [], by rw [List.append_nil]; rfl, (List.append_nil _).symm, ?_⟩
      exact .nil h hlife (.inr hbroken)
    have htakes := h.takesAll hbroken
    have hrunning := h.running hlife htakes
    have hworks : ¬scene.state.lane.worker.isFinished = true := by
      simp [Worker.isFinished, hrunning]
    rw [if_neg hworks, Act.run_bind_ok (run_look scene)]
    by_cases hset : flag.isSet scene.state.looks = true
    · rw [if_pos hset, hset]
      exact ⟨_, [.looked true], _, run_onLane (runOn_stop hrunning), rfl, .stop h hrunning⟩
    · have hunset := Bool.eq_false_of_not_eq_true hset
      rw [if_neg hset, hunset, Act.run_bind_ok (run_ask _)]
      have hpull := Pull.ofResult_ne_broke (tap.next scene.state.source).1
      generalize hgot : Pull.ofResult (tap.next scene.state.source).1 = pull at hpull ⊢
      generalize hsource : (tap.next scene.state.source).2 = source
      obtain ⟨lane, pausing, looks, hhandle, hlane, hlaneLife, hslept, hle⟩ :=
        exists_handle flag ⟨{ scene.state with
          source
          deeds := scene.state.deeds ++ [.looked false] ++ [.asked pull]
          looks := scene.state.looks + 1 }, scene.log⟩ h hrunning hpull
      obtain ⟨last, deeds, lines, hrest, hdeeds, hstint⟩ := ih
        ⟨⟨lane, source, _, looks⟩, _⟩ hlane hlaneLife
      refine ⟨last, .looked false :: .asked pull :: (pausing ++ deeds), _, ?_, ?_,
        hstint.round hunset hle ⟨hgot, hsource⟩ htakes hslept⟩
      · rw [Act.run_bind_ok hhandle, hrest, List.append_assoc]
      · rw [hdeeds]
        simp only [List.append_assoc, List.cons_append, List.nil_append]

/-! ## The shift of a new worker -/

/-- The lines noted before the first round. -/
def openingNotes (fresh : CaptureLane) : List LogLine :=
  let name := fresh.worker.name
  let kind := fresh.worker.kind.text
  let stream := fresh.worker.stream
  let source := fresh.worker.source
  [.debug ("Started worker " ++ name), .info s!"Capturing {kind} stream {stream} from {source}"]

theorem ne_broke_of_gives {first last : σ} {pulls : List Pull}
    (h : Trail tap.Gives first pulls last) : ∀ pull ∈ pulls, pull ≠ .broke := by
  induction h with
  | nil => exact nofun
  | cons hgives _ ih =>
    exact List.forall_mem_cons.2 ⟨hgives.1 ▸ Pull.ofResult_ne_broke _, ih⟩

/-- A worker that is given all pulls at once, and is stopped behind them or not. -/
def atOnce (pulls : List Pull) (stopping : Bool) : Act CaptureLane Unit := do
  CaptureLane.begin pulls
  if stopping then CaptureLane.stop

/-- A shift does what the worker does when it is given the pulls all at once. -/
theorem Schedule.runOn_atOnce {source : σ} {rounds : Nat} {last : Shift σ} {lines : List LogLine}
    {stream : Nat} {name : String} {history : History}
    (h : Schedule tap flag fresh [] rounds ⟨fresh, source, [], 0⟩ last.deeds last lines)
    (hstart : CaptureLane.start stream name history none = .ok fresh) :
    (atOnce (Deed.pulls last.deeds) (last.lane.worker.life = .stopped)).runOn fresh =
      (.ok (), last.lane, openingNotes fresh ++ lines) := by
  have hfresh : fresh.worker.life ≠ .stopped := by
    rw [CaptureLane.life_of_start hstart]
    exact nofun
  obtain ⟨later, hrun, hlater, hlast⟩ := CaptureLane.Follows.exists_run
    (ne_broke_of_gives h.asks) ⟨fresh, openingNotes fresh⟩ (CaptureLane.follows_nil hstart) hfresh
    (Deed.atEach_pulls h.works)
  have hbegin : (CaptureLane.begin (Deed.pulls last.deeds)).run.run { state := fresh } =
      (.ok (), ⟨later, openingNotes fresh ++
        Pull.allNotes fresh.worker [] (Deed.pulls last.deeds)⟩) := hrun
  rw [Act.runOn, atOnce, Act.run_bind_ok hbegin]
  rcases h.log with ⟨hlife, rfl⟩ | ⟨hlife, -, rfl⟩
  · rw [if_neg (by simpa using hlife),
      hlater.eq_of_life_eq h.follows (hlater.life_eq h.follows hlast hlife)]
    rfl
  · have htakes := h.follows.takesAll (by rw [hlife]; exact nofun)
    have hrunning := hlater.running hlast htakes
    have hstopped := h.follows.eq_of_life_eq (hlater.stopped hrunning) hlife
    rw [if_pos (by simpa using hlife), run_stop hrunning, ← hstopped, hstopped, hlater.stream,
      List.append_assoc]

/-- **The pauses and the lines of a worker follow the streaks of its source.** Whatever the source
gives, the pause after a failure depends on how many the streak had before it, and nothing but the
flag cuts it short; the first failure of a streak is a warning and any other is not; and once the
worker is told to stop, it asks for no further packet. A worker that is given the same pulls all at
once does the same with them. -/
theorem exists_schedule (tap : Tap Packet σ) (flag : StopFlag) {stream : Nat} {name : String}
    {history : History} (hstart : CaptureLane.start stream name history none = .ok fresh)
    (source : σ) (rounds : Nat) :
    ∃ last lines, (run tap flag rounds).runOn ⟨fresh, source, [], 0⟩ =
        (.ok (), last, openingNotes fresh ++ lines) ∧
      Schedule tap flag fresh [] rounds ⟨fresh, source, [], 0⟩ last.deeds last lines ∧
      (atOnce (Deed.pulls last.deeds) (last.lane.worker.life = .stopped)).runOn fresh =
        (.ok (), last.lane, openingNotes fresh ++ lines) := by
  have hfresh : fresh.worker.life ≠ .stopped := by
    rw [CaptureLane.life_of_start hstart]
    exact nofun
  have hopen : (onLane (CaptureLane.begin [])).run.run ⟨(⟨fresh, source, [], 0⟩ : Shift σ), []⟩ =
      (.ok (), ⟨⟨fresh, source, [], 0⟩, openingNotes fresh⟩) := run_onLane rfl
  obtain ⟨last, deeds, lines, hwork, hdeeds, h⟩ := exists_work tap flag rounds
    ⟨⟨fresh, source, [], 0⟩, openingNotes fresh⟩ (CaptureLane.follows_nil hstart) hfresh
  rw [List.nil_append] at hdeeds
  subst hdeeds
  exact ⟨last, lines, by rw [Act.runOn, run, Act.run_bind_ok hopen, hwork], h.toSchedule,
    h.toSchedule.runOn_atOnce hstart⟩

/-- A new worker. -/
def scripted : CaptureLane :=
  ⟨{ stream := 3, kind := .video, source := "scripted" }, History.withSlots .video 8 ⟨1, 30⟩ 1000⟩

theorem start_scripted :
    CaptureLane.start 3 "scripted" (History.withSlots .video 8 ⟨1, 30⟩ 1000) none = .ok scripted :=
  rfl

/-- Two failures with nothing between them, and packets on both sides. -/
def hiccups : List (Except Failure (Option Packet)) :=
  [.ok (some ⟨⟨#[1]⟩, 0, 0, true, 0⟩), .error (.capture "hiccup"), .ok none,
    .error (.capture "hiccup"), .ok (some ⟨⟨#[2]⟩, 1, 1, false, 0⟩)]

/-- The worker's run with these pulls, up to its ninth look, which tells it to stop. -/
def hiccupsRun :
    Except Failure Unit × Shift (List (Except Failure (Option Packet))) × List LogLine :=
  (run (Tap.ofList Packet) (.from 8) 9).runOn ⟨scripted, hiccups, [], 0⟩

/-- The second pause is twice as long, and there is one warning and one recovery. -/
theorem exists_schedule_hiccups :
    (∃ last lines, hiccupsRun = (.ok (), last, openingNotes scripted ++ lines) ∧
      Schedule (Tap.ofList Packet) (.from 8) scripted [] 9 ⟨scripted, hiccups, [], 0⟩ last.deeds
        last lines ∧
      (atOnce (Deed.pulls last.deeds) (last.lane.worker.life = .stopped)).runOn scripted =
        (.ok (), last.lane, openingNotes scripted ++ lines)) ∧
    Deed.times hiccupsRun.2.1.deeds = [50, 50, 50] ∧
    hiccupsRun.2.2.map (·.text) = ["Started worker video-3",
      "Capturing video stream 3 from scripted", "stream 3: pts=0 size=1",
      "scripted failed, retrying: Capture error: hiccup", "scripted: Capture error: hiccup",
      "scripted recovered", "stream 3: pts=1 size=1",
      "Worker for stream 3 stopping after 2 units"] := by
  refine ⟨?_, by decide +kernel, by decide +kernel⟩
  exact exists_schedule (Tap.ofList Packet) (.from 8) start_scripted hiccups 9

/-- The second of two packets that are too far apart breaks the worker, and is held all the same. -/
example :
    let packet (pts : Int64) : Packet := ⟨⟨#[1]⟩, pts, pts, true, 0⟩
    let last := ((run (Tap.ofList Packet) (.from 8) 9).runOn ⟨scripted,
      [.ok (some (packet (-5000000000000000000))), .ok (some (packet 5000000000000000000)), .ok none],
      [], 0⟩).2.1
    last.lane.worker.life = .broken ∧ last.lane.worker.packets = 1 ∧
      last.lane.history.size = 2 ∧ last.source.length = 1 := by
  decide +kernel

end Shift

end InstantReplay
