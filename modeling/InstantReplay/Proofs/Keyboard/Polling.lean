import InstantReplay.Keyboard.Polling
import InstantReplay.Proofs.Act
import InstantReplay.Proofs.Events
import InstantReplay.Proofs.Keyboard.Hotkey

/-!
# When a hotkey fires

Which keys are down is told by the events so far: those whose latest press or release is a press
(`KeyEvent.IsDown`), whatever else the keyboards report. A listener's thread follows this as long as
it runs (`Poller.Follows`), and so a hotkey fires at the presses of its key while each key to be
held is down, and at nothing else (`Poller.fires_exactly`). The requests that wait are those that
fired, up to four at a time, without those that were taken (`PollEvent.pendingAfter`).

Events that are fed to a listener together are a visit of its thread to a keyboard, which breaks the
thread if one of them is about something that the keyboard does not have
(`Poller.exists_trail_feed`).
-/

namespace InstantReplay

/-! ## Keys that are down -/

namespace KeyEvent

variable {events : List KeyEvent} {event : KeyEvent} {key : KeyCode} {down : List KeyCode}

/-- Whether an event presses or releases a key. -/
def moves (event : KeyEvent) (key : KeyCode) : Bool :=
  event.code = key && (event.isPress || event.isRelease)

/-- The latest press or release of a key is a press. -/
def IsDown (events : List KeyEvent) (key : KeyCode) : Prop :=
  ∃ latest, (events.filter (·.moves key)).getLast? = some latest ∧ latest.isPress

theorem not_isDown_nil (key : KeyCode) : ¬IsDown [] key := by
  rintro ⟨latest, hlatest, -⟩
  cases hlatest

/-- An event that moves a key says whether it is down. -/
theorem isDown_concat_of_moves (h : event.moves key) :
    IsDown (events ++ [event]) key ↔ event.isPress := by
  rw [IsDown, List.filter_append, List.filter_singleton, h, cond_true, List.getLast?_concat]
  simp

/-- An event that does not move a key leaves it as it is. -/
theorem isDown_concat_of_not_moves (h : event.moves key = false) :
    IsDown (events ++ [event]) key ↔ IsDown events key := by
  rw [IsDown, List.filter_append, List.filter_singleton, h, cond_false, List.append_nil, IsDown]

theorem not_isRelease_of_isPress (h : event.isPress) : event.isRelease = false := by
  simp only [isPress, isRelease, Bool.and_eq_true, decide_eq_true_eq] at h ⊢
  rw [h.2]
  exact Bool.and_false _

theorem mem_downAfter_of_moves (h : event.moves key) :
    key ∈ HotkeyListener.downAfter down event ↔ event.isPress := by
  simp only [moves, Bool.and_eq_true, decide_eq_true_eq, Bool.or_eq_true] at h
  obtain ⟨rfl, hpress | hrelease⟩ := h
  · rw [HotkeyListener.downAfter, if_pos hpress]
    split <;> simp_all
  · have hpress : ¬event.isPress := fun hpress => by
      simp [not_isRelease_of_isPress hpress] at hrelease
    simp [HotkeyListener.downAfter, hpress, hrelease]

theorem mem_downAfter_of_not_moves (h : event.moves key = false) :
    key ∈ HotkeyListener.downAfter down event ↔ key ∈ down := by
  have hother (hmoved : event.isPress ∨ event.isRelease) : key ≠ event.code := by
    rintro rfl
    simp [moves] at h
    simp [h] at hmoved
  rw [HotkeyListener.downAfter]
  split_ifs with hpress hmem hrelease
  · rfl
  · exact List.mem_cons.trans (or_iff_right (hother (.inl hpress)))
  · rw [List.mem_filter, and_iff_left]
    exact decide_eq_true (hother (.inr hrelease))
  · rfl

/-- The keys that are down are followed event by event. -/
theorem mem_downAfter_iff (h : ∀ key, key ∈ down ↔ IsDown events key) (event : KeyEvent)
    (key : KeyCode) :
    key ∈ HotkeyListener.downAfter down event ↔ IsDown (events ++ [event]) key := by
  cases hmoves : event.moves key with
  | true => rw [mem_downAfter_of_moves hmoves, isDown_concat_of_moves hmoves]
  | false => rw [mem_downAfter_of_not_moves hmoves, isDown_concat_of_not_moves hmoves, h]

end KeyEvent

/-! ## What fires a hotkey -/

namespace Hotkey

open KeyEvent (IsDown)

variable {text : String} {hotkey : Hotkey} {events : List KeyEvent} {event : KeyEvent}
  {down : List KeyCode}

/-- An event fires a hotkey: it presses its key while each key to be held is down, the left one or
the right one. -/
def FiresAt (hotkey : Hotkey) (events : List KeyEvent) (event : KeyEvent) : Prop :=
  event.isPress ∧ event.code = hotkey.key ∧
    ∀ modifier ∈ hotkey.modifiers, ∃ names left right, (names, left, right) ∈ KeyCode.holders ∧
      modifier = left ∧ (IsDown (events ++ [event]) left ∨ IsDown (events ++ [event]) right)

/-- The keys to be held are left ones of those that have a left and a right one. -/
theorem exists_holder_of_parse (hparse : parse text = .ok hotkey) {modifier : KeyCode}
    (hmodifier : modifier ∈ hotkey.modifiers) :
    ∃ names right, (names, modifier, right) ∈ KeyCode.holders := by
  obtain ⟨name, -, hholder⟩ := ((parse_eq_ok_iff.1 hparse).2.modifiers modifier).1 hmodifier
  obtain ⟨⟨names, left, right⟩, hfind, rfl⟩ := Option.map_eq_some_iff.1 hholder
  exact ⟨names, right, List.mem_of_find?_eq_some hfind⟩

/-- The key of a hotkey is none of those that are held. -/
theorem key_ne_of_parse (hparse : parse text = .ok hotkey) {names : List String}
    {left right : KeyCode} (hholder : (names, left, right) ∈ KeyCode.holders) :
    hotkey.key ≠ left ∧ hotkey.key ≠ right := by
  have hall : ∀ entry ∈ KeyCode.names, ∀ holder ∈ KeyCode.holders,
      entry.2 ≠ holder.2.1 ∧ entry.2 ≠ holder.2.2 := by decide
  obtain ⟨name, -, hnamed⟩ := (parse_eq_ok_iff.1 hparse).2.key
  obtain ⟨front, behind, hsplit, -⟩ := List.lookup_eq_some_iff.1 hnamed
  exact hall (name, hotkey.key) (by simp [hsplit]) _ hholder

theorem variants_of_mem_holders {names : List String} {left right : KeyCode}
    (hholder : (names, left, right) ∈ KeyCode.holders) : KeyCode.variants left = [left, right] := by
  have hall : ∀ holder ∈ KeyCode.holders, KeyCode.variants holder.2.1 = [holder.2.1, holder.2.2] := by
    decide
  exact hall _ hholder

/-- A listener that knows which keys are down fires where it should. -/
theorem firesAt_iff (hparse : parse text = .ok hotkey)
    (hdown : ∀ key, key ∈ down ↔ IsDown (events ++ [event]) key) :
    HotkeyListener.firesAt hotkey down event ↔ hotkey.FiresAt events event := by
  have hheld (modifier : KeyCode) (hmodifier : modifier ∈ hotkey.modifiers) :
      (KeyCode.variants modifier).any down.contains ↔
        ∃ names left right, (names, left, right) ∈ KeyCode.holders ∧ modifier = left ∧
          (IsDown (events ++ [event]) left ∨ IsDown (events ++ [event]) right) := by
    obtain ⟨names, right, hholder⟩ := exists_holder_of_parse hparse hmodifier
    have hvariants := variants_of_mem_holders hholder
    constructor
    · intro h
      simp only [hvariants, List.any_cons, List.any_nil, Bool.or_false, Bool.or_eq_true,
        List.contains_iff_mem, hdown] at h
      exact ⟨names, modifier, right, hholder, rfl, h⟩
    · rintro ⟨names', left, right', hholder', rfl, h⟩
      simpa [variants_of_mem_holders hholder', hdown] using h
  rw [HotkeyListener.firesAt, FiresAt, fires]
  simp only [Bool.and_eq_true, decide_eq_true_eq, List.all_eq_true, List.contains_iff_mem,
    and_assoc]
  refine and_congr_right fun hpress => and_congr_right fun hcode => ?_
  have hkey : hotkey.key ∈ down := by
    rw [hdown, KeyEvent.isDown_concat_of_moves (by simp [KeyEvent.moves, hcode, hpress])]
    exact hpress
  rw [and_iff_right hkey]
  exact forall₂_congr hheld

end Hotkey

/-! ## The rounds of a listener -/

namespace PollEvent

/-- The event of a keyboard that is handled. -/
def keyEvent? : PollEvent → Option KeyEvent
  | .handled event _ => some event
  | _ => none

/-- The events that are handled, of all keyboards in turn. -/
def keyEvents (events : List PollEvent) : List KeyEvent := events.filterMap keyEvent?

/-- Whether the hotkey fires. -/
def fires : PollEvent → Bool
  | .handled _ fired => fired
  | _ => false

/-- The requests that wait after one more event: one more if the hotkey fires, unless four wait, and
one less if one is taken. -/
def pendingAfter (pending : Nat) : PollEvent → Nat
  | .handled _ true => if pending < HotkeyListener.queueLimit then pending + 1 else pending
  | .taken (.ok ()) => pending - 1
  | _ => pending

/-- The requests that wait after events. -/
def waiting (events : List PollEvent) : Nat := events.foldl pendingAfter 0

/-- An event is as it should be behind others: the hotkey fires where it should, and only a request
that waits is taken. -/
def Fits (hotkey : Hotkey) (before : List PollEvent) : PollEvent → Prop
  | .handled event fired => fired = true ↔ hotkey.FiresAt (keyEvents before) event
  | .taken (.ok ()) => 0 < waiting before
  | _ => True

variable {events : List PollEvent} {event : PollEvent}

theorem keyEvents_concat (events : List PollEvent) (event : PollEvent) :
    keyEvents (events ++ [event]) = keyEvents events ++ event.keyEvent?.toList := by
  rw [keyEvents, List.filterMap_append, keyEvents]
  cases event <;> rfl

theorem waiting_concat (events : List PollEvent) (event : PollEvent) :
    waiting (events ++ [event]) = pendingAfter (waiting events) event := by
  rw [waiting, List.foldl_append, List.foldl_cons, List.foldl_nil, waiting]

theorem pendingAfter_le {pending : Nat} (h : pending ≤ HotkeyListener.queueLimit)
    (event : PollEvent) : pendingAfter pending event ≤ HotkeyListener.queueLimit := by
  fun_cases pendingAfter pending event <;> omega

theorem waiting_le (events : List PollEvent) : waiting events ≤ HotkeyListener.queueLimit := by
  induction events using List.reverseRecOn with
  | nil => exact Nat.zero_le _
  | append_singleton events event ih =>
    rw [waiting_concat]
    exact pendingAfter_le ih event

end PollEvent

namespace HotkeyListener

variable {listener : HotkeyListener} {event : KeyEvent} {answer : Except Failure Unit}

theorem hotkey_step : (listener.step event).2.hotkey = listener.hotkey := by
  rw [step]
  split <;> rfl

theorem down_step : (listener.step event).2.down = downAfter listener.down event := by
  rw [step]
  split <;> rfl

theorem fired_step :
    (listener.step event).1 = firesAt listener.hotkey (downAfter listener.down event) event := by
  rw [step]
  split <;> simp_all

theorem pending_step (hlimit : listener.pending ≤ queueLimit) :
    (listener.step event).2.pending =
      PollEvent.pendingAfter listener.pending (.handled event (listener.step event).1) := by
  rw [step]
  split
  · dsimp only [PollEvent.pendingAfter]
    split <;> omega
  · rfl

theorem hotkey_take : listener.take.2.hotkey = listener.hotkey := by
  rw [take]
  split_ifs <;> rfl

theorem down_take : listener.take.2.down = listener.down := by
  rw [take]
  split_ifs <;> rfl

/-- A request is taken if one waits, and nothing else lessens those that wait. -/
theorem pending_take (h : listener.take.1 = some answer) :
    listener.take.2.pending = PollEvent.pendingAfter listener.pending (.taken answer) ∧
      (answer = .ok () → 0 < listener.pending) := by
  rw [take] at h ⊢
  split_ifs at h ⊢ with hpending hstate
  · cases h
    exact ⟨rfl, fun _ => hpending⟩
  · cases h
    exact ⟨rfl, nofun⟩

end HotkeyListener

namespace Poller

open KeyEvent (IsDown)
open PollEvent (keyEvents waiting)

variable {poller next last : Poller} {hotkey : Hotkey} {events : List PollEvent}
  {event : PollEvent}

/-- A listener follows the events so far. -/
structure Follows (hotkey : Hotkey) (events : List PollEvent) (poller : Poller) : Prop where
  hotkey_eq : poller.listener.hotkey = hotkey
  down : poller.phase ≠ .ended →
    ∀ key, key ∈ poller.listener.down ↔ IsDown (keyEvents events) key
  pending_eq : poller.listener.pending = waiting events

theorem follows_fresh (hotkey : Hotkey) (keyboards : List Keyboard) :
    (fresh hotkey keyboards).Follows hotkey [] where
  hotkey_eq := rfl
  down _ key := iff_of_false List.not_mem_nil (KeyEvent.not_isDown_nil key)
  pending_eq := rfl

/-- What happens apart from the handling of events and the taking of requests changes nothing that is
followed. -/
theorem Follows.concat_idle (h : poller.Follows hotkey events)
    (hlistener : next.listener = poller.listener)
    (hphase : next.phase ≠ .ended → poller.phase ≠ .ended) (hkey : event.keyEvent? = none)
    (hpending : ∀ pending, PollEvent.pendingAfter pending event = pending) :
    next.Follows hotkey (events ++ [event]) where
  hotkey_eq := hlistener ▸ h.hotkey_eq
  down hnext := by
    rw [hlistener, PollEvent.keyEvents_concat, hkey, Option.toList_none, List.append_nil]
    exact h.down (hphase hnext)
  pending_eq := by
    rw [hlistener, PollEvent.waiting_concat, hpending]
    exact h.pending_eq

/-- An event that ends the thread leaves the requests that wait. -/
theorem Follows.concat_over (h : poller.Follows hotkey events)
    (hhotkey : next.listener.hotkey = poller.listener.hotkey)
    (hlistener : next.listener.pending = poller.listener.pending) (hphase : next.phase = .ended)
    (hpending : ∀ pending, PollEvent.pendingAfter pending event = pending) :
    next.Follows hotkey (events ++ [event]) where
  hotkey_eq := hhotkey.trans h.hotkey_eq
  down hnext := absurd hphase hnext
  pending_eq := by
    rw [hlistener, PollEvent.waiting_concat, hpending]
    exact h.pending_eq

theorem Follows.pending_le (h : poller.Follows hotkey events) :
    poller.listener.pending ≤ HotkeyListener.queueLimit :=
  h.pending_eq ▸ PollEvent.waiting_le events

/-- **A listener goes on following** whatever happens next. -/
theorem Follows.step (h : poller.Follows hotkey events) (hstep : poller.Step event next) :
    next.Follows hotkey (events ++ [event]) := by
  cases hstep with
  | began hphase | unreadable hphase | opened hphase | drained hphase =>
    exact h.concat_idle rfl (fun _ => by rw [hphase]; nofun) rfl fun _ => rfl
  | told => exact h.concat_idle rfl id rfl fun _ => rfl
  | broke | ended => exact h.concat_over rfl rfl rfl fun _ => rfl
  | handled hphase =>
    have hrunning : poller.phase ≠ .ended := by rw [hphase]; nofun
    refine ⟨HotkeyListener.hotkey_step.trans h.hotkey_eq, fun _ key => ?_, ?_⟩
    · rw [HotkeyListener.down_step, PollEvent.keyEvents_concat]
      exact KeyEvent.mem_downAfter_iff (h.down hrunning) _ key
    · rw [PollEvent.waiting_concat, ← h.pending_eq]
      exact HotkeyListener.pending_step h.pending_le
  | taken hanswer =>
    refine ⟨HotkeyListener.hotkey_take.trans h.hotkey_eq, fun hphase => ?_, ?_⟩
    · rw [HotkeyListener.down_take, PollEvent.keyEvents_concat]
      simpa [PollEvent.keyEvent?] using h.down hphase
    · rw [PollEvent.waiting_concat, ← h.pending_eq]
      exact (HotkeyListener.pending_take hanswer).1

variable {text : String}

/-- What happens to a listener that follows is as it should be. -/
theorem Follows.fits (h : poller.Follows hotkey events) (hparse : Hotkey.parse text = .ok hotkey)
    (hstep : poller.Step event next) : event.Fits hotkey events := by
  cases hstep with
  | @handled _ event hphase =>
    have hdown := KeyEvent.mem_downAfter_iff (h.down (by rw [hphase]; nofun)) event
    show (poller.listener.step event).1 = true ↔ hotkey.FiresAt (keyEvents events) event
    rw [HotkeyListener.fired_step, h.hotkey_eq]
    exact Hotkey.firesAt_iff hparse hdown
  | @taken answer hanswer =>
    rcases answer with failure | ⟨⟩
    · trivial
    · show 0 < waiting events
      rw [← h.pending_eq]
      exact (HotkeyListener.pending_take hanswer).2 rfl
  | _ => trivial

/-- A whole run is as it should be. -/
theorem Follows.run (h : poller.Follows hotkey []) (hparse : Hotkey.parse text = .ok hotkey)
    (htrail : Trail Step poller events last) :
    last.Follows hotkey events ∧ AtEach events fun before event _ => event.Fits hotkey before :=
  htrail.keeps (fun _ _ _ _ h hstep => ⟨h.step hstep, h.fits hparse hstep⟩) h

/-- **A hotkey fires where it should.** Whatever happens to a listener for the hotkey that a text
names, and whatever its keyboards report: the hotkey fires at the events that press its key while
each key to be held is down, the left one or the right one, and at no others. Its key is none of
those that are held, so pressing those fires nothing. The requests that wait are those that fired,
unless four waited, without those taken; any event can be handled at once however many wait. -/
theorem fires_exactly (hparse : Hotkey.parse text = .ok hotkey) (keyboards : List Keyboard)
    (h : Trail Step (fresh hotkey keyboards) events last) :
    (AtEach events fun before event _ => event.Fits hotkey before) ∧
      (∀ names left right, (names, left, right) ∈ KeyCode.holders →
        hotkey.key ≠ left ∧ hotkey.key ≠ right) ∧
      last.listener.pending = waiting events ∧
      last.listener.pending ≤ HotkeyListener.queueLimit ∧
      ∀ due event, last.phase = .reading due →
        ∃ fired next, Step last (.handled event fired) next ∧ next.phase = .reading due := by
  obtain ⟨hlast, hfits⟩ := (follows_fresh hotkey keyboards).run hparse h
  exact ⟨hfits, fun _ _ _ => Hotkey.key_ne_of_parse hparse, hlast.pending_eq, hlast.pending_le,
    fun due event hphase => ⟨_, _, .handled hphase, hphase⟩⟩

/-- The left one of the keys to be held is named, the right one is held: a press fires, holding on and
letting go do not, nor do a light, an axis with the number of the key, a mark between events, or a
keyboard that cannot be read. -/
theorem fires_exactly_rightCtrl :
    let hotkey : Hotkey := ⟨[29], 67⟩
    let gone : Keyboard := { node := "event0" }
    let lit : Keyboard := { node := "event1", extras := { lights := true } }
    let events : List PollEvent := [.began, .unreadable gone, .opened lit,
      .handled ⟨1, 97, 1⟩ false, .handled ⟨17, 1, 1⟩ false, .handled ⟨0, 0, 0⟩ false,
      .handled ⟨1, 67, 1⟩ true, .handled ⟨1, 67, 2⟩ false, .handled ⟨3, 67, 1⟩ false,
      .handled ⟨1, 67, 0⟩ false, .taken (.ok ()), .drained]
    Hotkey.parse "ctrl+f9" = .ok hotkey ∧
      ∃ last, Trail Step (fresh hotkey [gone, lit]) events last ∧
        (AtEach events fun before event _ => event.Fits hotkey before) ∧ waiting events = 0 := by
  intro hotkey gone lit events
  have hparse : Hotkey.parse "ctrl+f9" = .ok hotkey := rfl
  have hround : Trail Step (fresh hotkey [gone, lit]) events _ :=
    .cons (.began rfl rfl) <| .cons (.unreadable rfl) <| .cons (.opened rfl) <|
      .cons (.handled rfl) <| .cons (.handled rfl) <| .cons (.handled rfl) <|
        .cons (.handled rfl) <| .cons (.handled rfl) <| .cons (.handled rfl) <|
          .cons (.handled rfl) <| .cons (.taken rfl) <| .single (.drained rfl)
  exact ⟨hparse, _, hround, (fires_exactly hparse _ hround).1, rfl⟩

/-! ## Events that are fed together -/

/-- What is noted of events: a line for each that fires the hotkey. -/
def notes (events : List PollEvent) : List LogLine :=
  (events.filter (·.fires)).map fun _ => .info "Save hotkey pressed"

theorem notes_append (events later : List PollEvent) :
    notes (events ++ later) = notes events ++ notes later := by
  rw [notes, List.filter_append, List.map_append, notes, notes]

/-- What a listener does with each of the events that it is fed. -/
def handling (event : KeyEvent) : Act HotkeyListener (ForInStep PUnit) := do
  if ← Act.step (·.step event) then Act.note (.info "Save hotkey pressed")
  return .yield PUnit.unit

theorem run_handling (event : KeyEvent) (listener : HotkeyListener) (log : List LogLine) :
    (handling event).run.run ⟨listener, log⟩ = (.ok (.yield PUnit.unit),
      ⟨(listener.step event).2, log ++ notes [.handled event (listener.step event).1]⟩) := by
  rw [handling, Act.run_bind_ok (Act.run_step _ _)]
  cases hfired : (listener.step event).1 with
  | true => rfl
  | false =>
    rw [notes, List.filter_cons_of_neg (by simp [PollEvent.fires]), List.filter_nil, List.map_nil,
      List.append_nil]
    rfl

/-- Events that a listener is fed are handled one by one while a keyboard is read. -/
theorem exists_trail_handling {due : List Keyboard} (hphase : poller.phase = .reading due)
    (fed : List KeyEvent) (log : List LogLine) :
    ∃ events last, Trail Step poller events last ∧ keyEvents events = fed ∧
      last.phase = .reading due ∧
      (forIn fed PUnit.unit fun event _ => handling event).run.run ⟨poller.listener, log⟩ =
        (.ok PUnit.unit, ⟨last.listener, log ++ notes events⟩) := by
  induction fed generalizing poller log with
  | nil => exact ⟨[], poller, .nil poller, rfl, hphase, by simp [notes]; rfl⟩
  | cons event fed ih =>
    have hfirst : Step poller (.handled event (poller.listener.step event).1) _ := .handled hphase
    have hafter : ({ poller with listener := (poller.listener.step event).2 } : Poller).phase =
        .reading due := hphase
    obtain ⟨events, last, hrest, hevents, hlast, hrun⟩ := ih hafter
      (log ++ notes [.handled event (poller.listener.step event).1])
    refine ⟨_, last, .cons hfirst hrest, congrArg (event :: ·) hevents, hlast, ?_⟩
    rw [List.forIn_cons, Act.run_bind_ok (run_handling event poller.listener log)]
    rw [List.append_assoc, ← notes_append] at hrun
    exact hrun

variable {node : String} {keyboard : Keyboard}

theorem runOn_feed (hstate : poller.listener.state = .listening)
    (hkeyboard : poller.listener.keyboard? node = some keyboard) (fed : List KeyEvent) :
    (HotkeyListener.feed node fed).runOn poller.listener =
      if fed.any (·.isForeign keyboard.extras) then
        (.ok (), { poller.listener with state := .failed, down := [] }, [])
      else (do
        forIn fed PUnit.unit fun event _ => handling event
        return : Act HotkeyListener Unit).runOn poller.listener := by
  rw [Act.runOn, HotkeyListener.feed, Act.run_bind_ok (Act.run_state _)]
  dsimp only
  rw [if_pos hstate, hkeyboard]
  by_cases hforeign : fed.any (·.isForeign keyboard.extras)
  · rw [if_pos hforeign]
    dsimp only
    rw [if_pos hforeign]
    rfl
  · rw [if_neg hforeign]
    dsimp only
    rw [if_neg hforeign]
    rfl

/-- **Events that a listener is fed together are a visit of its thread to a keyboard.** If one of
them is about something that the keyboard does not have, the thread breaks and none is handled;
otherwise all of them are. -/
theorem exists_trail_feed {due : List Keyboard} (hphase : poller.phase = .before (keyboard :: due))
    (hstate : poller.listener.state = .listening)
    (hkeyboard : poller.listener.keyboard? node = some keyboard) (fed : List KeyEvent) :
    ∃ events last, Trail Step poller (.opened keyboard :: events) last ∧
      (HotkeyListener.feed node fed).runOn poller.listener =
        (.ok (), last.listener, notes events) ∧
      if fed.any (·.isForeign keyboard.extras) then events = [.broke] ∧ last.phase = .ended
      else keyEvents events = fed ∧ last.phase = .before due := by
  have hreading : ({ poller with phase := .reading due } : Poller).phase = .reading due := rfl
  have hopened := Step.opened hphase
  rw [runOn_feed hstate hkeyboard]
  split_ifs with hforeign
  · exact ⟨_, _, .cons hopened (.single (.broke hreading)), rfl, rfl, rfl⟩
  · obtain ⟨events, last, htrail, hevents, hlast, hrun⟩ := exists_trail_handling hreading fed []
    have hvisit := htrail.append (.single (Step.drained hlast))
    refine ⟨events ++ [.drained], _, .cons hopened hvisit, ?_, ?_, rfl⟩
    · rw [Act.runOn, Act.run_bind_ok hrun, notes_append, List.nil_append]
      exact congrArg (fun lines => (_, _, lines)) (List.append_nil _).symm
    · rw [PollEvent.keyEvents_concat, hevents]
      exact List.append_nil fed

end Poller

end InstantReplay
