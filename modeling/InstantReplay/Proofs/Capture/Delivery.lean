import InstantReplay.Proofs.Capture.Shift

/-!
# What an encoding line delivers

A line asks its encoder for a packet. If the encoder has none ready, the line asks its device for a
frame, sends that to the encoder, and asks the encoder once more. Any of the calls may fail, and the
line gives up the attempt then (`LineEvent.Attempt`).

A worker makes one attempt after another. No failure loses a packet or a frame: the packets that
the encoder gave are in the history, and the frames that the device gave were sent, also when the
worker breaks down with the history (`Shift.exists_delivery`). What is waiting in an encoder with a
queue comes out first (`EncodingLine.waiting_prefix`).
-/

namespace InstantReplay

/-- A call that a line makes, and its outcome. -/
inductive LineEvent
  /-- The encoder is asked for a packet. -/
  | produced (outcome : Except Failure (Option Packet))
  /-- The device is asked for a frame. -/
  | fetched (outcome : Except Failure (Option Frame))
  /-- A frame is sent to the encoder. -/
  | submitted (frame : Frame) (outcome : Except Failure Unit)

namespace LineEvent

def packet? : LineEvent → Option Packet
  | .produced (.ok ready) => ready
  | _ => none

def fetched? : LineEvent → Option Frame
  | .fetched (.ok taken) => taken
  | _ => none

def submitted? : LineEvent → Option Frame
  | .submitted frame _ => some frame
  | _ => none

def isFailure : LineEvent → Bool
  | .produced (.error _) => true
  | .fetched (.error _) => true
  | .submitted _ (.error _) => true
  | _ => false

/-- The packets that the encoder gave. -/
def packets (events : List LineEvent) : List Packet := events.filterMap packet?

/-- The frames that the device gave. -/
def frames (events : List LineEvent) : List Frame := events.filterMap fetched?

/-- The frames that were sent to the encoder. -/
def sent (events : List LineEvent) : List Frame := events.filterMap submitted?

/-- The calls of one attempt to get a packet, and what it comes to. -/
inductive Attempt : List LineEvent → Except Failure (Option Packet) → Prop
  | ready (packet : Packet) : Attempt [.produced (.ok (some packet))] (.ok (some packet))
  | unready (failure : Failure) : Attempt [.produced (.error failure)] (.error failure)
  | unfetched (failure : Failure) :
    Attempt [.produced (.ok none), .fetched (.error failure)] (.error failure)
  | idle : Attempt [.produced (.ok none), .fetched (.ok none)] (.ok none)
  | refused (frame : Frame) (failure : Failure) :
    Attempt [.produced (.ok none), .fetched (.ok (some frame)), .submitted frame (.error failure)]
      (.error failure)
  | encoded (frame : Frame) (outcome : Except Failure (Option Packet)) :
    Attempt [.produced (.ok none), .fetched (.ok (some frame)), .submitted frame (.ok ()),
      .produced outcome] outcome

/-- What these calls delivered is what these pulls were. -/
structure Delivers (events : List LineEvent) (pulls : List Pull) : Prop where
  packets : packets events = pulls.filterMap Pull.packet?
  failures : events.countP isFailure = pulls.countP Pull.isFailure
  sent : sent events = frames events
  fetches : AtEach events fun before event _ => ∀ outcome, event = .fetched outcome →
    before.getLast? = some (.produced (.ok none))

variable {events rest : List LineEvent} {pulls others : List Pull}

theorem Delivers.nil : Delivers [] [] := ⟨rfl, rfl, rfl, .nil⟩

theorem Delivers.append (h : Delivers events pulls) (hrest : Delivers rest others) :
    Delivers (events ++ rest) (pulls ++ others) where
  packets := by
    rw [LineEvent.packets, List.filterMap_append, List.filterMap_append, ← h.packets,
      ← hrest.packets]
    rfl
  failures := by rw [List.countP_append, List.countP_append, h.failures, hrest.failures]
  sent := by
    rw [LineEvent.sent, frames, List.filterMap_append, List.filterMap_append]
    exact congrArg₂ _ h.sent hrest.sent
  fetches := h.fetches.append fun before event behind hsplit outcome hevent => by
    rw [List.getLast?_append, hrest.fetches before event behind hsplit outcome hevent,
      Option.some_or]

theorem Attempt.delivers {result : Except Failure (Option Packet)} (h : Attempt events result) :
    Delivers events [Pull.ofResult result] := by
  cases h with
  | ready packet => exact ⟨rfl, rfl, rfl, .cons nofun .nil⟩
  | unready failure => exact ⟨rfl, rfl, rfl, .cons nofun .nil⟩
  | unfetched failure => exact ⟨rfl, rfl, rfl, .cons nofun (.cons (fun _ _ => rfl) .nil)⟩
  | idle => exact ⟨rfl, rfl, rfl, .cons nofun (.cons (fun _ _ => rfl) .nil)⟩
  | refused frame failure =>
    exact ⟨rfl, rfl, rfl, .cons nofun (.cons (fun _ _ => rfl) (.cons nofun .nil))⟩
  | encoded frame =>
    rcases result with failure | _ | packet <;>
      exact ⟨rfl, rfl, rfl, .cons nofun (.cons (fun _ _ => rfl) (.cons nofun (.cons nofun .nil)))⟩

end LineEvent

namespace EncodingLine

variable {δ ε : Type} {line : EncodingLine δ ε} {state last : EncodingState δ ε}

/-- A call changes the state of the line. -/
inductive Moves (line : EncodingLine δ ε) :
    EncodingState δ ε → LineEvent → EncodingState δ ε → Prop
  | produce {state : EncodingState δ ε} {outcome : Except Failure (Option Packet)} {encoder : ε}
    (h : line.encoder.next state.encoder = (outcome, encoder)) :
    Moves line state (.produced outcome) { state with encoder }
  | fetch {state : EncodingState δ ε} {frame : Frame} {device : δ}
    (h : line.device.next state.device = (.ok (some frame), device)) :
    Moves line state (.fetched (.ok (some frame)))
      { state with device, frames := state.frames + 1 }
  | miss {state : EncodingState δ ε} {outcome : Except Failure (Option Frame)} {device : δ}
    (h : line.device.next state.device = (outcome, device))
    (hnone : ∀ frame, outcome ≠ .ok (some frame)) :
    Moves line state (.fetched outcome) { state with device }
  | submit {state : EncodingState δ ε} {frame : Frame} {outcome : Except Failure Unit} {encoder : ε}
    (h : line.encoder.send frame state.encoder = (outcome, encoder)) :
    Moves line state (.submitted frame outcome) { state with encoder }

/-- The line makes one attempt each time it is asked. -/
theorem exists_attempt (line : EncodingLine δ ε) (state : EncodingState δ ε) : ∃ events,
    LineEvent.Attempt events (line.next state).1 ∧
      Trail line.Moves state events (line.next state).2 := by
  rw [next]
  rcases hready : line.encoder.next state.encoder with ⟨failure | _ | packet, encoder⟩
  · exact ⟨_, .unready failure, .single (.produce hready)⟩
  · rcases hfetch : line.device.next state.device with ⟨failure | _ | frame, device⟩
    · exact ⟨_, .unfetched failure, .cons (.produce hready) (.single (.miss hfetch nofun))⟩
    · exact ⟨_, .idle, .cons (.produce hready) (.single (.miss hfetch nofun))⟩
    · dsimp only
      rcases hsend : line.encoder.send frame encoder with ⟨failure | ⟨⟩, sent⟩
      · exact ⟨_, .refused frame failure, .cons (.produce hready) (.cons (.fetch hfetch)
          (.single (.submit hsend)))⟩
      · exact ⟨_, .encoded frame _, .cons (.produce hready) (.cons (.fetch hfetch)
          (.cons (.submit hsend) (.single (.produce rfl))))⟩
  · exact ⟨_, .ready packet, .single (.produce hready)⟩

/-- The calls behind all that a line was asked. -/
theorem exists_delivers {pulls : List Pull} (h : Trail line.source.Gives state pulls last) :
    ∃ events, Trail line.Moves state events last ∧ LineEvent.Delivers events pulls := by
  induction h with
  | nil state => exact ⟨[], .nil state, .nil⟩
  | @cons state middle last pull pulls hgives _ ih =>
    obtain ⟨rest, htrail, hrest⟩ := ih
    obtain ⟨events, hattempt, hevents⟩ := line.exists_attempt state
    obtain ⟨rfl, rfl⟩ := hgives
    exact ⟨events ++ rest, hevents.append htrail, hattempt.delivers.append hrest⟩

/-- A line counts the frames that the device gave. -/
theorem frames_eq {events : List LineEvent} (h : Trail line.Moves state events last) :
    last.frames = state.frames + (LineEvent.frames events).length := by
  induction h with
  | nil => rfl
  | cons hmove _ ih =>
    rw [ih]
    cases hmove with
    | produce => rfl
    | fetch => exact Nat.add_right_comm _ _ _
    | @miss outcome device h hnone =>
      rcases outcome with failure | _ | frame
      · rfl
      · rfl
      · exact absurd rfl (hnone frame)
    | submit => rfl

end EncodingLine

/-! ## Encoders with a queue -/

/-- The packets that wait in an encoder, if it gives them in turn and puts new ones behind them. -/
structure Encoder.Queues {ε : Type} (encoder : Encoder ε) (waiting : ε → List Packet) : Prop where
  pops : ∀ {state packet later}, encoder.next state = (.ok (some packet), later) →
    waiting state = packet :: waiting later
  empty : ∀ {state later}, encoder.next state = (.ok none, later) →
    waiting state = [] ∧ waiting later = []
  fails : ∀ {state failure later}, encoder.next state = (.error failure, later) →
    waiting later = waiting state
  sends : ∀ frame state, waiting state <+: waiting (encoder.send frame state).2

/-- The failures in a queue are no packets that wait. -/
theorem Encoder.queues_queued (format : StreamFormat) :
    (Encoder.queued format).Queues fun state => state.queue.filterMap Except.toOption where
  pops {state packet later} h := by
    obtain ⟨plan, queue, sent⟩ := state
    rcases queue with _ | ⟨failure | ready, queue⟩ <;> cases h
    rfl
  empty {state later} h := by
    obtain ⟨plan, queue, sent⟩ := state
    rcases queue with _ | ⟨failure | ready, queue⟩ <;> cases h
    exact ⟨rfl, rfl⟩
  fails {state failure later} h := by
    obtain ⟨plan, queue, sent⟩ := state
    rcases queue with _ | ⟨failure | ready, queue⟩ <;> cases h
    rfl
  sends frame state := by
    obtain ⟨_ | ⟨failure | packets, plan⟩, queue, sent⟩ := state
    · exact List.prefix_refl _
    · exact List.prefix_refl _
    · show _ <+: (queue ++ packets).filterMap _
      rw [List.filterMap_append]
      exact List.prefix_append _ _

namespace EncodingLine

variable {δ ε : Type} {line : EncodingLine δ ε} {waiting : ε → List Packet}
  {state last : EncodingState δ ε} {event : LineEvent} {events : List LineEvent}

/-- What waits when a call is made comes out by this call or waits still. -/
theorem Moves.waiting_prefix (hqueues : line.encoder.Queues waiting)
    (h : line.Moves state event last) :
    waiting state.encoder <+: event.packet?.toList ++ waiting last.encoder := by
  cases h with
  | @produce outcome encoder h =>
    rcases outcome with failure | _ | packet
    · rw [← hqueues.fails h]
      exact List.prefix_refl _
    · rw [(hqueues.empty h).1]
      exact List.nil_prefix
    · rw [hqueues.pops h]
      exact List.prefix_refl _
  | fetch => exact List.prefix_refl _
  | @miss outcome device h hnone =>
    rcases outcome with failure | _ | frame
    · exact List.prefix_refl _
    · exact List.prefix_refl _
    · exact absurd rfl (hnone frame)
  | @submit frame outcome encoder h =>
    have hsends := hqueues.sends frame state.encoder
    rwa [h] at hsends

/-- What waits at any time comes out first, in its order, and what has not come out waits still. -/
theorem waiting_prefix (hqueues : line.encoder.Queues waiting)
    (h : Trail line.Moves state events last) :
    waiting state.encoder <+: LineEvent.packets events ++ waiting last.encoder := by
  induction h with
  | nil => exact List.prefix_refl _
  | @cons state middle last event events hmove _ ih =>
    have hpackets : LineEvent.packets (event :: events) =
        event.packet?.toList ++ LineEvent.packets events := by
      rw [LineEvent.packets, List.filterMap_cons]
      cases event.packet? <;> rfl
    rw [hpackets, List.append_assoc]
    exact (hmove.waiting_prefix hqueues).trans ((List.prefix_append_right_inj _).2 ih)

/-- Nothing waits behind a call that found nothing ready. -/
theorem waiting_eq_nil (hqueues : line.encoder.Queues waiting)
    (h : Trail line.Moves state events last)
    (hlast : events.getLast? = some (.produced (.ok none))) : waiting last.encoder = [] := by
  obtain ⟨before, rfl⟩ := List.getLast?_eq_some_iff.1 hlast
  obtain ⟨middle, -, hmove⟩ := h.exists_of_append
  obtain ⟨later, hmove, hrest⟩ := hmove.exists_of_cons
  cases hrest
  cases hmove with
  | produce hnext => exact (hqueues.empty hnext).2

end EncodingLine

/-! ## The shift of a worker with an encoding line -/

/-- What a worker with an encoding line delivered by these calls. -/
structure Delivery {δ ε : Type} (line : EncodingLine δ ε) (fresh : CaptureLane)
    (source : EncodingState δ ε) (events : List LineEvent) (last : Shift (EncodingState δ ε)) :
    Prop where
  trail : Trail line.Moves source events last.source
  /-- The history got the packets that the encoder gave, in their order, -/
  history : last.lane.history = fresh.history.pushAll
    ((LineEvent.packets events).map (·.onStream fresh.worker.stream))
  /-- and the worker counts them, but not one that broke it: -/
  packets : last.lane.worker.packets + (if last.lane.worker.life = .broken then 1 else 0) =
    (LineEvent.packets events).length
  /-- it is broken just if the history broke down with one of them. -/
  breaks : last.lane.worker.life = .broken ↔ ¬fresh.history.TakesAll
    ((LineEvent.packets events).map (·.onStream fresh.worker.stream))
  errors : last.lane.worker.errors = events.countP LineEvent.isFailure
  /-- The encoder got the frames that the device gave. -/
  sent : LineEvent.sent events = LineEvent.frames events
  frames : last.source.frames = source.frames + (LineEvent.frames events).length
  /-- A frame is asked for only when the encoder has just said that it has nothing ready. -/
  fetches : AtEach events fun before event _ => ∀ outcome, event = .fetched outcome →
    before.getLast? = some (.produced (.ok none))
  /-- Nothing waits in an encoder with a queue then, -/
  drained : ∀ {waiting}, line.encoder.Queues waiting →
    AtEach events fun before event _ => ∀ outcome, event = .fetched outcome →
      ∀ {state}, Trail line.Moves source before state → waiting state.encoder = []
  /-- and what waits in it at any time is what comes out next. -/
  inTurn : ∀ {waiting}, line.encoder.Queues waiting →
    ∀ {before behind state}, events = before ++ behind → Trail line.Moves source before state →
      Trail line.Moves state behind last.source →
      waiting state.encoder <+: LineEvent.packets behind ++ waiting last.source.encoder

/-- **A worker delivers what its encoder gives, once and in order, wherever calls fail.** -/
theorem Shift.exists_delivery {δ ε : Type} (line : EncodingLine δ ε) (flag : StopFlag)
    {stream : Nat} {name : String} {history : History} {fresh : CaptureLane}
    (hstart : CaptureLane.start stream name history none = .ok fresh) (source : EncodingState δ ε)
    (rounds : Nat) : ∃ last lines events,
      (run line.source flag rounds).runOn ⟨fresh, source, [], 0⟩ = (.ok (), last, lines) ∧
      (∀ round < rounds, flag.isSet round = true →
        last.lane.worker.life = .stopped ∨ last.lane.worker.life = .broken) ∧
      Delivery line fresh source events last := by
  obtain ⟨last, lines, hrun, hschedule, -⟩ := exists_schedule line.source flag hstart source rounds
  obtain ⟨events, htrail, hevents⟩ := EncodingLine.exists_delivers hschedule.asks
  have hends (round : Nat) (hround : round < rounds) (hset : flag.isSet round = true) :
      last.lane.worker.life = .stopped ∨ last.lane.worker.life = .broken :=
    hschedule.ends round hround (by rwa [Nat.zero_add])
  refine ⟨last, _, events, hrun, hends, htrail, ?_, ?_, ?_, ?_, hevents.sent,
    line.frames_eq htrail, hevents.fetches, ?_,
    fun hqueues _ _ _ _ _ hbehind => line.waiting_prefix hqueues hbehind⟩
  · rw [hevents.packets]
    exact hschedule.follows.history
  · rw [hevents.packets, Pull.length_filterMap_packet?]
    exact hschedule.follows.packets
  · rw [hevents.packets]
    exact hschedule.follows.breaks
  · rw [hevents.failures]
    exact hschedule.follows.errors
  · intro waiting hqueues before event behind hsplit outcome hevent state hbefore
    exact line.waiting_eq_nil hqueues hbefore
      (hevents.fetches before event behind hsplit outcome hevent)

namespace Shift

/-- A line whose device gives three frames and fails between them. The encoder makes two packets of
the first frame, refuses the second one, and fails before the packet of the third one. -/
def unsteadyLine : EncodingLine (List (Except Failure (Option Frame))) QueueState :=
  ⟨⟨Tap.ofList Frame, "scripted"⟩, .queued (.video "h264" 64 64 30)⟩

def unsteady : EncodingState (List (Except Failure (Option Frame))) QueueState :=
  let frame (pts : Int64) : Frame := ⟨⟨64, 64, ⟨0⟩, ⟨0⟩⟩, .memory ⟨#[]⟩, pts⟩
  let packet (pts : Int64) : Packet := ⟨⟨#[]⟩, pts, pts, true, 0⟩
  { device := [.ok (some (frame 0)), .error (.capture "lost"), .ok (some (frame 1)), .ok none,
      .ok (some (frame 2))]
    encoder :=
      { plan := [.ok [.ok (packet 0), .ok (packet 1)], .error (.encoder "full"),
          .ok [.error (.encoder "late"), .ok (packet 2)]] } }

/-- The run of a worker with this line, up to the look which tells it to stop. -/
def unsteadyRun : Except Failure Unit ×
    Shift (EncodingState (List (Except Failure (Option Frame))) QueueState) × List LogLine :=
  (run unsteadyLine.source (.from 15) 16).runOn ⟨scripted, unsteady, [], 0⟩

/-- Three attempts fail, and still all packets are delivered and all frames are sent. Whenever a frame
is asked for, no packet waits in the queue. -/
theorem exists_delivery_unsteady :
    (∃ last lines events, unsteadyRun = (.ok (), last, lines) ∧
      (∀ round < 16, (StopFlag.from 15).isSet round = true →
        last.lane.worker.life = .stopped ∨ last.lane.worker.life = .broken) ∧
      Delivery unsteadyLine scripted unsteady events last ∧
      AtEach events fun before event _ => ∀ outcome, event = .fetched outcome →
        ∀ {state}, Trail unsteadyLine.Moves unsteady before state →
          state.encoder.queue.filterMap Except.toOption = []) ∧
    unsteadyRun.2.1.lane.history.snapshot.packets.map (·.pts.toInt) = [0, 1, 2] ∧
    unsteadyRun.2.1.source.encoder.sent.map (·.pts.toInt) = [0, 1, 2] ∧
    unsteadyRun.2.1.lane.worker.errors = 3 ∧ unsteadyRun.2.1.lane.worker.life = .stopped := by
  refine ⟨?_, by decide +kernel, by decide +kernel, by decide +kernel, by decide +kernel⟩
  obtain ⟨last, lines, events, hrun, hends, hdelivery⟩ :=
    exists_delivery unsteadyLine (.from 15) start_scripted unsteady 16
  exact ⟨last, lines, events, hrun, hends, hdelivery,
    hdelivery.drained (Encoder.queues_queued (.video "h264" 64 64 30))⟩

end Shift

end InstantReplay
