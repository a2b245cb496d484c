import InstantReplay.Proofs.Wire.FrameMessage
import InstantReplay.Proofs.Wire.DeviceParams

/-!
# How far a send comes

A send that fails may have put bytes on the stream already. They are always a front of the message
(`Outbound.Reaches`), and how long this is depends only on the answers of the system and on the
length of the message: two ends that get the same answers come equally far with messages of equal
length (`Outbound.together_send`, `FrameMessage.together_send`). Where it is not the system that
fails, but the frame that cannot be sent, nothing is on the stream, unless the frame has more memory
objects than a message may carry: then its time is (`FrameMessage.cells_of_turnedDown`).
-/

namespace InstantReplay

namespace Outbound

variable {outbound middle later first second : Outbound} {front back cells others : List Cell}
  {bytes content : List UInt8} {descriptors : List Descriptor} {count : Nat}

/-- The first `count` of some cells were sent. -/
structure Reaches (outbound : Outbound) (cells : List Cell) (count : Nat) (later : Outbound) :
    Prop where
  cells_eq : later.cells = outbound.cells ++ cells.take count
  count_le : count ≤ cells.length
  messages : later.messages ⊆ outbound.messages

theorem Reaches.zero (hcells : later.cells = outbound.cells)
    (hmessages : later.messages ⊆ outbound.messages) (cells : List Cell) :
    outbound.Reaches cells 0 later :=
  ⟨by rw [List.take_zero, List.append_nil, hcells], Nat.zero_le _, hmessages⟩

theorem Reaches.whole (hcells : later.cells = outbound.cells ++ cells)
    (hmessages : later.messages ⊆ outbound.messages) :
    outbound.Reaches cells cells.length later :=
  ⟨by rw [List.take_length, hcells], Nat.le_refl _, hmessages⟩

/-- A send that stops inside the front. -/
theorem Reaches.inside (h : outbound.Reaches front count later) (back : List Cell) :
    outbound.Reaches (front ++ back) count later where
  cells_eq := by rw [List.take_append_of_le_length h.count_le, h.cells_eq]
  count_le := by
    rw [List.length_append]
    exact Nat.le_add_right_of_le h.count_le
  messages := h.messages

/-- A send that has the front behind it. -/
theorem Reaches.behind (hfront : outbound.Reaches front front.length middle)
    (h : middle.Reaches back count later) :
    outbound.Reaches (front ++ back) (front.length + count) later where
  cells_eq := by
    rw [h.cells_eq, hfront.cells_eq, List.take_length, List.take_length_add_append,
      List.append_assoc]
  count_le := by
    rw [List.length_append]
    exact Nat.add_le_add_left h.count_le _
  messages := fun _ hanswer => hfront.messages (h.messages hanswer)

/-- Two ends that get the same answers to the calls to come. -/
structure Twin (first second : Outbound) : Prop where
  messages : first.messages = second.messages
  writes : first.writes = second.writes
  gone : first.gone = second.gone

/-- Two sends come to the same, and equally far. -/
structure Together {ε : Type} (first second : Outbound) (cells others : List Cell)
    (done other : Except ε Unit × Outbound) : Prop where
  result_eq : done.1 = other.1
  twin : done.2.Twin other.2
  reach : ∃ count, first.Reaches cells count done.2 ∧ second.Reaches others count other.2 ∧
    (done.1 = .ok () → count = cells.length)

theorem Twin.refl (outbound : Outbound) : outbound.Twin outbound := ⟨rfl, rfl, rfl⟩

theorem Twin.put (h : first.Twin second) (bytes content : List UInt8)
    (descriptors : List Descriptor) :
    (first.put bytes descriptors).Twin (second.put content descriptors) := by
  refine ⟨?_, ?_, ?_⟩
  · rw [messages_put, messages_put, h.messages]
  · rw [writes_put, writes_put, h.writes]
  · rw [gone_put, gone_put, h.gone]

theorem cells_put (outbound : Outbound) (bytes : List UInt8) (descriptors : List Descriptor) :
    (outbound.put bytes descriptors).cells = outbound.cells ++ Cell.attach bytes descriptors := by
  cases bytes with
  | nil => exact (List.append_nil _).symm
  | cons byte bytes =>
    show (outbound.sent ++ [_]).flatMap Segment.cells = _
    rw [List.flatMap_append, List.flatMap_singleton]
    rfl

theorem reaches_put (hlater : later.sent = (outbound.put bytes descriptors).sent)
    (hmessages : later.messages ⊆ outbound.messages) :
    outbound.Reaches (Cell.attach bytes descriptors) (Cell.attach bytes descriptors).length
      later :=
  .whole ((congrArg (List.flatMap Segment.cells) hlater).trans (cells_put _ _ _)) hmessages

theorem subset_messages_put (outbound : Outbound) (bytes : List UInt8)
    (descriptors : List Descriptor) :
    (outbound.put bytes descriptors).messages ⊆ outbound.messages := by
  rw [messages_put]
  exact List.Subset.refl _

/-! ## Two sends -/

/-- Sends that stop before the first byte. -/
theorem together_of_error {ε : Type} {error : ε} (hmiddle : middle.sent = first.sent)
    (hfirst : middle.messages ⊆ first.messages) (hlater : later.sent = second.sent)
    (hsecond : later.messages ⊆ second.messages) (htwin : middle.Twin later) :
    Together first second cells others (.error error, middle) (.error error, later) :=
  ⟨rfl, htwin, 0, .zero (congrArg (List.flatMap Segment.cells) hmiddle) hfirst _,
    .zero (congrArg (List.flatMap Segment.cells) hlater) hsecond _, nofun⟩

/-- Sends that take everything in one call. -/
theorem together_of_put {ε : Type} (hmiddle : middle.sent = (first.put bytes descriptors).sent)
    (hfirst : middle.messages ⊆ first.messages)
    (hlater : later.sent = (second.put content descriptors).sent)
    (hsecond : later.messages ⊆ second.messages) (hlength : bytes.length = content.length)
    (htwin : middle.Twin later) :
    Together first second (Cell.attach bytes descriptors) (Cell.attach content descriptors)
      ((.ok (), middle) : Except ε Unit × Outbound) (.ok (), later) := by
  refine ⟨rfl, htwin, _, reaches_put hmiddle hfirst, ?_, fun _ => rfl⟩
  rw [Cell.length_attach, hlength, ← Cell.length_attach]
  exact reaches_put hlater hsecond

/-- Sends that have equally long fronts behind them. -/
theorem Together.behind {ε : Type} {done other : Except ε Unit × Outbound}
    {fronts backs : List Cell} (hfirst : first.Reaches front front.length middle)
    (hsecond : second.Reaches fronts fronts.length later) (hlength : front.length = fronts.length)
    (h : Together middle later back backs done other) :
    Together first second (front ++ back) (fronts ++ backs) done other := by
  obtain ⟨count, hdone, hother, hwhole⟩ := h.reach
  refine ⟨h.result_eq, h.twin, front.length + count, hfirst.behind hdone, ?_, fun hok => ?_⟩
  · rw [hlength]
    exact hsecond.behind hother
  · rw [hwhole hok, List.length_append]

/-- Sends whose first call takes equally much. -/
theorem Together.behind_put {ε : Type} {done other : Except ε Unit × Outbound} {limit : Nat}
    (h : Together middle later (Cell.plain (bytes.drop limit)) (Cell.plain (content.drop limit))
      done other) (hmiddle : middle.sent = (first.put (bytes.take limit) descriptors).sent)
    (hfirst : middle.messages ⊆ first.messages)
    (hlater : later.sent = (second.put (content.take limit) descriptors).sent)
    (hsecond : later.messages ⊆ second.messages) (hlength : bytes.length = content.length) :
    Together first second
      (Cell.attach (bytes.take limit) descriptors ++ Cell.plain (bytes.drop limit))
      (Cell.attach (content.take limit) descriptors ++ Cell.plain (content.drop limit))
      done other := by
  refine .behind (reaches_put hmiddle hfirst) (reaches_put hlater hsecond) ?_ h
  rw [Cell.length_attach, Cell.length_attach, List.length_take, List.length_take, hlength]

/-- Sends that fail inside the front. -/
theorem Together.inside {ε : Type} {error : ε} {fronts : List Cell}
    (h : Together first second front fronts (.error error, middle) (.error error, later))
    (back backs : List Cell) :
    Together first second (front ++ back) (fronts ++ backs) (.error error, middle)
      (.error error, later) := by
  obtain ⟨count, hfirst, hsecond, -⟩ := h.reach
  exact ⟨rfl, h.twin, count, hfirst.inside back, hsecond.inside backs, nofun⟩

/-- Sends that come to the same both fail or both succeed. -/
theorem Together.cases {ε : Type} {done other : Except ε Unit × Outbound}
    (h : Together first second cells others done other) :
    (∃ error middle later, done = (.error error, middle) ∧ other = (.error error, later)) ∨
      ∃ middle later, done = (.ok (), middle) ∧ other = (.ok (), later) := by
  obtain ⟨result, middle⟩ := done
  obtain ⟨result', later⟩ := other
  obtain rfl : result = result' := h.result_eq
  cases result with
  | error error => exact Or.inl ⟨error, middle, later, rfl, rfl⟩
  | ok => exact Or.inr ⟨middle, later, rfl, rfl⟩

/-- A failure of the system as one of the program. -/
def lifted (done : Except IoError Unit × Outbound) : Except Failure Unit × Outbound :=
  (done.1.mapError .io, done.2)

theorem Together.lifted {done other : Except IoError Unit × Outbound}
    (h : Together first second cells others done other) :
    Together first second cells others (lifted done) (lifted other) := by
  obtain ⟨count, hfirst, hsecond, hwhole⟩ := h.reach
  refine ⟨congrArg (Except.mapError Failure.io) h.result_eq, h.twin, count, hfirst, hsecond,
    fun hok => ?_⟩
  refine hwhole ?_
  obtain ⟨_ | ⟨⟩, middle⟩ := done
  · cases hok
  · rfl

theorem Together.whole {ε : Type}
    (h : Together first second cells others ((.ok (), middle) : Except ε Unit × Outbound)
      (.ok (), later)) (hlength : cells.length = others.length) :
    first.Reaches cells cells.length middle ∧ second.Reaches others others.length later := by
  obtain ⟨count, hfirst, hsecond, hwhole⟩ := h.reach
  obtain rfl := hwhole rfl
  exact ⟨hfirst, hlength ▸ hsecond⟩

/-- Two writes with the same answers come equally far. -/
theorem together_writeRounds {answers : List SendAnswer} (h : first.Twin second)
    (hlength : bytes.length = content.length) :
    Together first second (Cell.plain bytes) (Cell.plain content)
      (writeRounds bytes answers first) (writeRounds content answers second) := by
  induction answers generalizing first second bytes content with
  | nil =>
    rw [writeRounds, writeRounds, h.gone]
    cases second.gone with
    | some code =>
      exact together_of_error rfl (List.Subset.refl _) rfl (List.Subset.refl _)
        ⟨h.messages, rfl, rfl⟩
    | none =>
      rw [← Cell.attach_nil, ← Cell.attach_nil]
      exact together_of_put rfl (subset_messages_put _ _ _) rfl (subset_messages_put _ _ _) hlength
        ⟨(h.put _ _ _).messages, rfl, (h.put _ _ _).gone⟩
  | cons answer answers ih =>
    cases answer with
    | refused code =>
      rw [writeRounds, writeRounds]
      by_cases hcode : code = Errno.interrupted
      · rw [if_pos hcode, if_pos hcode]
        exact ih h hlength
      · rw [if_neg hcode, if_neg hcode]
        exact together_of_error rfl (List.Subset.refl _) rfl (List.Subset.refl _)
          ⟨h.messages, rfl, h.gone⟩
    | takes limit =>
      rw [writeRounds, writeRounds, h.gone]
      cases second.gone with
      | some code =>
        exact together_of_error rfl (List.Subset.refl _) rfl (List.Subset.refl _)
          ⟨h.messages, rfl, rfl⟩
      | none =>
        dsimp only
        by_cases hfits : bytes.length ≤ limit
        · rw [if_pos hfits, if_pos (hlength ▸ hfits), ← Cell.attach_nil, ← Cell.attach_nil]
          exact together_of_put rfl (subset_messages_put _ _ _) rfl (subset_messages_put _ _ _)
            hlength ⟨(h.put _ _ _).messages, rfl, (h.put _ _ _).gone⟩
        · -- What was not taken is written behind what was.
          rw [if_neg hfits, if_neg (hlength ▸ hfits)]
          have hback : (bytes.drop limit).length = (content.drop limit).length := by
            rw [List.length_drop, List.length_drop, hlength]
          have hrest := ih (h.put (bytes.take limit) (content.take limit) []) hback
          have hwhole := hrest.behind_put rfl (subset_messages_put _ _ _) rfl
            (subset_messages_put _ _ _) hlength
          rwa [Cell.attach_nil, Cell.attach_nil, ← Cell.plain_append, ← Cell.plain_append,
            List.take_append_drop, List.take_append_drop] at hwhole

/-- **Two writes with the same answers come equally far.** -/
theorem together_writeAll (h : first.Twin second) (hlength : bytes.length = content.length) :
    Together first second (Cell.plain bytes) (Cell.plain content)
      (first.writeAll bytes) (second.writeAll content) := by
  rw [writeAll, writeAll, h.writes]
  cases bytes with
  | nil =>
    obtain rfl := List.length_eq_zero_iff.1 hlength.symm
    exact ⟨rfl, h, 0, .zero rfl (List.Subset.refl _) _, .zero rfl (List.Subset.refl _) _,
      fun _ => rfl⟩
  | cons byte bytes =>
    obtain ⟨other, others, rfl⟩ := List.exists_cons_of_length_eq_add_one hlength.symm
    exact together_writeRounds h hlength

/-- A write that succeeds adds its bytes. -/
theorem cells_writeAll (hsent : outbound.writeAll bytes = (.ok (), later)) :
    later.cells = outbound.cells ++ Cell.plain bytes := by
  obtain ⟨count, hreach, -, hwhole⟩ := (together_writeAll (Twin.refl outbound) rfl).reach
  rw [hsent] at hreach hwhole
  rw [hreach.cells_eq, hwhole rfl, List.take_length]

theorem together_sendRounds {answers : List SendAnswer} (h : first.Twin second)
    (hlength : bytes.length = content.length) (hbytes : bytes ≠ [])
    (hanswers : answers ⊆ first.messages) (hsome : SendAnswer.takes 0 ∉ answers) :
    Together first second (Cell.attach bytes descriptors) (Cell.attach content descriptors)
      (sendRounds bytes descriptors answers first)
      (sendRounds content descriptors answers second) := by
  have hothers : answers ⊆ second.messages := h.messages ▸ hanswers
  induction answers with
  | nil =>
    rw [sendRounds, sendRounds, h.gone]
    cases second.gone with
    | some code => exact together_of_error rfl hanswers rfl hothers ⟨rfl, h.writes, rfl⟩
    | none =>
      exact together_of_put rfl hanswers rfl hothers hlength
        ⟨rfl, (h.put _ _ _).writes, (h.put _ _ _).gone⟩
  | cons answer answers ih =>
    have hrest : answers ⊆ first.messages := fun _ hmem => hanswers (List.mem_cons_of_mem _ hmem)
    have hrest' : answers ⊆ second.messages := h.messages ▸ hrest
    cases answer with
    | refused code =>
      rw [sendRounds, sendRounds]
      by_cases hcode : code = Errno.interrupted
      · rw [if_pos hcode, if_pos hcode]
        exact ih hrest (fun hmem => hsome (List.mem_cons_of_mem _ hmem)) hrest'
      · rw [if_neg hcode, if_neg hcode]
        exact together_of_error rfl hrest rfl hrest' ⟨rfl, h.writes, h.gone⟩
    | takes limit =>
      rw [sendRounds, sendRounds, h.gone]
      cases second.gone with
      | some code => exact together_of_error rfl hrest rfl hrest' ⟨rfl, h.writes, rfl⟩
      | none =>
        dsimp only
        have hback : (bytes.drop limit).length = (content.drop limit).length := by
          rw [List.length_drop, List.length_drop, hlength]
        have hput := h.put (bytes.take limit) (content.take limit) descriptors
        have htwin : Twin { first.put (bytes.take limit) descriptors with messages := answers }
            { second.put (content.take limit) descriptors with messages := answers } :=
          ⟨rfl, hput.writes, hput.gone⟩
        have hwhole := (together_writeAll htwin hback).behind_put rfl hrest rfl hrest' hlength
        have htaken : bytes.take limit ≠ [] := by
          rw [Ne, List.take_eq_nil_iff, not_or]
          refine ⟨?_, hbytes⟩
          rintro rfl
          exact hsome List.mem_cons_self
        have htaken' : content.take limit ≠ [] := by
          rw [Ne, ← List.length_eq_zero_iff, List.length_take, ← hlength, ← List.length_take,
            List.length_eq_zero_iff]
          exact htaken
        rwa [← Cell.attach_append htaken, ← Cell.attach_append htaken', List.take_append_drop,
          List.take_append_drop] at hwhole

/-- **Two sends with the same answers come equally far**, if no call that passes descriptors takes
them without a byte. -/
theorem together_send (h : first.Twin second) (hlength : bytes.length = content.length)
    (hsome : SendAnswer.takes 0 ∉ first.messages) (descriptors : List Descriptor) :
    Together first second (Cell.attach bytes descriptors) (Cell.attach content descriptors)
      (first.send bytes descriptors) (second.send content descriptors) := by
  rw [send, send, ← h.messages]
  cases bytes with
  | nil =>
    obtain rfl := List.length_eq_zero_iff.1 hlength.symm
    exact together_of_error rfl (List.Subset.refl _) rfl (List.Subset.refl _) h
  | cons byte bytes =>
    obtain ⟨other, others, rfl⟩ := List.exists_cons_of_length_eq_add_one hlength.symm
    by_cases hroom : maxDescriptors < descriptors.length
    · simp only [List.isEmpty_cons, Bool.false_eq_true, if_false, if_pos hroom]
      exact together_of_error rfl (List.Subset.refl _) rfl (List.Subset.refl _) h
    · simp only [List.isEmpty_cons, Bool.false_eq_true, if_false, if_neg hroom]
      exact together_sendRounds h hlength (List.cons_ne_nil _ _) (List.Subset.refl _) hsome

end Outbound

open Outbound

variable {first second outbound later : Outbound}

theorem DeviceParams.send_eq_lifted (params : DeviceParams) (device : Descriptor)
    (hsize : params.toJson.length ≤ maxParamsSize) (outbound : Outbound) :
    params.send device outbound = lifted (outbound.send
      (Words.bytes32 (UInt32.ofNat params.toJson.length) ++ params.toJson) [device]) := by
  simp only [send, toBytes_of_le hsize]
  rcases outbound.send _ [device] with ⟨error | ⟨⟩, later⟩ <;> rfl

theorem DeviceParams.together_send (h : first.Twin second)
    (hsome : SendAnswer.takes 0 ∉ first.messages) (params : DeviceParams) (device : Descriptor) :
    Together first second (params.cells device) (params.cells device) (params.send device first)
      (params.send device second) := by
  by_cases hsize : params.toJson.length ≤ maxParamsSize
  · rw [send_eq_lifted params device hsize, send_eq_lifted params device hsize]
    exact (Outbound.together_send h rfl hsome [device]).lifted
  · simp only [send, toBytes, if_pos (Nat.not_le.1 hsize)]
    exact together_of_error rfl (List.Subset.refl _) rfl (List.Subset.refl _) h

namespace FrameMessage

/-- Messages that differ in nothing but their time. -/
structure Alike (message other : Int64 × Option Frame) : Prop where
  frame : message.2 = other.2
  negative : message.1 < 0 ↔ other.1 < 0

theorem length_timeBytes (pts : Int64) : (timeBytes pts).length = 8 := Words.length_bytes64 _

variable {message other : Int64 × Option Frame}

theorem Alike.length_cells (h : Alike message other) :
    (cells message.1 message.2).length = (cells other.1 other.2).length := by
  obtain ⟨pts, frame⟩ := message
  obtain ⟨time, frame'⟩ := other
  obtain ⟨rfl, hnegative⟩ := h
  by_cases hpts : pts < 0
  · rw [cells_of_neg hpts, cells_of_neg (hnegative.1 hpts), length_plain_timeBytes,
      length_plain_timeBytes]
  have htime : ¬ time < 0 := fun htime => hpts (hnegative.2 htime)
  cases frame with
  | none => rw [cells_none hpts, cells_none htime]
  | some frame =>
    rw [cells_some hpts, cells_some htime, List.length_append, List.length_append,
      length_plain_timeBytes, length_plain_timeBytes]

section equations

variable {pts : Int64} {frame : Frame} {record : FrameRecord} {failure : Failure} {error : IoError}

theorem send_of_neg (hpts : pts < 0) (frame : Option Frame) (outbound : Outbound) :
    send pts frame outbound = lifted (outbound.writeAll (timeBytes pts)) := by
  simp only [send, if_pos hpts]
  rcases outbound.writeAll (timeBytes pts) with ⟨error | ⟨⟩, later⟩ <;> rfl

theorem send_none (hpts : ¬ pts < 0) (outbound : Outbound) :
    send pts none outbound = lifted (outbound.writeAll (timeBytes noFrame)) := by
  simp only [send, if_neg hpts]
  rcases outbound.writeAll (timeBytes noFrame) with ⟨error | ⟨⟩, later⟩ <;> rfl

/-- The record is made before anything is sent. -/
theorem send_of_ofFrame_error (hpts : ¬ pts < 0)
    (hrecord : FrameRecord.ofFrame frame = .error failure) (outbound : Outbound) :
    send pts (some frame) outbound = (.error failure, outbound) := by
  simp only [send, if_neg hpts, hrecord]

theorem send_of_writeAll_error (hpts : ¬ pts < 0) (hrecord : FrameRecord.ofFrame frame = .ok record)
    (hwrite : outbound.writeAll (timeBytes pts) = (.error error, later)) :
    send pts (some frame) outbound = lifted (.error error, later) := by
  simp only [send, if_neg hpts, hrecord, hwrite]
  rfl

theorem send_of_writeAll_ok (hpts : ¬ pts < 0) (hrecord : FrameRecord.ofFrame frame = .ok record)
    (hwrite : outbound.writeAll (timeBytes pts) = (.ok (), later)) :
    send pts (some frame) outbound = lifted (later.send record.toBytes frame.objects) := by
  simp only [send, if_neg hpts, hrecord, hwrite]
  rcases later.send record.toBytes frame.objects with ⟨error | ⟨⟩, last⟩ <;> rfl

end equations

/-- **Two messages that differ in nothing but their time come equally far.** -/
theorem together_send (h : first.Twin second) (hsome : SendAnswer.takes 0 ∉ first.messages)
    (hmessage : Alike message other) :
    Together first second (cells message.1 message.2) (cells other.1 other.2)
      (send message.1 message.2 first) (send other.1 other.2 second) := by
  obtain ⟨pts, frame⟩ := message
  obtain ⟨time, frame'⟩ := other
  obtain ⟨rfl, hnegative⟩ := hmessage
  dsimp only at hnegative ⊢
  have hword (pts time : Int64) := together_writeAll h
    ((length_timeBytes pts).trans (length_timeBytes time).symm)
  by_cases hpts : pts < 0
  · rw [send_of_neg hpts, send_of_neg (hnegative.1 hpts), cells_of_neg hpts,
      cells_of_neg (hnegative.1 hpts)]
    exact (hword pts time).lifted
  have htime : ¬ time < 0 := fun htime => hpts (hnegative.2 htime)
  cases frame with
  | none =>
    rw [send_none hpts, send_none htime, cells_none hpts, cells_none htime]
    exact (hword noFrame noFrame).lifted
  | some frame =>
    rw [cells_some hpts, cells_some htime]
    cases hrecord : FrameRecord.ofFrame frame with
    | error failure =>
      rw [send_of_ofFrame_error hpts hrecord, send_of_ofFrame_error htime hrecord]
      exact together_of_error rfl (List.Subset.refl _) rfl (List.Subset.refl _) h
    | ok record =>
      obtain ⟨-, -, -, -, rfl⟩ := FrameRecord.ofFrame_eq_ok_iff.1 hrecord
      have hwrite := hword pts time
      rcases hwrite.cases with
        ⟨error, middle, later, hfirst, hsecond⟩ | ⟨middle, later, hfirst, hsecond⟩
      · rw [send_of_writeAll_error hpts hrecord hfirst,
          send_of_writeAll_error htime hrecord hsecond]
        rw [hfirst, hsecond] at hwrite
        exact hwrite.lifted.inside _ _
      · rw [send_of_writeAll_ok hpts hrecord hfirst, send_of_writeAll_ok htime hrecord hsecond]
        rw [hfirst, hsecond] at hwrite
        have hlength :
            (Cell.plain (timeBytes pts)).length = (Cell.plain (timeBytes time)).length := by
          rw [length_plain_timeBytes, length_plain_timeBytes]
        obtain ⟨hfront, hfront'⟩ := hwrite.whole hlength
        have hrest : Together middle later (Cell.attach (FrameRecord.describing frame.format
            frame.planes frame.objects.length).toBytes frame.objects) _ _ _ :=
          Outbound.together_send hwrite.twin rfl (fun hmem => hsome (hfront.messages hmem)) _
        exact .behind hfront hfront' hlength hrest.lifted

end FrameMessage

/-! ## Frames that are turned down -/

/-- A call of the system failed. -/
def Failure.OfSystem (failure : Failure) : Prop := ∃ code, failure = .io (.os code)

namespace Outbound

variable {bytes : List UInt8} {descriptors : List Descriptor} {error : IoError}

theorem exists_os_of_writeRounds {answers : List SendAnswer}
    (h : writeRounds bytes answers outbound = (.error error, later)) :
    ∃ code, error = .os code := by
  induction answers generalizing outbound bytes with
  | nil =>
    rw [writeRounds] at h
    split at h
    · exact ⟨_, (Except.error.inj (Prod.mk.inj h).1).symm⟩
    · cases (Prod.mk.inj h).1
  | cons answer answers ih =>
    cases answer with
    | refused code =>
      rw [writeRounds] at h
      split at h
      · exact ih h
      · exact ⟨code, (Except.error.inj (Prod.mk.inj h).1).symm⟩
    | takes limit =>
      rw [writeRounds] at h
      split at h
      · exact ⟨_, (Except.error.inj (Prod.mk.inj h).1).symm⟩
      · split at h
        · cases (Prod.mk.inj h).1
        · exact ih h

theorem exists_os_of_writeAll (h : outbound.writeAll bytes = (.error error, later)) :
    ∃ code, error = .os code := by
  rw [writeAll] at h
  split at h
  · cases (Prod.mk.inj h).1
  · exact exists_os_of_writeRounds h

theorem exists_os_of_sendRounds {answers : List SendAnswer}
    (h : sendRounds bytes descriptors answers outbound = (.error error, later)) :
    ∃ code, error = .os code := by
  induction answers with
  | nil =>
    rw [sendRounds] at h
    split at h
    · exact ⟨_, (Except.error.inj (Prod.mk.inj h).1).symm⟩
    · cases (Prod.mk.inj h).1
  | cons answer answers ih =>
    cases answer with
    | refused code =>
      rw [sendRounds] at h
      split at h
      · exact ih h
      · exact ⟨code, (Except.error.inj (Prod.mk.inj h).1).symm⟩
    | takes limit =>
      rw [sendRounds] at h
      split at h
      · exact ⟨_, (Except.error.inj (Prod.mk.inj h).1).symm⟩
      · exact exists_os_of_writeAll h

/-- A send of some bytes fails for its descriptors alone, before the first byte, or the system fails
it. -/
theorem send_error_cases (hbytes : bytes ≠ [])
    (h : outbound.send bytes descriptors = (.error error, later)) :
    (maxDescriptors < descriptors.length ∧ error = tooMany descriptors.length ∧ later = outbound) ∨
      ∃ code, error = .os code := by
  rw [send, if_neg (by rwa [List.isEmpty_iff])] at h
  split at h
  · rename_i hroom
    obtain ⟨herror, hlater⟩ := Prod.mk.inj h
    exact Or.inl ⟨hroom, (Except.error.inj herror).symm, hlater.symm⟩
  · exact Or.inr (exists_os_of_sendRounds h)

end Outbound

namespace FrameMessage

variable {pts : Int64} {frame : Option Frame} {failure : Failure}

theorem ofSystem_of_lifted {done : Except IoError Unit × Outbound}
    (h : lifted done = (.error failure, later))
    (hdone : ∀ error, done.1 = .error error → ∃ code, error = .os code) : failure.OfSystem := by
  obtain ⟨error | ⟨⟩, last⟩ := done
  · obtain ⟨code, rfl⟩ := hdone error rfl
    exact ⟨code, (Except.error.inj (Prod.mk.inj h).1).symm⟩
  · cases (Prod.mk.inj h).1

/-- A frame that has a record is turned down by the system, or for its memory objects alone, and
then behind its time. -/
theorem send_error_cases {picture : Frame} {record : FrameRecord} (hpts : ¬ pts < 0)
    (hrecord : FrameRecord.ofFrame picture = .ok record)
    (hsend : send pts (some picture) outbound = (.error failure, later)) :
    failure.OfSystem ∨ (maxDescriptors < picture.objects.length ∧
      failure = .io (Outbound.tooMany picture.objects.length) ∧
      later.cells = outbound.cells ++ Cell.plain (timeBytes pts)) := by
  rcases hwrite : outbound.writeAll (timeBytes pts) with ⟨error | ⟨⟩, middle⟩
  · rw [send_of_writeAll_error hpts hrecord hwrite] at hsend
    refine Or.inl (ofSystem_of_lifted hsend fun reason hreason => ?_)
    obtain rfl := Except.error.inj hreason
    exact Outbound.exists_os_of_writeAll hwrite
  · rw [send_of_writeAll_ok hpts hrecord hwrite] at hsend
    have hbytes : record.toBytes ≠ [] := by
      rw [← List.length_pos_iff, FrameRecord.length_toBytes]
      decide
    rcases hattach : middle.send record.toBytes picture.objects with ⟨error | ⟨⟩, last⟩
    · rw [hattach] at hsend
      obtain ⟨hfailure, rfl⟩ := Prod.mk.inj hsend
      obtain rfl := Except.error.inj hfailure
      rcases Outbound.send_error_cases hbytes hattach with ⟨hmany, rfl, rfl⟩ | hcode
      · exact Or.inr ⟨hmany, rfl, Outbound.cells_writeAll hwrite⟩
      · exact Or.inl (hcode.imp fun code => congrArg Failure.io)
    · rw [hattach] at hsend
      cases (Prod.mk.inj hsend).1

/-- **What a frame that is turned down leaves on the stream.** It is nothing if the frame has no
record. A frame that has one, but more memory objects than a message may carry, is turned down only
behind its time. -/
theorem cells_of_turnedDown (hsend : send pts frame outbound = (.error failure, later))
    (hcause : ¬ failure.OfSystem) :
    ∃ picture, frame = some picture ∧ 0 ≤ pts ∧ ¬ picture.Sendable ∧
      ((FrameRecord.ofFrame picture = .error failure ∧ later.cells = outbound.cells) ∨
        (FrameRecord.ofFrame picture =
            .ok (.describing picture.format picture.planes picture.objects.length) ∧
          maxDescriptors < picture.objects.length ∧
          failure = .io (Outbound.tooMany picture.objects.length) ∧
          later.cells = outbound.cells ++ Cell.plain (timeBytes pts))) := by
  have hwrites (bytes : List UInt8) : ∀ error, (outbound.writeAll bytes).1 = .error error →
      ∃ code, error = .os code := fun error herror =>
    Outbound.exists_os_of_writeAll (Prod.ext herror rfl)
  by_cases hpts : pts < 0
  · rw [send_of_neg hpts] at hsend
    exact absurd (ofSystem_of_lifted hsend (hwrites _)) hcause
  cases frame with
  | none =>
    rw [send_none hpts] at hsend
    exact absurd (ofSystem_of_lifted hsend (hwrites _)) hcause
  | some picture =>
    refine ⟨picture, rfl, Int64.not_lt.1 hpts, ?_⟩
    cases hrecord : FrameRecord.ofFrame picture with
    | error reason =>
      rw [send_of_ofFrame_error hpts hrecord] at hsend
      obtain ⟨hreason, rfl⟩ := Prod.mk.inj hsend
      obtain rfl := Except.error.inj hreason
      refine ⟨fun hsendable => ?_, Or.inl ⟨rfl, rfl⟩⟩
      rw [hsendable.ofFrame_eq] at hrecord
      cases hrecord
    | ok record =>
      rcases send_error_cases hpts hrecord hsend with hsystem | ⟨hmany, rfl, hcells⟩
      · exact absurd hsystem hcause
      obtain ⟨-, -, -, -, rfl⟩ := FrameRecord.ofFrame_eq_ok_iff.1 hrecord
      refine ⟨fun hsendable => ?_, Or.inr ⟨rfl, hmany, rfl, hcells⟩⟩
      exact Nat.not_le.2 hmany hsendable.objects_le

/-- A picture whose only plane lies in an object that it does not have. -/
def outside : Frame := ⟨⟨64, 32, ⟨842094158⟩, 0⟩, .shared [⟨3, 64, 0, 0⟩] [⟨⟨#[9]⟩⟩], 0⟩

theorem cells_of_turnedDown_outside : ∃ failure later,
    send 5 (some outside) { sent := [⟨timeBytes noFrame, []⟩] } = (.error failure, later) ∧
      FrameRecord.ofFrame outside = .error failure ∧
      later.cells = Cell.plain (timeBytes noFrame) := by
  have hsend : send 5 (some outside) { sent := [⟨timeBytes noFrame, []⟩] } =
      (.error (.protocol "plane references object 3 of 1"),
        { sent := [⟨timeBytes noFrame, []⟩] }) := rfl
  obtain ⟨picture, hpicture, -, -, hcells⟩ := cells_of_turnedDown hsend (by
    rintro ⟨code, hcode⟩
    cases hcode)
  obtain rfl := Option.some.inj hpicture
  rcases hcells with ⟨hrecord, hcells⟩ | ⟨hrecord, -⟩
  · exact ⟨_, _, hsend, hrecord, hcells⟩
  · exact absurd hrecord nofun

/-- A picture with nine memory objects. -/
def crowded : Frame :=
  ⟨⟨64, 32, ⟨842094158⟩, 0⟩, .shared [⟨0, 64, 0, 0⟩] (List.replicate 9 ⟨⟨#[9]⟩⟩), 0⟩

/-- This picture is turned down, but its time is on the stream, and the receiver takes the next
message for the picture's record. -/
theorem cells_crowded :
    (send 5 (some crowded) {}).1 = .error (.io (Outbound.tooMany 9)) ∧
      ¬ (Failure.io (Outbound.tooMany 9)).OfSystem ∧
      (send 5 (some crowded) {}).2.cells = Cell.plain (timeBytes 5) ∧
      (receive (send noFrame none (send 5 (some crowded) {}).2).2.toInbound).1 =
        .error (.protocol "connection closed unexpectedly") := by
  refine ⟨by decide +kernel, ?_, by decide +kernel, by decide +kernel⟩
  rintro ⟨code, hcode⟩
  cases hcode

end FrameMessage

/-! ## A receiver that is gone -/

namespace Outbound

variable {outbound : Outbound} {code : Errno}

theorem error_ne_ok {ε : Type} (error : ε) : (.error error : Except ε Unit) ≠ .ok () := by
  intro h
  cases h

theorem writeRounds_ne_ok (hgone : outbound.gone = some code) (bytes : List UInt8)
    (answers : List SendAnswer) : (writeRounds bytes answers outbound).1 ≠ .ok () := by
  induction answers with
  | nil =>
    rw [writeRounds, hgone]
    exact error_ne_ok _
  | cons answer answers ih =>
    cases answer with
    | refused refusal =>
      rw [writeRounds]
      split
      · exact ih
      · exact error_ne_ok _
    | takes limit =>
      rw [writeRounds, hgone]
      exact error_ne_ok _

theorem writeAll_ne_ok (hgone : outbound.gone = some code) {bytes : List UInt8}
    (hbytes : bytes ≠ []) : (outbound.writeAll bytes).1 ≠ .ok () := by
  rw [writeAll, if_neg (by rwa [List.isEmpty_iff])]
  exact writeRounds_ne_ok hgone bytes outbound.writes

theorem sendRounds_ne_ok (hgone : outbound.gone = some code) (bytes : List UInt8)
    (descriptors : List Descriptor) (answers : List SendAnswer) :
    (sendRounds bytes descriptors answers outbound).1 ≠ .ok () := by
  induction answers with
  | nil =>
    rw [sendRounds, hgone]
    exact error_ne_ok _
  | cons answer answers ih =>
    cases answer with
    | refused refusal =>
      rw [sendRounds]
      split
      · exact ih
      · exact error_ne_ok _
    | takes limit =>
      rw [sendRounds, hgone]
      exact error_ne_ok _

theorem send_ne_ok (hgone : outbound.gone = some code) (bytes : List UInt8)
    (descriptors : List Descriptor) : (outbound.send bytes descriptors).1 ≠ .ok () := by
  rw [send]
  split
  · exact error_ne_ok _
  · split
    · exact error_ne_ok _
    · exact sendRounds_ne_ok hgone bytes descriptors outbound.messages

theorem lifted_ne_ok {done : Except IoError Unit × Outbound} (h : done.1 ≠ .ok ()) :
    (lifted done).1 ≠ .ok () := by
  obtain ⟨_ | ⟨⟩, last⟩ := done
  · exact error_ne_ok _
  · exact absurd rfl h

end Outbound

/-- Once the receiver is gone, no message is sent. -/
theorem FrameMessage.send_ne_ok {outbound : Outbound} {code : Errno}
    (hgone : outbound.gone = some code) (pts : Int64) (frame : Option Frame) :
    (send pts frame outbound).1 ≠ .ok () := by
  have hword (pts : Int64) : (outbound.writeAll (timeBytes pts)).1 ≠ .ok () :=
    writeAll_ne_ok hgone (by rw [← List.length_pos_iff, length_timeBytes]; decide)
  by_cases hpts : pts < 0
  · rw [send_of_neg hpts]
    exact lifted_ne_ok (hword pts)
  cases frame with
  | none =>
    rw [send_none hpts]
    exact lifted_ne_ok (hword noFrame)
  | some frame =>
    cases hrecord : FrameRecord.ofFrame frame with
    | error failure =>
      rw [send_of_ofFrame_error hpts hrecord]
      exact error_ne_ok _
    | ok record =>
      rcases hwrite : outbound.writeAll (timeBytes pts) with ⟨_ | ⟨⟩, later⟩
      · rw [send_of_writeAll_error hpts hrecord hwrite]
        exact error_ne_ok _
      · exact absurd (congrArg Prod.fst hwrite) (hword pts)

theorem DeviceParams.send_ne_ok {outbound : Outbound} {code : Errno}
    (hgone : outbound.gone = some code) (params : DeviceParams) (device : Descriptor) :
    (params.send device outbound).1 ≠ .ok () := by
  by_cases hsize : params.toJson.length ≤ maxParamsSize
  · rw [send_eq_lifted params device hsize]
    exact lifted_ne_ok (Outbound.send_ne_ok hgone _ [device])
  · simp only [send, toBytes, if_pos (Nat.not_le.1 hsize)]
    exact error_ne_ok _

end InstantReplay
