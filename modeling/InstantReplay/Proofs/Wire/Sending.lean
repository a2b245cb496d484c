import InstantReplay.Proofs.Wire.Receiving

/-!
# What is sent over a stream

A send that succeeds adds its bytes to the stream, with its descriptors attached to the first of
them, into however many calls the system cuts it (`Outbound.adds_writeAll`, `Outbound.adds_send`).
Over a socket that works, every send succeeds (`Outbound.Working.exists_writeAll`,
`Outbound.Working.exists_send`).
-/

namespace InstantReplay

namespace Outbound

/-- The cells that were sent. -/
def cells (outbound : Outbound) : List Cell := outbound.sent.flatMap Segment.cells

/-- The receiver can make sense of what was sent, and no coming call that passes descriptors takes
them without a byte. -/
structure Steady (outbound : Outbound) : Prop where
  ne_nil : ∀ segment ∈ outbound.sent, segment.bytes ≠ []
  room : ∀ segment ∈ outbound.sent, segment.descriptors.length ≤ maxDescriptors
  messages : SendAnswer.takes 0 ∉ outbound.messages

/-- Sends add `added` to a stream. -/
structure Adds (outbound : Outbound) (added : List Cell) (later : Outbound) : Prop where
  cells_eq : later.cells = outbound.cells ++ added
  steady : later.Steady

variable {outbound later last : Outbound} {bytes : List UInt8} {descriptors : List Descriptor}

theorem Adds.refl (h : outbound.Steady) : outbound.Adds [] outbound :=
  ⟨(List.append_nil _).symm, h⟩

theorem Adds.trans {front back : List Cell} (h : outbound.Adds front later)
    (hlast : later.Adds back last) : outbound.Adds (front ++ back) last where
  cells_eq := by rw [hlast.cells_eq, h.cells_eq, List.append_assoc]
  steady := hlast.steady

theorem adds_put (h : outbound.Steady) (bytes : List UInt8)
    (hroom : descriptors.length ≤ maxDescriptors) :
    outbound.Adds (Cell.attach bytes descriptors) (outbound.put bytes descriptors) := by
  cases bytes with
  | nil => exact Adds.refl h
  | cons byte bytes =>
    refine ⟨?_, ⟨fun segment hsegment => ?_, fun segment hsegment => ?_, h.messages⟩⟩
    · show (outbound.sent ++ [_]).flatMap Segment.cells = _
      rw [List.flatMap_append, List.flatMap_singleton]
      rfl
    · rcases List.mem_append.1 hsegment with hold | hnew
      · exact h.ne_nil segment hold
      · rw [List.mem_singleton.1 hnew]
        exact List.cons_ne_nil byte bytes
    · rcases List.mem_append.1 hsegment with hold | hnew
      · exact h.room segment hold
      · rw [List.mem_singleton.1 hnew]
        exact hroom

theorem adds_put_plain (h : outbound.Steady) (bytes : List UInt8) :
    outbound.Adds (Cell.plain bytes) (outbound.put bytes []) := by
  rw [← Cell.attach_nil]
  exact adds_put h bytes (Nat.zero_le _)

@[simp] theorem gone_put (bytes : List UInt8) (descriptors : List Descriptor) :
    (outbound.put bytes descriptors).gone = outbound.gone := by
  rw [put]
  split <;> rfl

@[simp] theorem messages_put (bytes : List UInt8) (descriptors : List Descriptor) :
    (outbound.put bytes descriptors).messages = outbound.messages := by
  rw [put]
  split <;> rfl

@[simp] theorem writes_put (bytes : List UInt8) (descriptors : List Descriptor) :
    (outbound.put bytes descriptors).writes = outbound.writes := by
  rw [put]
  split <;> rfl

/-! ## Sends that succeed -/

theorem adds_writeRounds {answers : List SendAnswer} (h : outbound.Steady)
    (hsent : writeRounds bytes answers outbound = (.ok (), later)) :
    outbound.Adds (Cell.plain bytes) later := by
  induction answers generalizing outbound bytes with
  | nil =>
    rw [writeRounds] at hsent
    split at hsent
    · simp only [Prod.mk.injEq, reduceCtorEq, false_and] at hsent
    · obtain rfl := (Prod.mk.inj hsent).2
      obtain ⟨hcells, hne, hroom, hmessages⟩ := adds_put_plain h bytes
      exact ⟨hcells, hne, hroom, hmessages⟩
  | cons answer answers ih =>
    cases answer with
    | refused code =>
      rw [writeRounds] at hsent
      split at hsent
      · exact ih h hsent
      · simp only [Prod.mk.injEq, reduceCtorEq, false_and] at hsent
    | takes limit =>
      rw [writeRounds] at hsent
      split at hsent
      · simp only [Prod.mk.injEq, reduceCtorEq, false_and] at hsent
      · split at hsent
        · obtain rfl := (Prod.mk.inj hsent).2
          obtain ⟨hcells, hne, hroom, hmessages⟩ := adds_put_plain h bytes
          exact ⟨hcells, hne, hroom, hmessages⟩
        · -- What is left is sent after the part that was taken.
          have hfront := adds_put_plain h (bytes.take limit)
          rw [← List.take_append_drop limit bytes, Cell.plain_append]
          exact hfront.trans (ih hfront.steady hsent)

/-- **A write that succeeds adds its bytes.** -/
theorem adds_writeAll (h : outbound.Steady) (hsent : outbound.writeAll bytes = (.ok (), later)) :
    outbound.Adds (Cell.plain bytes) later := by
  rw [writeAll] at hsent
  split at hsent
  · rename_i hempty
    obtain rfl := (Prod.mk.inj hsent).2
    rw [List.isEmpty_iff.1 hempty]
    exact Adds.refl h
  · exact adds_writeRounds h hsent

theorem adds_sendRounds {answers : List SendAnswer} (h : outbound.Steady) (hbytes : bytes ≠ [])
    (hroom : descriptors.length ≤ maxDescriptors) (hanswers : SendAnswer.takes 0 ∉ answers)
    (hsent : sendRounds bytes descriptors answers outbound = (.ok (), later)) :
    outbound.Adds (Cell.attach bytes descriptors) later := by
  induction answers with
  | nil =>
    rw [sendRounds] at hsent
    split at hsent
    · simp only [Prod.mk.injEq, reduceCtorEq, false_and] at hsent
    · obtain rfl := (Prod.mk.inj hsent).2
      have hput := adds_put h bytes hroom
      exact ⟨hput.cells_eq, ⟨hput.steady.ne_nil, hput.steady.room, List.not_mem_nil⟩⟩
  | cons answer answers ih =>
    have hrest : SendAnswer.takes 0 ∉ answers := fun hmem =>
      hanswers (List.mem_cons_of_mem _ hmem)
    cases answer with
    | refused code =>
      rw [sendRounds] at hsent
      split at hsent
      · exact ih hrest hsent
      · simp only [Prod.mk.injEq, reduceCtorEq, false_and] at hsent
    | takes limit =>
      rw [sendRounds] at hsent
      split at hsent
      · simp only [Prod.mk.injEq, reduceCtorEq, false_and] at hsent
      · have hfront : bytes.take limit ≠ [] := by
          rw [Ne, List.take_eq_nil_iff, not_or]
          refine ⟨?_, hbytes⟩
          rintro rfl
          exact hanswers List.mem_cons_self
        have hput := adds_put h (bytes.take limit) hroom
        have hsteady : Steady { outbound.put (bytes.take limit) descriptors with
            messages := answers } := ⟨hput.steady.ne_nil, hput.steady.room, hrest⟩
        have hplain := adds_writeAll hsteady hsent
        rw [← List.take_append_drop limit bytes, Cell.attach_append hfront]
        exact hput.trans ⟨hplain.cells_eq, hplain.steady⟩

/-- **A send that succeeds adds its bytes with the descriptors attached to the first.** -/
theorem adds_send (h : outbound.Steady)
    (hsent : outbound.send bytes descriptors = (.ok (), later)) :
    outbound.Adds (Cell.attach bytes descriptors) later := by
  rw [send] at hsent
  split at hsent
  · simp only [Prod.mk.injEq, reduceCtorEq, false_and] at hsent
  · rename_i hbytes
    split at hsent
    · simp only [Prod.mk.injEq, reduceCtorEq, false_and] at hsent
    · rename_i hroom
      exact adds_sendRounds h (by rwa [List.isEmpty_iff] at hbytes) (Nat.not_lt.1 hroom) h.messages
        hsent

theorem length_le_of_send (hsent : outbound.send bytes descriptors = (.ok (), later)) :
    descriptors.length ≤ maxDescriptors := by
  rw [send] at hsent
  split at hsent
  · simp at hsent
  · split at hsent
    · simp at hsent
    · rename_i hroom
      exact Nat.not_lt.1 hroom

/-! ## Sockets that work -/

end Outbound

/-- A call may be interrupted, but it does not fail. -/
def SendAnswer.Goes (answer : SendAnswer) : Prop :=
  ∀ code, answer = .refused code → code = Errno.interrupted

namespace Outbound

/-- The receiver is there, and no coming call fails. -/
structure Working (outbound : Outbound) : Prop extends outbound.Steady where
  gone : outbound.gone = none
  messages_go : ∀ answer ∈ outbound.messages, answer.Goes
  writes_go : ∀ answer ∈ outbound.writes, answer.Goes

variable {outbound later : Outbound} {bytes : List UInt8} {descriptors : List Descriptor}

theorem exists_writeRounds {answers : List SendAnswer} (hgone : outbound.gone = none)
    (hanswers : ∀ answer ∈ answers, answer.Goes) :
    ∃ later, writeRounds bytes answers outbound = (.ok (), later) ∧ later.gone = none ∧
      later.messages = outbound.messages ∧ ∀ answer ∈ later.writes, answer.Goes := by
  induction answers generalizing outbound bytes with
  | nil =>
    refine ⟨{ outbound.put bytes [] with writes := [] }, ?_, (gone_put _ _).trans hgone,
      messages_put _ _, by simp⟩
    simp only [writeRounds, hgone]
  | cons answer answers ih =>
    obtain ⟨hgoes, hrest⟩ := List.forall_mem_cons.1 hanswers
    cases answer with
    | refused code =>
      rw [writeRounds, if_pos (hgoes code rfl)]
      exact ih hgone hrest
    | takes limit =>
      simp only [writeRounds, hgone]
      by_cases hfits : bytes.length ≤ limit
      · rw [if_pos hfits]
        exact ⟨_, rfl, (gone_put _ _).trans hgone, messages_put _ _, hrest⟩
      · rw [if_neg hfits, ← messages_put (bytes.take limit) []]
        exact ih ((gone_put _ _).trans hgone) hrest

/-- Over a socket that works, a write succeeds. -/
theorem Working.exists_writeAll (h : outbound.Working) (bytes : List UInt8) :
    ∃ later, outbound.writeAll bytes = (.ok (), later) ∧ later.Working := by
  rw [writeAll]
  split
  · exact ⟨outbound, rfl, h⟩
  · obtain ⟨later, hsent, hgone, hmessages, hwrites⟩ := exists_writeRounds h.gone h.writes_go
    refine ⟨later, hsent, (adds_writeRounds h.toSteady hsent).steady, hgone, ?_, hwrites⟩
    rw [hmessages]
    exact h.messages_go

theorem exists_sendRounds {answers : List SendAnswer} (h : outbound.Working)
    (hroom : descriptors.length ≤ maxDescriptors) (hanswers : ∀ answer ∈ answers, answer.Goes)
    (hsome : SendAnswer.takes 0 ∉ answers) :
    ∃ later, sendRounds bytes descriptors answers outbound = (.ok (), later) ∧ later.Working := by
  have hput (content : List UInt8) (messages : List SendAnswer)
      (hgoes : ∀ answer ∈ messages, answer.Goes) (hmessages : SendAnswer.takes 0 ∉ messages) :
      Working { outbound.put content descriptors with messages := messages } := by
    obtain ⟨-, hne, hfits, -⟩ := adds_put h.toSteady content hroom
    refine ⟨⟨hne, hfits, hmessages⟩, (gone_put _ _).trans h.gone, hgoes, ?_⟩
    show ∀ answer ∈ (outbound.put content descriptors).writes, answer.Goes
    rw [writes_put]
    exact h.writes_go
  induction answers with
  | nil =>
    refine ⟨_, by simp only [sendRounds, h.gone], hput bytes [] (by simp) List.not_mem_nil⟩
  | cons answer answers ih =>
    obtain ⟨hgoes, hrest⟩ := List.forall_mem_cons.1 hanswers
    have hlater : SendAnswer.takes 0 ∉ answers := fun hmem =>
      hsome (List.mem_cons_of_mem _ hmem)
    cases answer with
    | refused code =>
      rw [sendRounds, if_pos (hgoes code rfl)]
      exact ih hrest hlater
    | takes limit =>
      simp only [sendRounds, h.gone]
      exact (hput (bytes.take limit) answers hrest hlater).exists_writeAll (bytes.drop limit)

/-- Over a socket that works, a send succeeds. -/
theorem Working.exists_send (h : outbound.Working) (hbytes : bytes ≠ [])
    (hroom : descriptors.length ≤ maxDescriptors) :
    ∃ later, outbound.send bytes descriptors = (.ok (), later) ∧ later.Working := by
  rw [send, if_neg (by rwa [List.isEmpty_iff]), if_neg (Nat.not_lt.2 hroom)]
  exact exists_sendRounds h hroom h.messages_go h.messages

end Outbound

end InstantReplay
