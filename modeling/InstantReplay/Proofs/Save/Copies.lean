import InstantReplay.Proofs.Save.Phases

/-!
# Streams beside earlier copies of them

A copy of a stream remembers the number that the next packet would have got
(`FollowedStream.next`). Everything that is committed after the copy has this number or a later
one, and whatever the stream still holds from before is in the copy (`FollowedStream.Follows`).
Releasing the copy therefore drops exactly what is left of it (`FollowedStream.held_releasing`),
and from then on the stream holds nothing from before (`FollowedStream.Beyond`).
-/

namespace InstantReplay

namespace FollowedStream

/-- The numbered packets that a stream holds. -/
def held (stream : FollowedStream) : List NumberedPacket := stream.history.ring.entries

/-- The number of the next packet of a stream. -/
def next (stream : FollowedStream) : Nat := stream.history.ring.nextSeq

variable {before after copy stream : FollowedStream}

theorem packets_snapshot (stream : FollowedStream) :
    stream.history.snapshot.packets = stream.held.map (·.packet) :=
  rfl

/-! ## What a stream holds, beside an earlier copy of it -/

/-- A stream that goes on from `before`: what it holds was held before or came later. -/
structure Evolves (before after : FollowedStream) : Prop where
  next_le : before.next ≤ after.next
  held_or : ∀ entry ∈ after.held, entry ∈ before.held ∨ before.next ≤ entry.seq

/-- What a stream holds from before a copy of it is in the copy. -/
structure Follows (stream copy : FollowedStream) : Prop where
  next_le : copy.next ≤ stream.next
  mem_copy : ∀ entry ∈ stream.held, entry.seq < copy.next → entry ∈ copy.held

/-- A stream holds nothing from before a copy of it. -/
structure Beyond (stream copy : FollowedStream) : Prop where
  next_le : copy.next ≤ stream.next
  le_seq : ∀ entry ∈ stream.held, copy.next ≤ entry.seq

theorem Evolves.refl (stream : FollowedStream) : stream.Evolves stream :=
  ⟨Nat.le_refl _, fun _ hentry => Or.inl hentry⟩

theorem follows_self (stream : FollowedStream) : stream.Follows stream :=
  ⟨Nat.le_refl _, fun _ hentry _ => hentry⟩

theorem Follows.evolves (h : before.Follows copy) (hevolves : before.Evolves after) :
    after.Follows copy where
  next_le := h.next_le.trans hevolves.next_le
  mem_copy entry hentry hseq := by
    rcases hevolves.held_or entry hentry with hold | hlater
    · exact h.mem_copy entry hold hseq
    · have := h.next_le
      omega

theorem Beyond.evolves (h : before.Beyond copy) (hevolves : before.Evolves after) :
    after.Beyond copy where
  next_le := h.next_le.trans hevolves.next_le
  le_seq entry hentry := by
    rcases hevolves.held_or entry hentry with hold | hlater
    · exact h.le_seq entry hold
    · exact h.next_le.trans hlater

/-- What a stream holds before it drops a copy is in the copy or came after it. -/
theorem Follows.not_mem_iff (h : stream.Follows copy) (hcopy : copy.history.Sound)
    {entry : NumberedPacket} (hentry : entry ∈ stream.held) :
    entry ∉ copy.held ↔ copy.next ≤ entry.seq := by
  constructor
  · intro hmem
    by_contra hlt
    exact hmem (h.mem_copy entry hentry (Nat.lt_of_not_le hlt))
  · intro hle hmem
    exact absurd (hcopy.consecutive.seq_lt hmem) (Nat.not_lt.2 hle)

/-! ## The two ways a history changes in a run -/

/-- A stream goes on when its history is fed. -/
theorem evolves_of_feeds {new dropped : List NumberedPacket}
    (h : before.history.Feeds after.history new dropped) : before.Evolves after where
  next_le := by
    have hnext : after.next = before.next + new.length := h.nextSeq_eq
    omega
  held_or entry hentry := by
    have hmem : entry ∈ before.held ++ new := by
      rw [held, h.entries_eq]
      exact List.mem_append_right dropped hentry
    refine (List.mem_append.1 hmem).imp_right fun hnew => ?_
    have hseq : entry.seq ∈ List.range' before.next new.length := by
      rw [next, ← h.numbered]
      exact List.mem_map_of_mem hnew
    exact (List.mem_range'_1.1 hseq).1

/-- **Releasing a copy leaves what came after it**, and counts nothing as evicted. -/
theorem held_releasing (hstream : stream.history.Sound) (hcopy : copy.history.Sound)
    (hfollows : stream.Follows copy) :
    let released := stream.change (·.releasing copy.history.snapshot)
    released.held = stream.held.filter (copy.next ≤ ·.seq) ∧ released.next = stream.next ∧
      released.history.evicted = stream.history.evicted := by
  intro released
  rcases hlast : copy.held.getLast? with _ | newest
  · have hsame : released = stream := by
      have hnone : copy.history.snapshot.lastSeq = none := by
        show copy.held.getLast?.map (·.seq) = none
        rw [hlast, Option.map_none]
      simp only [released, change, History.releasing, hnone]
    have hnil : copy.held = [] := List.getLast?_eq_none_iff.1 hlast
    refine ⟨?_, by rw [hsame], by rw [hsame]⟩
    rw [hsame, eq_comm, List.filter_eq_self]
    intro entry hentry
    rw [decide_eq_true_eq]
    by_contra hlt
    have := hfollows.mem_copy entry hentry (Nat.lt_of_not_le hlt)
    rw [hnil] at this
    cases this
  · have hsome : copy.history.snapshot.lastSeq = some newest.seq := by
      show copy.held.getLast?.map (·.seq) = some newest.seq
      rw [hlast, Option.map_some]
    have hnext : newest.seq + 1 = copy.next := hcopy.consecutive.getLast_seq hlast
    have hrelease : released.history = (stream.history.discardThrough newest.seq).2 := by
      simp only [released, change, History.releasing, hsome]
    obtain ⟨hheld, hseq, hevicted⟩ := hstream.discardThrough newest.seq
    rw [← hrelease] at hheld hseq hevicted
    refine ⟨hheld.trans (List.filter_congr fun entry _ => ?_), hseq, hevicted⟩
    rw [← hnext, decide_eq_decide]
    exact Nat.lt_iff_add_one_le

theorem evolves_releasing (hstream : stream.history.Sound) (snapshot : Snapshot) :
    stream.Evolves (stream.change (·.releasing snapshot)) := by
  have hrelease : (stream.change (·.releasing snapshot)).history =
      stream.history.releasing snapshot := rfl
  rw [History.releasing] at hrelease
  rcases hlast : snapshot.lastSeq with _ | seq
  · rw [hlast] at hrelease
    refine ⟨by rw [next, next, hrelease], fun entry hentry => Or.inl ?_⟩
    rwa [held, hrelease] at hentry
  · rw [hlast] at hrelease
    obtain ⟨hheld, hseq, -⟩ := hstream.discardThrough seq
    dsimp only at hrelease
    rw [← hrelease] at hheld hseq
    refine ⟨Nat.le_of_eq hseq.symm, fun entry hentry => Or.inl ?_⟩
    rw [held, hheld] at hentry
    exact (List.mem_filter.1 hentry).1

theorem sound_releasing (hstream : stream.history.Sound) (snapshot : Snapshot) :
    (stream.change (·.releasing snapshot)).history.Sound := by
  show (stream.history.releasing snapshot).Sound
  rw [History.releasing]
  split
  · rename_i seq _
    exact hstream.answer (.discardThrough seq)
  · exact hstream

end FollowedStream

/-! ## What a clip is made of -/

/-- The packets that were written. -/
def SavedClip.written (clip : SavedClip) : List Packet :=
  clip.calls.filterMap fun
    | .write packet => some packet
    | _ => none

/-- Every packet of the copies was written once to the track of its stream, with one amount taken
from the times of the stream, or it lies before the first keyframe of a video. -/
def SavedClip.Complete (startOnKeyframe : Bool) (clip : SavedClip) : Prop :=
  ∀ index copy, clip.copies[index]? = some copy → copy.held ≠ [] →
    ∃ (lead kept : List Packet) (amount : Int64),
      copy.held.map (·.packet) = lead ++ kept ∧
      (lead = [] ∨ startOnKeyframe ∧ copy.history.kind = .video ∧
        (∀ packet ∈ lead, packet.keyframe = false) ∧
        ∃ packet, kept.head? = some packet ∧ packet.keyframe) ∧
      (clip.written.filter (·.stream == FollowedStream.trackOf clip.copies index)).Perm
        (kept.map fun packet =>
          (packet.moveBack amount).onStream (FollowedStream.trackOf clip.copies index))

theorem SavedClip.complete_of_calls {μ : Type} (saver : Saver μ) {clip : SavedClip}
    (hcopies : clip.copies = saver.streams) (hcalls : clip.calls = saver.clipCalls clip.path) :
    clip.Complete saver.startOnKeyframe := by
  have hwritten : clip.written = saver.clip.writes saver.formats := by
    have hwrites (packets : List Packet) : (packets.map MuxerCall.write).filterMap
        (fun | .write packet => some packet | _ => none) = packets := by
      rw [List.filterMap_map]
      exact List.filterMap_some
    rw [written, hcalls, Saver.clipCalls, Draft.calls_plan]
    simp [hwrites]
  intro index copy hcopy hheld
  rw [hcopies] at hcopy ⊢
  have hfull : copy.history.snapshot.isEmpty = false := by
    rw [Snapshot.isEmpty, copy.packets_snapshot]
    simpa using hheld
  obtain ⟨lead, happend, hlead⟩ :=
    copy.history.snapshot.packets_eq_append_kept saver.startOnKeyframe
  refine ⟨lead, _, saver.amount copy, happend, hlead, ?_⟩
  rw [hwritten]
  exact Saver.filter_writes_clip (Saver.recorded_trackOf hcopy hfull)

end InstantReplay
