import InstantReplay.Proofs.Save.Copies

/-!
# No packet is saved twice, and none is lost unsaved

Packets are told apart by their stream and their number. `SaveRun.Inv` says how the streams of a
run stand to the copies that saves made of them. Every step keeps it (`SaveRun.Inv.moves`), and it
accounts for what becomes of the packets (`SaveRun.Accounts`).
-/

namespace InstantReplay

namespace SaveRun

open FollowedStream

variable {μ : Type} {run later : SaveRun μ} {event : SaveEvent} {index : Nat}
  {before after copy stream : FollowedStream}

/-- A stream stays sound and goes on. -/
theorem Fate.evolves (h : run.Fate event index before after) (hsound : before.history.Sound) :
    after.history.Sound ∧ before.Evolves after := by
  rcases h with hafter | ⟨call, -, hcall, hafter⟩ | ⟨clip, copy, -, -, -, hafter⟩
  · subst hafter
    exact ⟨hsound, .refl _⟩
  · subst hafter
    obtain ⟨new, dropped, hfeeds⟩ := hsound.exists_feeds hcall
    exact ⟨hsound.answer call, evolves_of_feeds hfeeds⟩
  · subst hafter
    exact ⟨sound_releasing hsound _, evolves_releasing hsound _⟩

/-! ## The invariant -/

/-- The streams that the save going on has copied. -/
def copies (run : SaveRun μ) : List FollowedStream :=
  match run.phase with
  | .copying copies => copies
  | .releasing _ _ => []

/-- All copies that packets were saved from, and those that they may be saved from next. -/
def batches (run : SaveRun μ) : List (List FollowedStream) :=
  run.saved.map (·.copies) ++ [run.copies]

/-- The stream `index` has not yet dropped what was saved in a clip. -/
def Owes (run : SaveRun μ) (clip : SavedClip) (index : Nat) : Prop :=
  ∃ place ≤ index, run.phase = .releasing clip place

/-- The save going on has a copy of the stream `index`, which has yet to drop it. -/
def Waits (run : SaveRun μ) (index : Nat) (copy : FollowedStream) : Prop :=
  run.copies[index]? = some copy ∨ ∃ clip, run.Owes clip index ∧ clip.copies[index]? = some copy

/-- The later copies hold nothing from before the earlier ones. -/
def Apart (earlier later : List FollowedStream) : Prop :=
  ∀ (index : Nat) (copy other : FollowedStream), earlier[index]? = some copy →
    later[index]? = some other → ∀ entry ∈ other.held, copy.next ≤ entry.seq

/-- Batches of sound copies, each apart from those before it. -/
structure InTurn (batches : List (List FollowedStream)) : Prop where
  sound : ∀ batch ∈ batches, ∀ copy ∈ batch, copy.history.Sound
  apart : batches.Pairwise Apart

/-- What holds of the streams and their copies at every moment of a run. -/
structure Inv (run : SaveRun μ) : Prop where
  sound : ∀ stream ∈ run.saver.streams, stream.history.Sound
  complete : ∀ clip ∈ run.saved, clip.Complete run.saver.startOnKeyframe
  in_turn : InTurn run.batches
  /-- A clip whose packets are dropped is among those saved. -/
  mem_saved : ∀ clip place, run.phase = .releasing clip place → clip ∈ run.saved
  /-- A stream goes on from a copy that it has yet to drop. -/
  follows : ∀ index copy stream, run.Waits index copy → run.saver.streams[index]? = some stream →
    stream.Follows copy
  /-- Of all other copies saved, a stream holds nothing. -/
  beyond : ∀ clip ∈ run.saved, ∀ index copy stream, ¬ run.Owes clip index →
    clip.copies[index]? = some copy → run.saver.streams[index]? = some stream → stream.Beyond copy

/-! ## Batches of copies -/

section Batches

variable {batches : List (List FollowedStream)} {last : List FollowedStream}

theorem InTurn.init (h : InTurn (batches ++ [last])) : InTurn batches :=
  ⟨fun batch hbatch => h.sound batch (List.mem_append_left _ hbatch),
    (List.pairwise_append.1 h.apart).1⟩

theorem InTurn.concat (h : InTurn batches) (hsound : ∀ copy ∈ last, copy.history.Sound)
    (hapart : ∀ batch ∈ batches, Apart batch last) : InTurn (batches ++ [last]) where
  sound batch hbatch copy hcopy := by
    rcases List.mem_append.1 hbatch with hearlier | hlast
    · exact h.sound batch hearlier copy hcopy
    · rw [List.mem_singleton.1 hlast] at hcopy
      exact hsound copy hcopy
  apart := by
    refine List.pairwise_append.2 ⟨h.apart, List.pairwise_singleton _ _, ?_⟩
    intro batch hbatch other hother
    rw [List.mem_singleton.1 hother]
    exact hapart batch hbatch

/-- A save that begins has no copies yet. -/
theorem InTurn.concat_nil (h : InTurn batches) : InTurn (batches ++ [[]]) :=
  h.concat (fun _ hcopy => by cases hcopy) fun _ _ _ _ _ _ hother => by cases hother

end Batches

/-! ## Copying and releasing -/

/-- Nothing is owed while streams are copied. -/
theorem not_owes_of_copying {copies : List FollowedStream} (hphase : run.phase = .copying copies)
    (clip : SavedClip) (index : Nat) : ¬ run.Owes clip index := by
  rintro ⟨place, -, hreleasing⟩
  rw [hphase] at hreleasing
  cases hreleasing

theorem waits_of_copying {copies : List FollowedStream} (hphase : run.phase = .copying copies)
    (h : run.Waits index copy) : copies[index]? = some copy := by
  obtain hcopy | ⟨clip, howes, -⟩ := h
  · rwa [SaveRun.copies, hphase] at hcopy
  · exact absurd howes (not_owes_of_copying hphase clip index)

theorem waits_of_releasing {clip : SavedClip} {place : Nat}
    (hphase : run.phase = .releasing clip place) :
    run.Waits index copy ↔ place ≤ index ∧ clip.copies[index]? = some copy := by
  constructor
  · rintro (hcopy | ⟨other, ⟨next, hnext, hreleasing⟩, hcopy⟩)
    · rw [SaveRun.copies, hphase] at hcopy
      cases hcopy
    · rw [hphase] at hreleasing
      cases hreleasing
      exact ⟨hnext, hcopy⟩
  · exact fun ⟨hplace, hcopy⟩ => Or.inr ⟨clip, ⟨place, hplace, hphase⟩, hcopy⟩

theorem copies_eq {copies : List FollowedStream} (hphase : run.phase = .copying copies) :
    run.copies = copies := by
  rw [SaveRun.copies, hphase]

theorem Inv.in_turn_copying (h : run.Inv) {copies : List FollowedStream}
    (hphase : run.phase = .copying copies) : InTurn (run.saved.map (·.copies) ++ [copies]) := by
  have hbatches := h.in_turn
  rwa [batches, copies_eq hphase] at hbatches

/-- While streams are released, no copies are made. -/
theorem Inv.in_turn_releasing (h : run.Inv) {clip : SavedClip} {place : Nat}
    (hphase : run.phase = .releasing clip place) : InTurn (run.saved.map (·.copies) ++ [[]]) := by
  have hbatches := h.in_turn
  rwa [batches, copies, hphase] at hbatches

/-! ## The moves -/

/-- A stream after a step is sound and goes on from the stream before. -/
theorem Inv.exists_before (h : run.Inv) (hmoves : run.Moves event later)
    (hafter : later.saver.streams[index]? = some after) :
    ∃ before, run.saver.streams[index]? = some before ∧ after.history.Sound ∧
      before.Evolves after := by
  obtain ⟨before, hbefore⟩ := hmoves.exists_before hafter
  exact ⟨before, hbefore, (hmoves.fate hbefore hafter).evolves
    (h.sound before (List.mem_of_getElem? hbefore))⟩

theorem Inv.sound_later (h : run.Inv) (hmoves : run.Moves event later) :
    ∀ stream ∈ later.saver.streams, stream.history.Sound := by
  intro stream hstream
  obtain ⟨index, hindex⟩ := List.mem_iff_getElem?.1 hstream
  obtain ⟨-, -, hsound, -⟩ := h.exists_before hmoves hindex
  exact hsound

/-- A run goes on without a change of phase. -/
theorem Inv.asked (h : run.Inv) {place : Nat} {call : HistoryCall} (hcall : call.feeds) :
    (run.change place fun history => (history.answer call).2).Inv := by
  have hmoves : run.Moves (.ask place call) _ := .asked place call hcall
  refine ⟨h.sound_later hmoves, h.complete, h.in_turn, h.mem_saved, ?_, ?_⟩
  · intro index copy after hwaits hafter
    obtain ⟨before, hbefore, -, hevolves⟩ := h.exists_before hmoves hafter
    exact (h.follows index copy before hwaits hbefore).evolves hevolves
  · intro clip hclip index copy after howes hcopy hafter
    obtain ⟨before, hbefore, -, hevolves⟩ := h.exists_before hmoves hafter
    exact (h.beyond clip hclip index copy before howes hcopy hbefore).evolves hevolves

theorem getElem?_concat_cases {α : Type} {l : List α} {last a : α} {index : Nat}
    (h : (l ++ [last])[index]? = some a) : l[index]? = some a ∨ index = l.length ∧ last = a := by
  rcases Nat.lt_trichotomy index l.length with hlt | rfl | hgt
  · rw [List.getElem?_append_left hlt] at h
    exact Or.inl h
  · rw [List.getElem?_concat_length, Option.some.injEq] at h
    exact Or.inr ⟨rfl, h⟩
  · rw [List.getElem?_eq_none (by rw [List.length_append, List.length_singleton]; omega)] at h
    cases h

/-- The copy of a stream is apart from all that was saved of the stream before. -/
theorem Inv.copied_next (h : run.Inv) {copies : List FollowedStream}
    (hphase : run.phase = .copying copies)
    (hstream : run.saver.streams[copies.length]? = some stream) :
    ({ run with phase := .copying (copies ++ [stream]) } : SaveRun μ).Inv := by
  have hturn := h.in_turn_copying hphase
  have hlast := List.mem_append_right (run.saved.map (·.copies)) (List.mem_singleton_self copies)
  refine ⟨h.sound, h.complete, hturn.init.concat ?_ ?_,
    fun _ _ hreleasing => (by cases hreleasing), ?_, ?_⟩
  · intro copy hcopy
    rcases List.mem_append.1 hcopy with hearlier | hnew
    · exact hturn.sound copies hlast copy hearlier
    · rw [List.mem_singleton.1 hnew]
      exact h.sound stream (List.mem_of_getElem? hstream)
  · intro batch hbatch index copy other hcopy hother
    rcases getElem?_concat_cases hother with hearlier | ⟨rfl, rfl⟩
    · exact (List.pairwise_append.1 hturn.apart).2.2 batch hbatch copies
        (List.mem_singleton_self copies) index copy other hcopy hearlier
    · obtain ⟨clip, hclip, rfl⟩ := List.mem_map.1 hbatch
      exact (h.beyond clip hclip _ copy stream (not_owes_of_copying hphase clip _) hcopy
        hstream).le_seq
  · intro index copy other hwaits hother
    rcases getElem?_concat_cases (waits_of_copying rfl hwaits) with hearlier | ⟨rfl, rfl⟩
    · exact h.follows index copy other (Or.inl (by rw [copies_eq hphase]; exact hearlier)) hother
    · rw [Option.some.inj (hother.symm.trans hstream)]
      exact follows_self stream
  · intro clip hclip index copy other _ hcopy hother
    exact h.beyond clip hclip index copy other (not_owes_of_copying hphase clip index) hcopy hother

/-- A save that fails forgets its copies. -/
theorem Inv.failed (h : run.Inv) {copies : List FollowedStream}
    (hphase : run.phase = .copying copies) (state : μ) :
    ({ run with saver := { run.saver with state := state }, phase := .copying [] } :
      SaveRun μ).Inv := by
  refine ⟨h.sound, h.complete, (h.in_turn_copying hphase).init.concat_nil,
    fun _ _ hreleasing => (by cases hreleasing),
    fun _ _ _ hwaits => (by cases waits_of_copying rfl hwaits), ?_⟩
  intro clip hclip index copy other _ hcopy hother
  exact h.beyond clip hclip index copy other (not_owes_of_copying hphase clip index) hcopy hother

/-- When a clip is written, its copies have yet to be dropped. -/
theorem Inv.wrote (h : run.Inv) {clip : SavedClip} (hphase : run.phase = .copying clip.copies)
    (hcalls : clip.calls =
      ({ run.saver with streams := clip.copies } : Saver μ).clipCalls clip.path) (state : μ) :
    ({ saver := { run.saver with state := state, saves := run.saver.saves + 1 }
       phase := .releasing clip 0
       saved := run.saved ++ [clip] } : SaveRun μ).Inv := by
  have hturn := h.in_turn_copying hphase
  have hbatches : (run.saved ++ [clip]).map (·.copies) =
      run.saved.map (·.copies) ++ [clip.copies] := by
    rw [List.map_append, List.map_cons, List.map_nil]
  rw [← hbatches] at hturn
  refine ⟨h.sound, ?_, hturn.concat_nil, ?_, ?_, ?_⟩
  · intro other hother
    rcases List.mem_append.1 hother with hearlier | hnew
    · exact h.complete other hearlier
    · rw [List.mem_singleton.1 hnew]
      exact SavedClip.complete_of_calls { run.saver with streams := clip.copies } rfl hcalls
  · intro other place hreleasing
    cases hreleasing
    exact List.mem_append_right _ (List.mem_singleton.2 rfl)
  · intro index copy stream hwaits hstream
    have hcopy := ((waits_of_releasing rfl).1 hwaits).2
    exact h.follows index copy stream (Or.inl (by rw [copies_eq hphase]; exact hcopy)) hstream
  · intro other hother index copy stream howes hcopy hstream
    rcases List.mem_append.1 hother with hearlier | hnew
    · exact h.beyond other hearlier index copy stream (not_owes_of_copying hphase other index) hcopy
        hstream
    · rw [List.mem_singleton.1 hnew] at howes
      exact absurd ⟨0, Nat.zero_le index, rfl⟩ howes

/-- A stream that drops a copy holds nothing from before it. -/
theorem Inv.released (h : run.Inv) {clip : SavedClip} {place : Nat}
    (hphase : run.phase = .releasing clip place) (hcopy : clip.copies[place]? = some copy) :
    ({ run.change place (·.releasing copy.history.snapshot) with
      phase := .releasing clip (place + 1) } : SaveRun μ).Inv := by
  have hmoves := Moves.released clip place copy hphase hcopy
  have hturn := h.in_turn_releasing hphase
  refine ⟨h.sound_later hmoves, h.complete, hturn, ?_, ?_, ?_⟩
  · intro other next hreleasing
    cases hreleasing
    exact h.mem_saved clip place hphase
  · intro index copy' after hwaits hafter
    obtain ⟨hplace, hcopy'⟩ := (waits_of_releasing rfl).1 hwaits
    obtain ⟨before, hbefore, -, hevolves⟩ := h.exists_before hmoves hafter
    exact (h.follows index copy' before ((waits_of_releasing hphase).2
      ⟨Nat.le_of_succ_le hplace, hcopy'⟩) hbefore).evolves hevolves
  · intro other hother index copy' after howes hcopy' hafter
    obtain ⟨before, hbefore, -, hevolves⟩ := h.exists_before hmoves hafter
    by_cases hdue : run.Owes other index
    · -- the stream whose turn it was drops the copy
      have hfollows := h.follows index copy' before (Or.inr ⟨other, hdue, hcopy'⟩) hbefore
      obtain ⟨next, hnext, hreleasing⟩ := hdue
      rw [hphase] at hreleasing
      cases hreleasing
      have hindex : index = place := by
        by_contra hne
        exact howes ⟨place + 1, by omega, rfl⟩
      subst hindex
      rw [hcopy, Option.some.injEq] at hcopy'
      subst hcopy'
      have hchange := getElem?_change hbefore hafter
      rw [if_pos rfl] at hchange
      have hcopysound := hturn.init.sound clip.copies (List.mem_map_of_mem hother) copy
        (List.mem_of_getElem? hcopy)
      obtain ⟨hheld, hseq, -⟩ := held_releasing (h.sound before (List.mem_of_getElem? hbefore))
        hcopysound hfollows
      rw [hchange]
      refine ⟨by rw [hseq]; exact hfollows.next_le, fun entry hentry => ?_⟩
      rw [hheld] at hentry
      exact of_decide_eq_true (List.mem_filter.1 hentry).2
    · exact (h.beyond other hother index copy' before hdue hcopy' hbefore).evolves hevolves

/-- When no stream is left, nothing is owed. -/
theorem Inv.ended (h : run.Inv) {clip : SavedClip} {place : Nat}
    (hphase : run.phase = .releasing clip place) (hcopy : clip.copies[place]? = none) :
    ({ run with phase := .copying [] } : SaveRun μ).Inv := by
  refine ⟨h.sound, h.complete, h.in_turn_releasing hphase,
    fun _ _ hreleasing => (by cases hreleasing),
    fun _ _ _ hwaits => (by cases waits_of_copying rfl hwaits), ?_⟩
  intro other hother index copy' stream _ hcopy' hstream
  refine h.beyond other hother index copy' stream ?_ hcopy' hstream
  rintro ⟨next, hnext, hreleasing⟩
  rw [hphase] at hreleasing
  cases hreleasing
  have hlength := List.getElem?_eq_none_iff.1 hcopy
  have hindex := (List.getElem?_eq_some_iff.1 hcopy').1
  omega

/-- **Every step keeps the invariant.** -/
theorem Inv.moves (h : run.Inv) (hmoves : run.Moves event later) : later.Inv := by
  cases hmoves with
  | idle => exact h
  | asked place call hcall => exact h.asked hcall
  | copied copies stream hphase hstream => exact h.copied_next hphase hstream
  | failed path copies state hphase => exact h.failed hphase state
  | wrote path state clip hphase hlength hcalls => exact h.wrote hphase hcalls state
  | released clip place copy hphase hcopy => exact h.released hphase hcopy
  | ended clip place hphase hcopy => exact h.ended hphase hcopy

/-! ## The fate of packets -/

/-- What becomes of the packets in a run. A packet is known by its stream and its number. -/
structure Accounts (run : SaveRun μ) : Prop where
  /-- No packet is in the copies of two clips. -/
  saved_once : run.saved.Pairwise fun a b =>
    ∀ (index : Nat) (copy other : FollowedStream),
      a.copies[index]? = some copy → b.copies[index]? = some other →
        ∀ entry ∈ copy.held, ∀ entry' ∈ other.held, entry.seq ≠ entry'.seq
  /-- Every packet of the copies of a clip was written once, or lies before the first keyframe. -/
  written : ∀ clip ∈ run.saved, clip.Complete run.saver.startOnKeyframe
  /-- A packet leaves when it is evicted by a commit, or when its stream drops what was saved in a
  clip that has a copy of it. -/
  leaves : ∀ (event : SaveEvent) (index : Nat) (before after : FollowedStream),
    run.saver.streams[index]? = some before →
    (run.step event).saver.streams[index]? = some after →
      ∀ entry ∈ before.held, entry ∉ after.held →
        (∃ call new dropped, event = .ask index call ∧
          before.history.Feeds after.history new dropped ∧ entry ∈ dropped) ∨
        ∃ clip ∈ run.saved, ∃ copy, event = .release ∧ run.phase = .releasing clip index ∧
          clip.copies[index]? = some copy ∧ entry ∈ copy.held
  /-- What is committed after a copy was made gets a number that the copy has none of. -/
  later : ∀ (event : SaveEvent) (index : Nat) (copy before after : FollowedStream),
    run.Waits index copy → run.saver.streams[index]? = some before →
    (run.step event).saver.streams[index]? = some after →
      (∀ entry ∈ copy.held, entry.seq < copy.next) ∧
        ∀ entry ∈ after.held, entry ∉ before.held → copy.next ≤ entry.seq
  /-- A stream that drops a copy keeps all that was committed after the copy, and nothing else. -/
  survives : ∀ (clip : SavedClip) (index : Nat) (copy before after : FollowedStream),
    run.phase = .releasing clip index → clip.copies[index]? = some copy →
    run.saver.streams[index]? = some before →
    (run.step .release).saver.streams[index]? = some after →
      after.held = before.held.filter (· ∉ copy.held) ∧
        after.held = before.held.filter (copy.next ≤ ·.seq)
  /-- Once a stream has dropped a copy, it never again holds a packet of it. -/
  gone : ∀ clip ∈ run.saved, ∀ (index : Nat) (copy stream : FollowedStream),
    ¬ run.Owes clip index → clip.copies[index]? = some copy →
    run.saver.streams[index]? = some stream →
      ∀ entry ∈ stream.held, ∀ entry' ∈ copy.held, entry.seq ≠ entry'.seq

theorem Inv.sound_of_saved (h : run.Inv) {clip : SavedClip} (hclip : clip ∈ run.saved)
    (hcopy : clip.copies[index]? = some copy) : copy.history.Sound :=
  h.in_turn.init.sound clip.copies (List.mem_map_of_mem hclip) copy (List.mem_of_getElem? hcopy)

theorem Inv.sound_of_waits (h : run.Inv) (hwaits : run.Waits index copy) :
    copy.history.Sound := by
  obtain hcopy | ⟨clip, ⟨place, -, hphase⟩, hcopy⟩ := hwaits
  · exact h.in_turn.sound run.copies (List.mem_append_right _ (List.mem_singleton_self _)) copy
      (List.mem_of_getElem? hcopy)
  · exact h.sound_of_saved (h.mem_saved clip place hphase) hcopy

/-- **The invariant accounts for every packet.** -/
theorem Inv.accounts (h : run.Inv) : run.Accounts where
  saved_once := by
    have hapart := h.in_turn.init.apart
    rw [List.pairwise_map] at hapart
    refine hapart.imp_of_mem fun ha _ hab index copy other hcopy hother entry hentry entry'
      hentry' => ?_
    have hlt : entry.seq < copy.next := (h.sound_of_saved ha hcopy).consecutive.seq_lt hentry
    exact Nat.ne_of_lt (hlt.trans_le (hab index copy other hcopy hother entry' hentry'))
  written := h.complete
  leaves event index before after hbefore hafter entry hentry hleft := by
    have hsound := h.sound before (List.mem_of_getElem? hbefore)
    rcases (run.moves_step event).fate hbefore hafter with
      hsame | ⟨call, hevent, hcall, hchange⟩ | ⟨clip, copy, hevent, hphase, hcopy, hchange⟩
    · rw [hsame] at hleft
      exact absurd hentry hleft
    · obtain ⟨new, dropped, hfeeds⟩ := hsound.exists_feeds hcall
      refine Or.inl ⟨call, new, dropped, hevent, by rw [hchange]; exact hfeeds, ?_⟩
      have hmem : entry ∈ before.held ++ new := List.mem_append_left new hentry
      rw [held, hfeeds.entries_eq] at hmem
      rw [hchange] at hleft
      exact (List.mem_append.1 hmem).resolve_right hleft
    · have hclip := h.mem_saved clip index hphase
      have hfollows := h.follows index copy before ((waits_of_releasing hphase).2
        ⟨Nat.le_refl index, hcopy⟩) hbefore
      refine Or.inr ⟨clip, hclip, copy, hevent, hphase, hcopy, hfollows.mem_copy entry hentry ?_⟩
      by_contra hge
      rw [hchange, (held_releasing hsound (h.sound_of_saved hclip hcopy) hfollows).1] at hleft
      exact hleft (List.mem_filter.2 ⟨hentry, decide_eq_true (Nat.le_of_not_lt hge)⟩)
  later event index copy before after hwaits hbefore hafter := by
    have hevolves := (((run.moves_step event).fate hbefore hafter).evolves
      (h.sound before (List.mem_of_getElem? hbefore))).2
    refine ⟨fun entry hentry => (h.sound_of_waits hwaits).consecutive.seq_lt hentry,
      fun entry hentry hnew => ?_⟩
    exact (h.follows index copy before hwaits hbefore).next_le.trans
      ((hevolves.held_or entry hentry).resolve_left hnew)
  survives clip index copy before after hphase hcopy hbefore hafter := by
    have hclip := h.mem_saved clip index hphase
    have hcopysound := h.sound_of_saved hclip hcopy
    have hfollows := h.follows index copy before ((waits_of_releasing hphase).2
      ⟨Nat.le_refl index, hcopy⟩) hbefore
    have hchange : after = before.change (·.releasing copy.history.snapshot) := by
      simp only [step, hphase, hcopy] at hafter
      have hchange := getElem?_change hbefore hafter
      rwa [if_pos rfl] at hchange
    have hheld := (held_releasing (h.sound before (List.mem_of_getElem? hbefore)) hcopysound
      hfollows).1
    rw [← hchange] at hheld
    refine ⟨hheld.trans (List.filter_congr fun entry hentry => ?_), hheld⟩
    rw [decide_eq_decide]
    exact (hfollows.not_mem_iff hcopysound hentry).symm
  gone clip hclip index copy stream howes hcopy hstream entry hentry entry' hentry' := by
    have hlt : entry'.seq < copy.next :=
      (h.sound_of_saved hclip hcopy).consecutive.seq_lt hentry'
    have hle := (h.beyond clip hclip index copy stream howes hcopy hstream).le_seq entry hentry
    exact Nat.ne_of_gt (hlt.trans_le hle)

/-! ## Whole runs -/

/-- A run that starts with sound histories. -/
theorem inv_start (saver : Saver μ) (hsound : ∀ stream ∈ saver.streams, stream.history.Sound) :
    (SaveRun.mk saver (.copying []) []).Inv where
  sound := hsound
  complete _ hclip := by cases hclip
  in_turn := InTurn.concat_nil ⟨fun _ hbatch => (by cases hbatch), List.Pairwise.nil⟩
  mem_saved _ _ hphase := by cases hphase
  follows _ _ _ hwaits := by cases waits_of_copying rfl hwaits
  beyond _ hclip := by cases hclip

theorem inv_after (h : run.Inv) (events : List SaveEvent) : (run.after events).Inv := by
  induction events generalizing run with
  | nil => exact h
  | cons event events ih => exact ih (h.moves (run.moves_step event))

end SaveRun

/-- A history that calls led to. -/
def History.Reached (history : History) : Prop :=
  ∃ kind slots base window calls, history =
    HistoryCall.after History.answer calls (.withSlots kind slots base window)

theorem History.Reached.sound {history : History} (h : history.Reached) : history.Sound := by
  obtain ⟨kind, slots, base, window, calls, rfl⟩ := h
  exact (sound_withSlots kind slots base window).after calls

/-- **No packet is saved twice, and none is lost unsaved.** In every run, whatever calls bring
packets between the steps of the saves and however the muxer answers, `SaveRun.Accounts` says what
becomes of the packets. -/
theorem SaveRun.accounts_after {μ : Type} (saver : Saver μ)
    (hstart : ∀ stream ∈ saver.streams, stream.history.Reached) (events : List SaveEvent) :
    ((SaveRun.mk saver (.copying []) []).after events).Accounts :=
  (inv_after (inv_start saver fun stream hstream => (hstart stream hstream).sound) events).accounts

theorem FollowedStream.reached_taking (format : StreamFormat) (window : Int64)
    (keys times : List Int64) : (taking format window keys times).history.Reached := by
  refine ⟨format.kind, 8, format.timeBase, window, times.map fun time =>
    .push ⟨⟨#[1]⟩, time, time, keys.contains time, 0⟩, ?_⟩
  rw [HistoryCall.after, List.foldl_map]
  rfl

/-- A save of three streams, with a packet that comes after the clip was written. -/
theorem SaveRun.accounts_sample :
    let saver := Saver.sample Muxer.counting 0
    let packet : Packet := ⟨⟨#[2]⟩, 60, 60, true, 0⟩
    let run := (SaveRun.mk saver (.copying []) []).after
      (List.replicate saver.streams.length .copy ++
        .write "clip" :: .ask 0 (.push packet) :: List.replicate 4 .release)
    (∀ stream ∈ saver.streams, stream.history.Reached) ∧ run.Accounts ∧
      run.saved.map (·.copies.map (·.held.map (·.seq))) = [[[0, 1, 2, 3], [], [0, 1]]] ∧
      run.saver.streams.map (·.held.map (·.seq)) = [[4], [], []] := by
  intro saver packet run
  have hstart : ∀ stream ∈ saver.streams, stream.history.Reached := by
    simp only [saver, Saver.sample, List.forall_mem_cons]
    exact ⟨FollowedStream.reached_taking .., FollowedStream.reached_taking ..,
      FollowedStream.reached_taking .., by simp⟩
  have hnothing : ¬ saver.HoldsNothing := by
    simp [Saver.HoldsNothing]
    decide +kernel
  have hperform := Muxer.perform_of_takesAll [] (saver.clip.numbered_plan saver.formats "clip")
    (Saver.takesAll_of_obliging (Muxer.obliging_counting 0) "clip")
  have hrun := after_copies_write saver [] "clip"
    (.ask 0 (.push packet) :: List.replicate 4 .release)
  rw [write_of_performed hnothing hperform] at hrun
  refine ⟨hstart, accounts_after saver hstart _, ?_, ?_⟩
  · rw [show run = _ from hrun]
    decide +kernel
  · rw [show run = _ from hrun]
    decide +kernel

end InstantReplay
