import InstantReplay.Proofs.History.Refinement

/-!
# The numbers of the packets held

Packets are numbered as they are committed, and only the oldest are ever let go: the numbers of the
entries held are consecutive and end before the next number (`History.Sound`). Every call keeps
this. A call that only brings packets lets go of oldest entries and counts them as evicted
(`History.Feeds`); discarding up to the newest number of an earlier snapshot takes what is left of
the snapshot (`History.Sound.discardThrough`), and a snapshot tells the numbers of its packets
(`History.Sound.numbered_snapshot`).
-/

namespace InstantReplay

/-- The numbers of entries are consecutive and end before `next`. -/
def NumberedPacket.Consecutive (held : List NumberedPacket) (next : Nat) : Prop :=
  ∀ offset entry, held[offset]? = some entry → entry.seq + held.length = next + offset

namespace NumberedPacket.Consecutive

variable {held kept : List NumberedPacket} {next : Nat}

theorem suffix (h : Consecutive held next) (hkept : kept <:+ held) : Consecutive kept next := by
  obtain ⟨dropped, rfl⟩ := hkept
  intro offset entry hentry
  have hlater := h (dropped.length + offset) entry
    (by rw [List.getElem?_append_right (by omega), Nat.add_sub_cancel_left]; exact hentry)
  rw [List.length_append] at hlater
  omega

theorem concat (h : Consecutive held next) (packet : Packet) :
    Consecutive (held ++ [⟨packet, next⟩]) (next + 1) := by
  intro offset entry hentry
  rw [List.length_append, List.length_singleton]
  rcases Nat.lt_trichotomy offset held.length with hlt | rfl | hgt
  · rw [List.getElem?_append_left hlt] at hentry
    have := h offset entry hentry
    omega
  · rw [List.getElem?_concat_length, Option.some.injEq] at hentry
    subst hentry
    dsimp only
    omega
  · rw [List.getElem?_eq_none (by rw [List.length_append, List.length_singleton]; omega)] at hentry
    cases hentry

theorem seq_lt (h : Consecutive held next) {entry : NumberedPacket} (hentry : entry ∈ held) :
    entry.seq < next := by
  obtain ⟨offset, hlt, rfl⟩ := List.mem_iff_getElem.1 hentry
  have := h offset _ (List.getElem?_eq_getElem hlt)
  omega

theorem pairwise (h : Consecutive held next) : held.Pairwise (·.seq < ·.seq) := by
  rw [List.pairwise_iff_getElem]
  intro i j hi hj hij
  have hseqi := h i _ (List.getElem?_eq_getElem hi)
  have hseqj := h j _ (List.getElem?_eq_getElem hj)
  omega

/-- The newest entry has the number before the next. -/
theorem getLast_seq (h : Consecutive held next) {newest : NumberedPacket}
    (hnewest : held.getLast? = some newest) : newest.seq + 1 = next := by
  rw [List.getLast?_eq_getElem?] at hnewest
  have hpos : 0 < held.length := by
    have := (List.getElem?_eq_some_iff.1 hnewest).1
    omega
  have hseq := h _ _ hnewest
  omega

/-- The entries up to a number come first, so that dropping them is leaving them out. -/
theorem dropWhile_eq_filter (h : Consecutive held next) (seq : Nat) :
    held.dropWhile (·.seq ≤ seq) = held.filter (seq < ·.seq) := by
  have hsorted := h.pairwise
  clear h
  induction held with
  | nil => rfl
  | cons oldest rest ih =>
    rw [List.pairwise_cons] at hsorted
    by_cases holdest : oldest.seq ≤ seq
    · rw [List.dropWhile_cons_of_pos (by simpa using holdest), ih hsorted.2,
        List.filter_cons_of_neg (by simpa using holdest)]
    · rw [List.dropWhile_cons_of_neg (by simpa using holdest), eq_comm, List.filter_eq_self]
      intro entry hentry
      rcases List.mem_cons.1 hentry with rfl | hrest
      · simpa using holdest
      · have := hsorted.1 entry hrest
        simpa using (by omega : seq < entry.seq)

end NumberedPacket.Consecutive

open NumberedPacket

/-- Calls keep the numbers of a ledger consecutive. -/
theorem Ledger.consecutive_answer {ledger : Ledger} (h : Consecutive ledger.held ledger.next)
    (kind : StreamKind) (late : Packet → Packet → Bool) (slots : Nat) (call : HistoryCall) :
    Consecutive (ledger.answer kind late slots call).2.held
      (ledger.answer kind late slots call).2.next := by
  have hcommit : ∀ other : Ledger, Consecutive other.held other.next →
      Consecutive (other.commit late slots).2.held (other.commit late slots).2.next := by
    intro other hother
    rcases hstaged : other.staged with _ | packet
    · simpa only [commit, hstaged] using hother
    · simp only [commit, hstaged]
      exact (hother.concat packet).suffix
        ((shed_suffix _ _).trans (makeRoom_suffix slots (other.grown packet)))
  cases call with
  | rotate => exact hcommit ledger h
  | push packet => exact hcommit (ledger.stage packet) h
  | clear => exact fun offset entry hentry => by simp [answer, Ledger.clear] at hentry
  | discardThrough seq => exact h.suffix (List.dropWhile_suffix _)
  | _ => exact h

namespace History

/-! ## Sound histories -/

/-- The entries of a history are those of a ledger, and their numbers are consecutive. -/
structure Sound (history : History) : Prop where
  keeps : ∃ ledger, history.Keeps ledger
  consecutive : Consecutive history.ring.entries history.ring.nextSeq

variable {history : History} {ledger : Ledger}

theorem Keeps.entries_eq (h : history.Keeps ledger) : history.ring.entries = ledger.held :=
  Ring.Holds.entries_eq h

theorem Keeps.sound (h : history.Keeps ledger) (hledger : Consecutive ledger.held ledger.next) :
    history.Sound where
  keeps := ⟨ledger, h⟩
  consecutive := by
    rw [h.entries_eq, h.nextSeq_eq]
    exact hledger

theorem Sound.exists_ledger (h : history.Sound) :
    ∃ ledger, history.Keeps ledger ∧ Consecutive ledger.held ledger.next := by
  obtain ⟨ledger, hkeeps⟩ := h.keeps
  have hconsecutive := h.consecutive
  rw [hkeeps.entries_eq, hkeeps.nextSeq_eq] at hconsecutive
  exact ⟨ledger, hkeeps, hconsecutive⟩

theorem sound_withSlots (kind : StreamKind) (slots : Nat) (base : TimeBase) (window : Int64) :
    (withSlots kind slots base window).Sound :=
  (keeps_withSlots kind slots base window).sound fun offset entry hentry => by simp at hentry

/-- **Calls keep a history sound.** -/
theorem Sound.answer (h : history.Sound) (call : HistoryCall) : (history.answer call).2.Sound := by
  obtain ⟨ledger, hkeeps, hconsecutive⟩ := h.exists_ledger
  exact (hkeeps.answer call).2.sound (Ledger.consecutive_answer hconsecutive _ _ _ call)

theorem Sound.after (h : history.Sound) (calls : List HistoryCall) :
    (HistoryCall.after History.answer calls history).Sound := by
  induction calls generalizing history with
  | nil => exact h
  | cons call calls ih => exact ih (h.answer call)

/-! ## Calls that only bring packets -/

/-- Between two states of a history the entries `new` were committed and the oldest entries
`dropped` were evicted. -/
structure Feeds (before after : History) (new dropped : List NumberedPacket) : Prop where
  entries_eq : before.ring.entries ++ new = dropped ++ after.ring.entries
  numbered : new.map (·.seq) = List.range' before.ring.nextSeq new.length
  nextSeq_eq : after.ring.nextSeq = before.ring.nextSeq + new.length
  evicted_eq : after.evicted = before.evicted + dropped.length

theorem feeds_self (history : History) : history.Feeds history [] [] :=
  ⟨List.append_nil _, rfl, rfl, rfl⟩

/-- Committing takes in the waiting packet with the next number, and evicts oldest entries. -/
theorem Keeps.exists_feeds_commit (h : history.Keeps ledger) {after : History}
    {late : Packet → Packet → Bool} {slots : Nat}
    (hafter : after.Keeps (ledger.commit late slots).2) :
    ∃ new dropped, history.Feeds after new dropped := by
  rcases hstaged : ledger.staged with _ | packet
  · simp only [Ledger.commit, hstaged] at hafter
    refine ⟨[], [], ⟨?_, rfl, ?_, ?_⟩⟩
    · rw [hafter.entries_eq, h.entries_eq, List.append_nil, List.nil_append]
    · rw [hafter.nextSeq_eq, h.nextSeq_eq]
      rfl
    · exact hafter.evicted_eq.trans h.evicted_eq.symm
  · simp only [Ledger.commit, hstaged] at hafter
    obtain ⟨dropped, hdropped⟩ := (Ledger.shed_suffix (late packet) _).trans
      (Ledger.makeRoom_suffix slots (ledger.grown packet))
    refine ⟨[⟨packet, ledger.next⟩], dropped, ⟨?_, ?_, ?_, ?_⟩⟩
    · rw [hafter.entries_eq, h.entries_eq, hdropped, Ledger.grown]
    · rw [h.nextSeq_eq]
      rfl
    · rw [hafter.nextSeq_eq, h.nextSeq_eq]
      rfl
    · have hlength := congrArg List.length hdropped
      rw [List.length_append] at hlength
      have hevicted : after.evicted = _ := hafter.evicted_eq
      have hbefore : history.evicted = _ := h.evicted_eq
      rw [hevicted, hbefore]
      dsimp only
      omega

end History

/-- Whether a call neither clears nor discards. -/
def HistoryCall.feeds : HistoryCall → Bool
  | .clear => false
  | .discardThrough _ => false
  | _ => true

namespace History

variable {history : History}

/-- **A call that neither clears nor discards lets go of oldest entries only**, and counts them as
evicted; what it commits gets the next number. -/
theorem Sound.exists_feeds (h : history.Sound) {call : HistoryCall} (hcall : call.feeds) :
    ∃ new dropped, history.Feeds (history.answer call).2 new dropped := by
  obtain ⟨ledger, hkeeps⟩ := h.keeps
  cases call with
  | append packet =>
    have hafter := hkeeps.append packet
    refine ⟨[], [], ⟨?_, rfl, rfl, rfl⟩⟩
    rw [List.append_nil, hkeeps.entries_eq]
    exact hafter.entries_eq.symm
  | rotate => exact hkeeps.exists_feeds_commit (hkeeps.answer .rotate).2
  | push packet =>
    obtain ⟨new, dropped, hfeeds⟩ :=
      (hkeeps.append packet).exists_feeds_commit (hkeeps.answer (.push packet)).2
    have hentries : (history.append packet).ring.entries = history.ring.entries := by
      rw [hkeeps.entries_eq]
      exact (hkeeps.append packet).entries_eq
    refine ⟨new, dropped, ⟨?_, hfeeds.numbered, hfeeds.nextSeq_eq, hfeeds.evicted_eq⟩⟩
    rw [← hentries]
    exact hfeeds.entries_eq
  | clear => cases hcall
  | discardThrough seq => cases hcall
  | _ => exact ⟨[], [], history.feeds_self⟩

/-! ## Discarding -/

/-- **Discarding leaves out the entries up to a number**, and counts nothing as evicted. -/
theorem Sound.discardThrough (h : history.Sound) (seq : Nat) :
    (history.discardThrough seq).2.ring.entries = history.ring.entries.filter (seq < ·.seq) ∧
      (history.discardThrough seq).2.ring.nextSeq = history.ring.nextSeq ∧
      (history.discardThrough seq).2.evicted = history.evicted := by
  obtain ⟨ledger, hkeeps, hconsecutive⟩ := h.exists_ledger
  have hafter := (hkeeps.discardThrough seq).2
  refine ⟨?_, hafter.nextSeq_eq.trans hkeeps.nextSeq_eq.symm,
    Eq.trans hafter.evicted_eq (Eq.symm hkeeps.evicted_eq)⟩
  rw [hafter.entries_eq, hkeeps.entries_eq]
  exact hconsecutive.dropWhile_eq_filter seq

end History

/-! ## Snapshots -/

/-- The packets of a snapshot with their numbers, which are consecutive up to the last one. -/
def Snapshot.numbered (snapshot : Snapshot) : List NumberedPacket :=
  snapshot.packets.mapIdx fun offset packet =>
    ⟨packet, snapshot.lastSeq.getD 0 + 1 + offset - snapshot.packets.length⟩

/-- **A snapshot tells which entries a history held.** -/
theorem History.Sound.numbered_snapshot {history : History} (h : history.Sound) :
    history.snapshot.numbered = history.ring.entries := by
  refine List.ext_getElem? fun offset => ?_
  rw [Snapshot.numbered, snapshot, List.getElem?_mapIdx, List.getElem?_map, List.length_map]
  rcases hentry : history.ring.entries[offset]? with _ | entry
  · rfl
  have hne : history.ring.entries ≠ [] := List.ne_nil_of_mem (List.mem_of_getElem? hentry)
  have hlast := List.getLast?_eq_some_getLast hne
  have hnewest := h.consecutive.getLast_seq hlast
  have hseq := h.consecutive offset entry hentry
  rw [hlast]
  simp only [Option.map_some, Option.getD_some, hnewest, ← hseq, Nat.add_sub_cancel]

end InstantReplay
