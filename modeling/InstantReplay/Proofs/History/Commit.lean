import InstantReplay.Proofs.History.Slots

/-!
# Committing and discarding

The two loops of a ring, over slots that are given up one by one from the head, are recursions
over the entries of its ledger: `evictOlder` is `Ledger.shed`, and `dropThrough` is `dropWhile`.
With them `Ring.commit` is `Ledger.commit`, and breaks down when the entries held then say so
(`History.outcome`).
-/

namespace InstantReplay

namespace Ledger

theorem length_grown (ledger : Ledger) (packet : Packet) :
    (ledger.grown packet).length = ledger.held.length + 1 := by
  rw [grown, List.length_append, List.length_singleton]

theorem getLast?_grown (ledger : Ledger) (packet : Packet) :
    (ledger.grown packet).getLast? = some ⟨packet, ledger.next⟩ :=
  List.getLast?_concat

theorem commit_fst (late : Packet → Packet → Bool) (slots : Nat) (ledger : Ledger) :
    (ledger.commit late slots).1 = ledger.staged.isSome := by
  rw [commit]
  cases ledger.staged <;> rfl

theorem shed_suffix (late : Packet → Bool) (held : List NumberedPacket) :
    shed late held <:+ held := by
  fun_induction shed late held with
  | case1 oldest second rest _ ih => exact ih.trans (List.suffix_cons oldest _)
  | case2 => exact List.suffix_refl _
  | case3 => exact List.suffix_refl _

theorem length_shed_le (late : Packet → Bool) (held : List NumberedPacket) :
    (shed late held).length ≤ held.length :=
  (shed_suffix late held).length_le

/-- The newest entry is never shed. -/
theorem getLast?_shed (late : Packet → Bool) (held : List NumberedPacket) :
    (shed late held).getLast? = held.getLast? := by
  fun_induction shed late held with
  | case1 oldest second rest _ ih => rw [ih, List.getLast?_cons_cons]
  | case2 => rfl
  | case3 => rfl

/-- Shedding ends at a head that is not late, or at the last entry. -/
theorem oldest_of_shed {late : Packet → Bool} {held rest : List NumberedPacket}
    {oldest : NumberedPacket} (h : shed late held = oldest :: rest) :
    rest = [] ∨ late oldest.packet = false := by
  fun_induction shed late held with
  | case1 _ _ _ _ ih => exact ih h
  | case2 head second rest hearly =>
    obtain ⟨rfl, rfl⟩ := List.cons.inj h
    exact .inr (Bool.eq_false_of_not_eq_true hearly)
  | case3 held hheld =>
    rcases rest with _ | ⟨second, rest⟩
    · exact .inl rfl
    · exact absurd h (hheld oldest second rest)

/-- Shedding stops before entries none of which is late. -/
theorem suffix_shed {late : Packet → Bool} {kept held : List NumberedPacket} (h : kept <:+ held)
    (hearly : ∀ entry ∈ kept, late entry.packet = false) : kept <:+ shed late held := by
  fun_induction shed late held with
  | case1 oldest second rest hlate ih =>
    rcases List.suffix_cons_iff.1 h with rfl | hrest
    · simp [hearly oldest (by simp)] at hlate
    · exact ih hrest
  | case2 => exact h
  | case3 => exact h

theorem shed_congr {late late' : Packet → Bool} {held : List NumberedPacket}
    (h : ∀ entry ∈ held, late entry.packet = late' entry.packet) :
    shed late held = shed late' held := by
  fun_induction shed late held with
  | case1 oldest second rest hlate ih =>
    rw [shed, if_pos ((h oldest (by simp)).symm.trans hlate)]
    exact ih fun entry hentry => h entry (List.mem_cons_of_mem _ hentry)
  | case2 oldest second rest hlate =>
    rw [shed, if_neg fun hlate' => hlate ((h oldest (by simp)).trans hlate')]
  | case3 held hheld =>
    rw [shed.eq_2 _ _ hheld]

theorem makeRoom_suffix (slots : Nat) (held : List NumberedPacket) :
    makeRoom slots held <:+ held := by
  rw [makeRoom]
  split
  · exact List.tail_suffix held
  · exact List.suffix_refl held

/-- Making room takes nothing from entries that leave a slot free. -/
theorem suffix_makeRoom {slots : Nat} {kept held : List NumberedPacket} (h : kept <:+ held)
    (hlength : kept.length < slots) : kept <:+ makeRoom slots held := by
  rw [makeRoom]
  split
  · rename_i hfull
    rcases held with _ | ⟨oldest, rest⟩
    · exact h
    · rcases List.suffix_cons_iff.1 h with rfl | hrest
      · omega
      · exact hrest
  · exact h

/-- The newest entry stays when there are at least two slots. -/
theorem getLast?_makeRoom {slots : Nat} (hslots : 2 ≤ slots) (held : List NumberedPacket) :
    (makeRoom slots held).getLast? = held.getLast? := by
  rw [makeRoom]
  split
  · rename_i hfull
    rcases held with _ | ⟨oldest, _ | ⟨second, rest⟩⟩
    · rfl
    · simp at hfull
      omega
    · rw [List.tail_cons, List.getLast?_cons_cons]
  · rfl

end Ledger

namespace Ring

variable {ring : Ring} {ledger : Ledger}

/-! ## The eviction loop -/

theorem Holds.evictHead (h : ring.Holds ledger) {oldest : NumberedPacket}
    {rest : List NumberedPacket} (hheld : ledger.held = oldest :: rest) :
    ring.evictHead.Holds { ledger with held := rest, evicted := ledger.evicted + 1 } := by
  have hlt := h.held_lt
  rw [hheld, List.length_cons] at hlt
  exact ⟨h.toStores.evictHead hheld, by rw [capacity_evictHead]; exact h.two_le,
    by rw [capacity_evictHead]; exact Nat.lt_of_succ_lt hlt⟩

@[simp] theorem capacity_evictOlder (window newest : Int64) (rounds : Nat) (ring : Ring) :
    (evictOlder window newest rounds ring).2.capacity = ring.capacity := by
  induction rounds generalizing ring with
  | zero => rfl
  | succ rounds ih =>
    rw [evictOlder]
    split
    · split
      · split
        · split
          · rw [ih, capacity_evictHead]
          · rfl
        · rfl
      · rfl
    · rfl

/-- A round of the eviction loop with at least two entries held. -/
theorem Holds.evictOlder_succ (h : ring.Holds ledger) {oldest second : NumberedPacket}
    {rest : List NumberedPacket} (hheld : ledger.held = oldest :: second :: rest) (window : Int64)
    (newest : Packet) (rounds : Nat) :
    evictOlder window newest.pts (rounds + 1) ring =
      if History.late window newest oldest.packet then
        evictOlder window newest.pts rounds ring.evictHead
      else (History.outcome newest (oldest :: second :: rest), ring) := by
  have hmore : (oldest :: second :: rest).length > 1 := Nat.succ_lt_succ (Nat.zero_lt_succ _)
  rw [evictOlder, h.oldest?_eq, h.size_eq, hheld, List.head?_cons, History.late, History.outcome]
  dsimp only
  rw [if_pos hmore]
  rcases minus? newest.pts oldest.packet.pts with _ | age
  · rfl
  · simp only [Option.any_some, decide_eq_true_eq, Option.isSome_some, if_true]

/-- **The eviction loop sheds the late entries**, and counts them. It needs no more rounds than
there are entries, and breaks down as the entries left say. -/
theorem Holds.evictOlder (h : ring.Holds ledger) (window : Int64) (newest : Packet) {rounds : Nat}
    (hrounds : ledger.held.length ≤ rounds) :
    (evictOlder window newest.pts rounds ring).1 =
        History.outcome newest (Ledger.shed (History.late window newest) ledger.held) ∧
      (evictOlder window newest.pts rounds ring).2.Holds
        { ledger with
          held := Ledger.shed (History.late window newest) ledger.held
          evicted := ledger.evicted + (ledger.held.length -
            (Ledger.shed (History.late window newest) ledger.held).length) } := by
  induction rounds generalizing ring ledger with
  | zero =>
    have hnil : ledger.held = [] := List.length_eq_zero_iff.1 (Nat.le_zero.1 hrounds)
    simpa [Ring.evictOlder, hnil, Ledger.shed, History.outcome] using hnil ▸ h
  | succ rounds ih =>
    rcases hheld : ledger.held with _ | ⟨oldest, _ | ⟨second, rest⟩⟩
    · simpa [Ring.evictOlder, h.oldest?_eq, hheld, Ledger.shed, History.outcome] using hheld ▸ h
    · simpa [Ring.evictOlder, h.oldest?_eq, h.size_eq, hheld, Ledger.shed, History.outcome]
        using hheld ▸ h
    · rw [h.evictOlder_succ hheld, Ledger.shed]
      by_cases hlate : History.late window newest oldest.packet
      · obtain ⟨houtcome, hnext⟩ :=
          ih (h.evictHead hheld) (by rw [hheld] at hrounds; simpa using hrounds)
        have hle := Ledger.length_shed_le (History.late window newest) (second :: rest)
        have hcount : ledger.evicted + 1 + ((second :: rest).length -
              (Ledger.shed (History.late window newest) (second :: rest)).length) =
            ledger.evicted + ((oldest :: second :: rest).length -
              (Ledger.shed (History.late window newest) (second :: rest)).length) := by
          simp only [List.length_cons] at hle ⊢
          omega
        dsimp only at hnext
        rw [hcount] at hnext
        rw [if_pos hlate, if_pos hlate]
        exact ⟨houtcome, hnext⟩
      · rw [if_neg hlate, if_neg hlate, Nat.sub_self]
        exact ⟨rfl, hheld ▸ h⟩

/-! ## Committing -/

/-- A ring whose waiting packet has been numbered and taken in, before anything is evicted. -/
def taken (ring : Ring) (packet : Packet) : Ring :=
  { ring with
    slots := ring.slots.setIfInBounds ring.tail (some ⟨packet, ring.nextSeq⟩)
    nextSeq := ring.nextSeq + 1
    bytes := ring.bytes + packet.size
    tail := ring.next ring.tail }

theorem capacity_taken (ring : Ring) (packet : Packet) :
    (ring.taken packet).capacity = ring.capacity := by
  simp [taken, capacity]

theorem Holds.taken (h : ring.Holds ledger) (packet : Packet) :
    (ring.taken packet).Stores
      { ledger with
        held := ledger.grown packet
        staged := none
        next := ledger.next + 1 } := by
  refine ⟨?_, ?_, ?_, ?_, congrArg (· + 1) h.nextSeq_eq, ?_, h.evicted_eq⟩
  · rw [capacity_taken]
    exact h.head_lt
  · rw [capacity_taken]
    show ring.next ring.tail = _
    rw [h.tail_eq, next_place, Ledger.length_grown]
    rfl
  · rw [capacity_taken]
    simpa [Ledger.occupied, Ledger.length_grown] using Nat.succ_le_of_lt h.held_lt
  · intro offset hoffset
    rw [capacity_taken] at hoffset
    rw [fromHead, capacity_taken]
    show _ = (ledger.grown packet ++ [])[offset]?
    rw [List.append_nil, Ledger.grown, ← h.nextSeq_eq]
    exact h.join_set_tail ⟨packet, ring.nextSeq⟩ hoffset
  · show ring.bytes + packet.size = _
    rw [h.bytes_eq]
    simp [Ledger.bytes, Ledger.grown]

/-- A taken ring has no free slot exactly if the ledger has an entry for every slot. -/
theorem Holds.taken_full_iff (h : ring.Holds ledger) (packet : Packet) :
    (ring.taken packet).tail = (ring.taken packet).head ↔
      ledger.held.length + 1 = ring.capacity := by
  have hlt := h.held_lt
  show ring.next ring.tail = ring.head ↔ _
  rw [h.tail_eq, next_place]
  constructor
  · intro hfull
    by_contra hne
    have hzero : ledger.held.length + 1 = 0 := by
      refine place_injective ring.head (j := 0) (by omega) (by omega : 0 < ring.capacity) ?_
      rw [hfull, Nat.add_zero, Nat.mod_eq_of_lt h.head_lt]
    omega
  · intro hfull
    rw [hfull, Nat.add_mod_right, Nat.mod_eq_of_lt h.head_lt]

/-- A ring after the oldest entry has made room, if there was none. -/
theorem Holds.roomy (h : ring.Holds ledger) (packet : Packet) :
    (if (ring.taken packet).tail = (ring.taken packet).head then (ring.taken packet).evictHead
      else ring.taken packet).Holds
      { held := Ledger.makeRoom ring.capacity (ledger.grown packet)
        staged := none
        next := ledger.next + 1
        evicted := ledger.evicted + ((ledger.grown packet).length -
          (Ledger.makeRoom ring.capacity (ledger.grown packet)).length) } := by
  have hlt := h.held_lt
  have hstores := h.taken packet
  have hgrown := ledger.length_grown packet
  by_cases hfull : ledger.held.length + 1 = ring.capacity
  · rw [if_pos ((h.taken_full_iff packet).2 hfull), Ledger.makeRoom, if_pos (hgrown.trans hfull)]
    rcases hcons : ledger.grown packet with _ | ⟨oldest, rest⟩
    · simp [Ledger.grown] at hcons
    · have hlen : rest.length = ledger.held.length := by
        rw [hcons, List.length_cons] at hgrown
        omega
      have hevict := hstores.evictHead hcons
      rw [List.tail_cons, List.length_cons, Nat.add_sub_cancel_left]
      refine ⟨hevict, ?_, ?_⟩
      · rw [capacity_evictHead, capacity_taken]
        exact h.two_le
      · rw [capacity_evictHead, capacity_taken, hlen]
        exact hlt
  · rw [if_neg (mt (h.taken_full_iff packet).1 hfull), Ledger.makeRoom,
      if_neg fun hfull' => hfull (hgrown.symm.trans hfull'), Nat.sub_self]
    refine ⟨hstores, ?_, ?_⟩
    · rw [capacity_taken]
      exact h.two_le
    · rw [capacity_taken, hgrown]
      omega

/-- Committing, with the waiting packet known. -/
theorem commit_of_staged {entry : NumberedPacket} (h : ring.entry? ring.tail = some entry)
    (window : Int64) :
    ring.commit window =
      let roomy := if (ring.taken entry.packet).tail = (ring.taken entry.packet).head then
        (ring.taken entry.packet).evictHead else ring.taken entry.packet
      match roomy.newest? with
      | some newest =>
        let (outcome, later) := Ring.evictOlder window newest.packet.pts roomy.capacity roomy
        (outcome.map fun _ => true, later)
      | none => (.ok true, roomy) := by
  rw [commit, h]
  rfl

@[simp] theorem capacity_commit (window : Int64) (ring : Ring) :
    (ring.commit window).2.capacity = ring.capacity := by
  rcases hentry : ring.entry? ring.tail with _ | entry
  · rw [commit, hentry]
  · have hroomy : (if (ring.taken entry.packet).tail = (ring.taken entry.packet).head then
        (ring.taken entry.packet).evictHead else ring.taken entry.packet).capacity =
          ring.capacity := by
      split <;> simp [capacity_taken]
    rw [commit_of_staged hentry]
    dsimp only
    split
    · rw [capacity_evictOlder, hroomy]
    · exact hroomy

/-- **Committing is the ledger's commit**, with the window as the rule for what is late. It breaks
down as the entries held then say. -/
theorem Holds.commit (h : ring.Holds ledger) (window : Int64) :
    (ring.commit window).1 =
        (ledger.outcome (History.late window) ring.capacity).map (fun _ => ledger.staged.isSome) ∧
      (ring.commit window).2.Holds (ledger.commit (History.late window) ring.capacity).2 := by
  have htail := h.entry?_tail
  rcases hstaged : ledger.staged with _ | packet
  · rw [hstaged] at htail
    rw [Ring.commit, htail, Ledger.outcome, Ledger.commit, hstaged]
    exact ⟨rfl, h⟩
  · rw [hstaged] at htail
    have hroomy := h.roomy packet
    have hnewest := hroomy.newest?_eq
    rw [Ledger.getLast?_makeRoom h.two_le, Ledger.getLast?_grown] at hnewest
    obtain ⟨houtcome, hkept⟩ := hroomy.evictOlder window packet (Nat.le_of_lt hroomy.held_lt)
    rw [commit_of_staged htail, Ledger.outcome, Ledger.commit, hstaged]
    simp only [hnewest]
    refine ⟨congrArg (Except.map fun _ => true) houtcome, ?_⟩
    -- the two evictions add up to what the commit takes from the front
    have hshed := Ledger.length_shed_le (History.late window packet)
      (Ledger.makeRoom ring.capacity (ledger.grown packet))
    have hroom := (Ledger.makeRoom_suffix ring.capacity (ledger.grown packet)).length_le
    have hcount : ∀ a b c d : Nat, d ≤ c → c ≤ b → a + (b - c) + (c - d) = a + (b - d) := by omega
    rw [hcount _ _ _ _ hshed hroom] at hkept
    exact hkept

/-! ## Discarding -/

@[simp] theorem capacity_dropThrough (seq rounds : Nat) (ring : Ring) :
    (dropThrough seq rounds ring).2.capacity = ring.capacity := by
  induction rounds generalizing ring with
  | zero => rfl
  | succ rounds ih =>
    rw [dropThrough]
    split
    · split
      · rw [ih, capacity_dropHead]
      · rfl
    · rfl

/-- **The discarding loop drops the longest prefix with numbers up to `seq`**, and counts it. -/
theorem Holds.dropThrough (h : ring.Holds ledger) (seq : Nat) {rounds : Nat}
    (hrounds : ledger.held.length ≤ rounds) :
    (dropThrough seq rounds ring).1 = (ledger.discardThrough seq).1 ∧
      (dropThrough seq rounds ring).2.Holds (ledger.discardThrough seq).2 := by
  induction rounds generalizing ring ledger with
  | zero =>
    have hnil : ledger.held = [] := List.length_eq_zero_iff.1 (Nat.le_zero.1 hrounds)
    simpa [Ring.dropThrough, Ledger.discardThrough, hnil] using hnil ▸ h
  | succ rounds ih =>
    rw [Ring.dropThrough, h.oldest?_eq]
    rcases hheld : ledger.held with _ | ⟨oldest, rest⟩
    · simpa [Ledger.discardThrough, hheld] using hheld ▸ h
    · by_cases hseq : oldest.seq ≤ seq
      · have hnext := ih (h.dropHead hheld) (by rw [hheld] at hrounds; simpa using hrounds)
        simpa [Ledger.discardThrough, hheld, hseq] using hnext
      · simpa [Ledger.discardThrough, hheld, hseq] using hheld ▸ h

end Ring

end InstantReplay
