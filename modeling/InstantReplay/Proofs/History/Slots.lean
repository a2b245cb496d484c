import InstantReplay.Proofs.History.Ledger
import Mathlib.Data.Nat.ModEq

/-!
# The slots of a ring

`Ring.fromHead` reads the slots of a ring cyclically, from the head on. Read like this they hold
the entries of a ledger, then the packet that waits, and nothing else: with the cursors and the
counters this is `Ring.Stores`. It is kept by dropping the head and by committing, also in the
moment in which a full ring has no free slot. `Ring.Holds` adds that one slot is free.
-/

namespace InstantReplay

/-- What fills the slots from the head on: the entries held, then the packet that waits. -/
def Ledger.occupied (ledger : Ledger) : List NumberedPacket :=
  ledger.held ++ (ledger.staged.map (⟨·, 0⟩)).toList

namespace Ring

variable {ring : Ring} {ledger : Ledger}

/-- What stands `offset` slots after the head. -/
def fromHead (ring : Ring) (offset : Nat) : Option NumberedPacket :=
  ring.entry? ((ring.head + offset) % ring.capacity)

/-- The slots from the head on are those of the ledger, and the counters are its counters. -/
structure Stores (ring : Ring) (ledger : Ledger) : Prop where
  head_lt : ring.head < ring.capacity
  tail_eq : ring.tail = (ring.head + ledger.held.length) % ring.capacity
  occupied_le : ledger.occupied.length ≤ ring.capacity
  fromHead_eq : ∀ offset < ring.capacity, ring.fromHead offset = ledger.occupied[offset]?
  nextSeq_eq : ring.nextSeq = ledger.next
  bytes_eq : ring.bytes = ledger.bytes
  evicted_eq : ring.evicted = ledger.evicted

/-- The ring stores the ledger and has a free slot to write to. -/
structure Holds (ring : Ring) (ledger : Ledger) : Prop extends Stores ring ledger where
  two_le : 2 ≤ ring.capacity
  held_lt : ledger.held.length < ring.capacity

/-! ## Places -/

theorem place_injective (head : Nat) {slots i j : Nat} (hi : i < slots) (hj : j < slots)
    (h : (head + i) % slots = (head + j) % slots) : i = j :=
  (Nat.ModEq.add_left_cancel' head h).eq_of_lt_of_lt hi hj

theorem join_setIfInBounds {slots : Array (Option NumberedPacket)} {index : Nat}
    (h : index < slots.size) (entry : Option NumberedPacket) (j : Nat) :
    ((slots.setIfInBounds index entry)[j]?).join =
      if j = index then entry else (slots[j]?).join := by
  rw [Array.getElem?_setIfInBounds]
  by_cases hj : j = index
  · subst hj
    simp [h]
  · rw [if_neg (Ne.symm hj), if_neg hj]

theorem size_eq_of_tail {held : Nat} (hhead : ring.head < ring.capacity)
    (htail : ring.tail = (ring.head + held) % ring.capacity) (hheld : held < ring.capacity) :
    ring.size = held := by
  rw [size, htail]
  by_cases hwrap : ring.head + held < ring.capacity
  · rw [Nat.mod_eq_of_lt hwrap, show ring.head + held + ring.capacity - ring.head =
      held + ring.capacity by omega, Nat.add_mod_right, Nat.mod_eq_of_lt hheld]
  · have hmod : (ring.head + held) % ring.capacity = ring.head + held - ring.capacity := by
      rw [Nat.mod_eq_sub_mod (Nat.le_of_not_lt hwrap), Nat.mod_eq_of_lt (by omega)]
    rw [hmod, show ring.head + held - ring.capacity + ring.capacity - ring.head = held by omega,
      Nat.mod_eq_of_lt hheld]

theorem head_eq_tail_iff_of_tail {held : Nat} (hhead : ring.head < ring.capacity)
    (htail : ring.tail = (ring.head + held) % ring.capacity) (hheld : held < ring.capacity) :
    ring.head = ring.tail ↔ held = 0 := by
  constructor
  · intro h
    rw [htail] at h
    refine place_injective ring.head hheld (by omega) ?_
    rw [← h, Nat.add_zero, Nat.mod_eq_of_lt hhead]
  · rintro rfl
    rw [htail, Nat.add_zero, Nat.mod_eq_of_lt hhead]

/-! ## The number of slots stays -/

@[simp] theorem capacity_stage (ring : Ring) (packet : Packet) :
    (ring.stage packet).capacity = ring.capacity := by
  simp [stage, capacity]

@[simp] theorem capacity_clear (ring : Ring) : ring.clear.capacity = ring.capacity := by
  simp [clear, capacity]

@[simp] theorem capacity_dropHead (ring : Ring) : ring.dropHead.capacity = ring.capacity := by
  simp [dropHead, capacity]

@[simp] theorem capacity_evictHead (ring : Ring) : ring.evictHead.capacity = ring.capacity := by
  simp [evictHead, capacity, dropHead]

/-! ## Dropping the head -/

/-- **Dropping the head drops the oldest entry of the ledger**, whether or not the ring is full. -/
theorem Stores.dropHead (h : ring.Stores ledger) {oldest : NumberedPacket}
    {rest : List NumberedPacket} (hheld : ledger.held = oldest :: rest) :
    ring.dropHead.Stores { ledger with held := rest } := by
  have hpos : 0 < ring.capacity := Nat.lt_of_le_of_lt (Nat.zero_le _) h.head_lt
  have hhead : ring.entry? ring.head = some oldest := by
    have h0 := h.fromHead_eq 0 hpos
    rw [fromHead, Nat.add_zero, Nat.mod_eq_of_lt h.head_lt] at h0
    simpa [Ledger.occupied, hheld] using h0
  have hlen : ({ ledger with held := rest } : Ledger).occupied.length + 1 ≤ ring.capacity := by
    have := h.occupied_le
    simp only [Ledger.occupied, hheld, List.cons_append, List.length_cons] at this
    exact this
  refine ⟨?_, ?_, ?_, ?_, h.nextSeq_eq, ?_, h.evicted_eq⟩
  · rw [capacity_dropHead]
    exact Nat.mod_lt _ hpos
  · rw [capacity_dropHead]
    show ring.tail = ((ring.head + 1) % ring.capacity + rest.length) % ring.capacity
    rw [h.tail_eq, hheld, List.length_cons, Nat.mod_add_mod]
    congr 1
    omega
  · rw [capacity_dropHead]
    omega
  · intro offset hoffset
    rw [capacity_dropHead] at hoffset
    rw [fromHead, capacity_dropHead]
    show ((ring.slots.setIfInBounds ring.head none)[((ring.head + 1) % ring.capacity + offset) %
      ring.capacity]?).join = _
    rw [join_setIfInBounds h.head_lt, Nat.mod_add_mod,
      show ring.head + 1 + offset = ring.head + (offset + 1) by omega]
    -- the slot of the dropped entry comes last when the ring is read from the new head
    by_cases hlast : offset + 1 = ring.capacity
    · rw [hlast, Nat.add_mod_right, Nat.mod_eq_of_lt h.head_lt, if_pos rfl,
        List.getElem?_eq_none (by omega)]
    · have hne : (ring.head + (offset + 1)) % ring.capacity ≠ ring.head := by
        intro he
        have := place_injective ring.head (i := offset + 1) (j := 0) (by omega) hpos
          (by rw [he, Nat.add_zero, Nat.mod_eq_of_lt h.head_lt])
        omega
      rw [if_neg hne]
      have := h.fromHead_eq (offset + 1) (by omega)
      rw [fromHead, entry?] at this
      rw [this]
      simp [Ledger.occupied, hheld]
  · have hfreed : ring.dropHead.bytes = ring.bytes - oldest.packet.size := by
      simp only [Ring.dropHead, hhead]
    rw [hfreed, h.bytes_eq]
    simp [Ledger.bytes, hheld]

/-- Evicting the head drops the oldest entry of the ledger and counts it. -/
theorem Stores.evictHead (h : ring.Stores ledger) {oldest : NumberedPacket}
    {rest : List NumberedPacket} (hheld : ledger.held = oldest :: rest) :
    ring.evictHead.Stores { ledger with held := rest, evicted := ledger.evicted + 1 } := by
  have hd := h.dropHead hheld
  exact ⟨hd.head_lt, hd.tail_eq, hd.occupied_le, hd.fromHead_eq, hd.nextSeq_eq, hd.bytes_eq,
    congrArg (· + 1) h.evicted_eq⟩

theorem Holds.dropHead (h : ring.Holds ledger) {oldest : NumberedPacket}
    {rest : List NumberedPacket} (hheld : ledger.held = oldest :: rest) :
    ring.dropHead.Holds { ledger with held := rest } := by
  have hlt := h.held_lt
  rw [hheld, List.length_cons] at hlt
  exact ⟨h.toStores.dropHead hheld, by simpa using h.two_le,
    by rw [capacity_dropHead]; exact Nat.lt_of_succ_lt hlt⟩

/-! ## What a ring shows -/

theorem Holds.size_eq (h : ring.Holds ledger) : ring.size = ledger.held.length :=
  size_eq_of_tail h.head_lt h.tail_eq h.held_lt

theorem Holds.head_eq_tail_iff (h : ring.Holds ledger) :
    ring.head = ring.tail ↔ ledger.held = [] := by
  rw [head_eq_tail_iff_of_tail h.head_lt h.tail_eq h.held_lt, List.length_eq_zero_iff]

theorem Holds.fromHead_of_lt (h : ring.Holds ledger) {offset : Nat}
    (hlt : offset < ledger.held.length) : ring.fromHead offset = ledger.held[offset]? := by
  rw [h.fromHead_eq offset (Nat.lt_trans hlt h.held_lt), Ledger.occupied,
    List.getElem?_append_left hlt]

theorem Holds.entry?_tail (h : ring.Holds ledger) :
    ring.entry? ring.tail = ledger.staged.map (⟨·, 0⟩) := by
  have hslot := h.fromHead_eq ledger.held.length h.held_lt
  rw [fromHead, ← h.tail_eq] at hslot
  rw [hslot, Ledger.occupied, List.getElem?_append_right (Nat.le_refl _), Nat.sub_self]
  cases ledger.staged <;> rfl

theorem Holds.oldest?_eq (h : ring.Holds ledger) : ring.oldest? = ledger.held.head? := by
  rw [oldest?]
  by_cases hempty : ledger.held = []
  · rw [if_pos (h.head_eq_tail_iff.2 hempty), hempty, List.head?_nil]
  · rw [if_neg (mt h.head_eq_tail_iff.1 hempty), List.head?_eq_getElem?]
    rw [← h.fromHead_of_lt (List.length_pos_iff.2 hempty), fromHead, Nat.add_zero,
      Nat.mod_eq_of_lt h.head_lt]

theorem Holds.previous_tail (h : ring.Holds ledger) (hheld : 0 < ledger.held.length) :
    ring.previous ring.tail = (ring.head + (ledger.held.length - 1)) % ring.capacity := by
  rw [previous, h.tail_eq, Nat.add_sub_assoc (by have := h.two_le; omega), Nat.mod_add_mod,
    show ring.head + ledger.held.length + (ring.capacity - 1) =
      ring.head + (ledger.held.length - 1) + ring.capacity by have := h.two_le; omega,
    Nat.add_mod_right]

theorem Holds.newest?_eq (h : ring.Holds ledger) : ring.newest? = ledger.held.getLast? := by
  rw [newest?]
  by_cases hempty : ledger.held = []
  · rw [if_pos (h.head_eq_tail_iff.2 hempty), hempty, List.getLast?_nil]
  · have hpos := List.length_pos_iff.2 hempty
    rw [if_neg (mt h.head_eq_tail_iff.1 hempty), h.previous_tail hpos, List.getLast?_eq_getElem?]
    exact h.fromHead_of_lt (by omega)

theorem next_place (ring : Ring) (offset : Nat) :
    ring.next ((ring.head + offset) % ring.capacity) =
      (ring.head + (offset + 1)) % ring.capacity := by
  rw [next, Nat.mod_add_mod, Nat.add_assoc]

theorem Holds.place_eq_tail_iff (h : ring.Holds ledger) {offset : Nat}
    (hoffset : offset < ring.capacity) :
    (ring.head + offset) % ring.capacity = ring.tail ↔ offset = ledger.held.length := by
  rw [h.tail_eq]
  exact ⟨place_injective ring.head hoffset h.held_lt, fun he => by rw [he]⟩

theorem Holds.entriesFrom_eq (h : ring.Holds ledger) (rounds offset : Nat)
    (hoffset : offset ≤ ledger.held.length) (hrounds : ledger.held.length ≤ offset + rounds) :
    ring.entriesFrom rounds ((ring.head + offset) % ring.capacity) = ledger.held.drop offset := by
  induction rounds generalizing offset with
  | zero =>
    rw [entriesFrom, List.drop_of_length_le (by omega)]
  | succ rounds ih =>
    rw [entriesFrom]
    by_cases hend : offset = ledger.held.length
    · rw [if_pos ((h.place_eq_tail_iff (by have := h.held_lt; omega)).2 hend),
        List.drop_of_length_le (by omega)]
    · have hlt : offset < ledger.held.length := by omega
      have hslot := h.fromHead_of_lt hlt
      rw [fromHead, List.getElem?_eq_getElem hlt] at hslot
      rw [if_neg (mt (h.place_eq_tail_iff (by have := h.held_lt; omega)).1 hend), hslot,
        next_place, ih (offset + 1) hlt (by omega), List.drop_eq_getElem_cons hlt]
      rfl

/-- **A walk over the ring finds the entries of the ledger**, oldest first. -/
theorem Holds.entries_eq (h : ring.Holds ledger) : ring.entries = ledger.held := by
  have := h.entriesFrom_eq ring.capacity 0 (Nat.zero_le _) (by have := h.held_lt; omega)
  rwa [Nat.add_zero, Nat.mod_eq_of_lt h.head_lt, List.drop_zero] at this

/-! ## Filling and emptying -/

theorem holds_empty {slots : Nat} (hslots : 2 ≤ slots) : (empty slots).Holds {} where
  head_lt := by simpa [empty, capacity] using (by omega : 0 < slots)
  tail_eq := by simp [empty]
  occupied_le := Nat.zero_le _
  fromHead_eq offset hoffset := by
    simp only [empty, capacity, Array.size_replicate] at hoffset
    simp only [fromHead, entry?, empty, capacity, Array.getElem?_replicate]
    split <;> rfl
  nextSeq_eq := rfl
  bytes_eq := rfl
  evicted_eq := rfl
  two_le := by simpa [empty, capacity] using hslots
  held_lt := by simpa [empty, capacity] using (by omega : 0 < slots)

theorem Holds.clear (h : ring.Holds ledger) : ring.clear.Holds ledger.clear := by
  have hempty := holds_empty h.two_le
  exact ⟨⟨hempty.head_lt, hempty.tail_eq, Nat.zero_le _, hempty.fromHead_eq, h.nextSeq_eq, rfl,
    h.evicted_eq⟩, hempty.two_le, hempty.held_lt⟩

theorem Holds.tail_lt (h : ring.Holds ledger) : ring.tail < ring.slots.size := by
  rw [h.tail_eq]
  exact Nat.mod_lt _ (by have := h.two_le; omega)

/-- An entry put into the write slot stands behind the entries held. -/
theorem Holds.join_set_tail (h : ring.Holds ledger) (entry : NumberedPacket) {offset : Nat}
    (hoffset : offset < ring.capacity) :
    ((ring.slots.setIfInBounds ring.tail (some entry))[(ring.head + offset) %
      ring.capacity]?).join = (ledger.held ++ [entry])[offset]? := by
  rw [join_setIfInBounds h.tail_lt]
  rcases Nat.lt_trichotomy offset ledger.held.length with hlt | rfl | hgt
  · rw [if_neg (mt (h.place_eq_tail_iff hoffset).1 (Nat.ne_of_lt hlt)),
      List.getElem?_append_left hlt]
    exact h.fromHead_of_lt hlt
  · rw [if_pos ((h.place_eq_tail_iff hoffset).2 rfl), List.getElem?_concat_length]
  · have hfree := h.fromHead_eq offset hoffset
    rw [if_neg (mt (h.place_eq_tail_iff hoffset).1 (Nat.ne_of_gt hgt)),
      List.getElem?_eq_none (by rw [List.length_append, List.length_singleton]; exact hgt)]
    refine hfree.trans (List.getElem?_eq_none ?_)
    rw [Ledger.occupied]
    cases ledger.staged <;> simp <;> omega

theorem Holds.stage (h : ring.Holds ledger) (packet : Packet) :
    (ring.stage packet).Holds (ledger.stage packet) := by
  refine ⟨⟨?_, ?_, ?_, ?_, h.nextSeq_eq, h.bytes_eq, h.evicted_eq⟩, ?_, ?_⟩
  · rw [capacity_stage]
    exact h.head_lt
  · rw [capacity_stage]
    exact h.tail_eq
  · rw [capacity_stage]
    show (ledger.held ++ [_]).length ≤ ring.capacity
    rw [List.length_append, List.length_singleton]
    exact h.held_lt
  · intro offset hoffset
    rw [capacity_stage] at hoffset
    rw [fromHead, capacity_stage]
    exact h.join_set_tail ⟨packet, 0⟩ hoffset
  · rw [capacity_stage]
    exact h.two_le
  · rw [capacity_stage]
    exact h.held_lt

end Ring

end InstantReplay
