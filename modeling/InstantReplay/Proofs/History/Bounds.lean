import InstantReplay.Proofs.History.Numbers

/-!
# What a ring never does

`Ring.Strict` has the operations of a ring with all that could go wrong with its slots: an index that
is none of a slot, more bytes taken from the count than there are, a remainder by zero, a loop that
goes on after as many rounds as there can be packets. Each gives nothing then. A ring that holds a
ledger does the same with them as without, also where an age overflows
(`History.Keeps.strictAnswer_eq`).

`Ring.WellFormed` says which slots of a ring are taken, by what, and how they add up. Calls keep it
from the empty ring on, so that nothing ever goes wrong (`History.wellFormed_after`).
-/

namespace InstantReplay

/-- Goes round until `turn` gives a result and not a further state: how often, and the result. There
is none if a turn fails, or if there is another one to come after `limit` rounds. -/
def goRounds {σ ρ : Type} (turn : σ → Option (ρ ⊕ σ)) (limit : Nat) (state : σ) :
    Option (Nat × ρ) :=
  match turn state, limit with
  | some (.inl result), _ => some (0, result)
  | some (.inr later), limit + 1 =>
    (goRounds turn limit later).map fun (count, result) => (count + 1, result)
  | _, _ => none

section GoRounds

variable {σ ρ : Type} {turn : σ → Option (ρ ⊕ σ)} {state later : σ} {result : ρ}

theorem goRounds_of_ended (h : turn state = some (.inl result)) (limit : Nat) :
    goRounds turn limit state = some (0, result) := by
  rw [goRounds.eq_def, h]

theorem goRounds_succ_of_turn (h : turn state = some (.inr later)) (limit : Nat) :
    goRounds turn (limit + 1) state =
      (goRounds turn limit later).map fun (count, result) => (count + 1, result) := by
  rw [goRounds.eq_def, h]

end GoRounds

/-! ## Strict operations -/

namespace Ring.Strict

/-- A difference, unless it is negative. -/
def minus (a b : Nat) : Option Nat := if b ≤ a then some (a - b) else none

/-- A remainder, unless it is one by zero. -/
def modulo (a b : Nat) : Option Nat := if b = 0 then none else some (a % b)

/-- What stands in a slot, if there is one of this index. -/
def slot (ring : Ring) (index : Nat) : Option (Option NumberedPacket) := ring.slots[index]?

/-- Changes a slot, if there is one of this index. -/
def put (ring : Ring) (index : Nat) (entry : Option NumberedPacket) : Option Ring :=
  if index < ring.capacity then
    some { ring with slots := ring.slots.setIfInBounds index entry }
  else none

def next (ring : Ring) (index : Nat) : Option Nat := modulo (index + 1) ring.capacity

def size (ring : Ring) : Option Nat := do
  modulo (← minus (ring.tail + ring.capacity) ring.head) ring.capacity

def oldest (ring : Ring) : Option (Option NumberedPacket) :=
  if ring.head = ring.tail then some none else slot ring ring.head

def newest (ring : Ring) : Option (Option NumberedPacket) :=
  if ring.head = ring.tail then some none
  else do slot ring (← modulo (← minus (ring.tail + ring.capacity) 1) ring.capacity)

def stage (ring : Ring) (packet : Packet) : Option Ring := put ring ring.tail (some ⟨packet, 0⟩)

def dropHead (ring : Ring) : Option Ring := do
  let freed := match ← slot ring ring.head with
    | some entry => entry.packet.size
    | none => 0
  let bytes ← minus ring.bytes freed
  let head ← next ring ring.head
  return { ← put ring ring.head none with head := head, bytes := bytes }

def evictHead (ring : Ring) : Option Ring := do
  let ring ← dropHead ring
  return { ring with evicted := ring.evicted + 1 }

/-- A round of the loop over packets that are too old. -/
def evictTurn (window newest : Int64) (ring : Ring) :
    Option ((Except Overflow Unit × Ring) ⊕ Ring) := do
  if (← size ring) > 1 then
    match ← oldest ring with
    | some entry =>
      match minus? newest entry.packet.pts with
      | some age => if age > window then return .inr (← evictHead ring) else return .inl (.ok (), ring)
      | none => return .inl (.error .subtraction, ring)
    | none => return .inl (.ok (), ring)
  else return .inl (.ok (), ring)

/-- Numbers the waiting packet and takes it in. -/
def take (ring : Ring) (entry : NumberedPacket) : Option Ring := do
  let numbered ← put ring ring.tail (some { entry with seq := ring.nextSeq })
  return { numbered with
    nextSeq := ring.nextSeq + 1
    bytes := ring.bytes + entry.packet.size
    tail := ← next ring ring.tail }

/-- A full ring gives up its oldest packet. -/
def makeRoom (ring : Ring) : Option Ring :=
  if ring.tail = ring.head then evictHead ring else some ring

/-- Gives up the packets that are too old. -/
def shed (window : Int64) (ring : Ring) : Option (Except Overflow Unit × Ring) := do
  match ← newest ring with
  | some newest =>
    let (_, result) ← goRounds (evictTurn window newest.packet.pts) (ring.capacity - 1) ring
    return result
  | none => return (.ok (), ring)

def commit (window : Int64) (ring : Ring) : Option (Except Overflow Bool × Ring) := do
  match ← slot ring ring.tail with
  | none => return (.ok false, ring)
  | some entry =>
    let (outcome, last) ← shed window (← makeRoom (← take ring entry))
    return (outcome.map fun _ => true, last)

/-- A round of the loop over packets that are discarded. -/
def dropTurn (seq : Nat) (ring : Ring) : Option (Ring ⊕ Ring) := do
  match ← oldest ring with
  | some entry => if entry.seq ≤ seq then return .inr (← dropHead ring) else return .inl ring
  | none => return .inl ring

def dropThrough (seq : Nat) (ring : Ring) : Option (Nat × Ring) :=
  goRounds (dropTurn seq) (ring.capacity - 1) ring

/-- A round of the loop over packets that are copied: the slot to look at, and the entries so far. -/
def visitTurn (ring : Ring) (visit : Nat × List NumberedPacket) :
    Option (List NumberedPacket ⊕ (Nat × List NumberedPacket)) := do
  if visit.1 = ring.tail then return .inl visit.2
  let entry ← slot ring visit.1
  return .inr (← next ring visit.1, visit.2 ++ entry.toList)

/-- The number of slots that are visited from the head on, and the entries in them. -/
def visit (ring : Ring) : Option (Nat × List NumberedPacket) :=
  goRounds (visitTurn ring) (ring.capacity - 1) (ring.head, [])

end Ring.Strict

/-- `History.answer` with strict operations. -/
def History.strictAnswer (history : History) : HistoryCall → Option (HistoryAnswer × History)
  | .append packet => do
    return (.done, { history with ring := ← Ring.Strict.stage history.ring packet })
  | .rotate => do
    let (outcome, ring) ← Ring.Strict.commit history.window history.ring
    return (.ofExcept .committed outcome, { history with ring := ring })
  | .push packet => do
    let (outcome, ring) ←
      Ring.Strict.commit history.window (← Ring.Strict.stage history.ring packet)
    return (.ofExcept (fun _ => .done) outcome, { history with ring := ring })
  | .clear => some (.done, history.clear)
  | .discardThrough seq => do
    let (dropped, ring) ← Ring.Strict.dropThrough seq history.ring
    return (.number dropped, { history with ring := ring })
  | .snapshot => do
    let _ ← Ring.Strict.size history.ring
    let (_, entries) ← Ring.Strict.visit history.ring
    return (.copied ⟨history.kind, entries.map (·.packet), entries.getLast?.map (·.seq)⟩, history)
  | .size => do return (.number (← Ring.Strict.size history.ring), history)
  | .bytes => some (.number history.bytes, history)

namespace Ring

variable {ring : Ring} {ledger : Ledger} {oldest : NumberedPacket} {rest : List NumberedPacket}

/-! ## Strict operations on a ring that stores a ledger -/

theorem Strict.slot_eq {index : Nat} (h : index < ring.capacity) :
    Strict.slot ring index = some (ring.entry? index) := by
  rw [Strict.slot, entry?, Array.getElem?_eq_getElem h, Option.join_some]

theorem Strict.put_eq {index : Nat} (h : index < ring.capacity) (entry : Option NumberedPacket) :
    Strict.put ring index entry =
      some { ring with slots := ring.slots.setIfInBounds index entry } :=
  if_pos h

theorem Strict.next_eq (h : 0 < ring.capacity) (index : Nat) :
    Strict.next ring index = some (ring.next index) :=
  if_neg (Nat.ne_of_gt h)

theorem Stores.capacity_pos (h : ring.Stores ledger) : 0 < ring.capacity :=
  Nat.lt_of_le_of_lt (Nat.zero_le _) h.head_lt

theorem Stores.entry?_head (h : ring.Stores ledger) (hheld : ledger.held = oldest :: rest) :
    ring.entry? ring.head = some oldest := by
  have hfirst := h.fromHead_eq 0 h.capacity_pos
  rw [fromHead, Nat.add_zero, Nat.mod_eq_of_lt h.head_lt] at hfirst
  simpa [Ledger.occupied, hheld] using hfirst

/-- The count of bytes is never less than what is taken from it. -/
theorem Stores.strict_dropHead (h : ring.Stores ledger) (hheld : ledger.held = oldest :: rest) :
    Strict.dropHead ring = some ring.dropHead := by
  have hhead := h.entry?_head hheld
  have hle : oldest.packet.size ≤ ring.bytes := by
    rw [h.bytes_eq, Ledger.bytes, hheld, List.map_cons, List.sum_cons]
    exact Nat.le_add_right _ _
  rw [Strict.dropHead, Strict.slot_eq h.head_lt, hhead]
  simp only [Option.bind_eq_bind, Option.bind_some, Strict.minus, if_pos hle,
    Strict.next_eq h.capacity_pos, Strict.put_eq h.head_lt, Ring.dropHead, hhead]
  rfl

theorem Stores.strict_evictHead (h : ring.Stores ledger) (hheld : ledger.held = oldest :: rest) :
    Strict.evictHead ring = some ring.evictHead := by
  rw [Strict.evictHead, h.strict_dropHead hheld]
  rfl

theorem Holds.strict_size (h : ring.Holds ledger) : Strict.size ring = some ring.size := by
  have hle : ring.head ≤ ring.tail + ring.capacity :=
    Nat.le_trans (Nat.le_of_lt h.head_lt) (Nat.le_add_left _ _)
  have hpos : ring.capacity ≠ 0 := Nat.ne_of_gt h.capacity_pos
  rw [Strict.size, Strict.minus, if_pos hle, Option.bind_eq_bind, Option.bind_some, Strict.modulo,
    if_neg hpos, size]

theorem Holds.strict_oldest (h : ring.Holds ledger) : Strict.oldest ring = some ring.oldest? := by
  rw [Strict.oldest, oldest?, Strict.slot_eq h.head_lt]
  split <;> rfl

theorem Holds.strict_newest (h : ring.Holds ledger) : Strict.newest ring = some ring.newest? := by
  have hle : 1 ≤ ring.tail + ring.capacity :=
    Nat.le_trans h.capacity_pos (Nat.le_add_left _ _)
  have hlt : ring.previous ring.tail < ring.capacity := Nat.mod_lt _ h.capacity_pos
  have hplace : Strict.modulo (ring.tail + ring.capacity - 1) ring.capacity =
      some (ring.previous ring.tail) := if_neg (Nat.ne_of_gt h.capacity_pos)
  rw [Strict.newest, newest?]
  split
  · rfl
  · rw [Strict.minus, if_pos hle, Option.bind_eq_bind, Option.bind_some, hplace, Option.bind_some,
      Strict.slot_eq hlt]

theorem Holds.strict_stage (h : ring.Holds ledger) (packet : Packet) :
    Strict.stage ring packet = some (ring.stage packet) :=
  Strict.put_eq h.tail_lt _

/-! ## The loops -/

variable {window newest : Int64} {seq limit rounds : Nat}

theorem Holds.evictTurn_of_short (h : ring.Holds ledger) (hheld : ledger.held.length ≤ 1) :
    Strict.evictTurn window newest ring = some (.inl (.ok (), ring)) := by
  rw [Strict.evictTurn, h.strict_size, Option.bind_eq_bind, Option.bind_some, h.size_eq,
    if_neg (Nat.not_lt.2 hheld)]
  rfl

theorem Holds.evictTurn_of_long (h : ring.Holds ledger) {second : NumberedPacket}
    (hheld : ledger.held = oldest :: second :: rest) (window : Int64) (newest : Packet) :
    Strict.evictTurn window newest.pts ring =
      some (if History.late window newest oldest.packet then .inr ring.evictHead
        else .inl (History.outcome newest (oldest :: second :: rest), ring)) := by
  have hsize : ring.size > 1 := by
    rw [h.size_eq, hheld, List.length_cons, List.length_cons]
    omega
  rw [Strict.evictTurn, h.strict_size, Option.bind_eq_bind, Option.bind_some, if_pos hsize,
    h.strict_oldest, h.oldest?_eq, hheld, List.head?_cons, Option.bind_eq_bind, Option.bind_some,
    History.late, History.outcome]
  dsimp only
  rw [h.strict_evictHead hheld]
  rcases minus? newest.pts oldest.packet.pts with _ | age
  · rfl
  · simp only [Option.any_some, decide_eq_true_eq, Option.isSome_some, if_true]
    split <;> rfl

/-- The loop over packets that are too old leaves one, so it ends before there are none. -/
theorem Holds.exists_evictOlder (h : ring.Holds ledger) (window : Int64) (newest : Packet)
    (hlimit : ledger.held.length ≤ limit + 1) (hrounds : ledger.held.length ≤ rounds) :
    ∃ count, goRounds (Strict.evictTurn window newest.pts) limit ring =
      some (count, Ring.evictOlder window newest.pts rounds ring) := by
  induction rounds generalizing ring ledger limit with
  | zero =>
    exact ⟨0, goRounds_of_ended (h.evictTurn_of_short (Nat.le_succ_of_le hrounds)) limit⟩
  | succ rounds ih =>
    rcases hheld : ledger.held with _ | ⟨oldest, _ | ⟨second, rest⟩⟩
    · rw [Ring.evictOlder, h.oldest?_eq, hheld]
      exact ⟨0, goRounds_of_ended (h.evictTurn_of_short (by simp [hheld])) limit⟩
    · rw [Ring.evictOlder, h.oldest?_eq, h.size_eq, hheld]
      exact ⟨0, goRounds_of_ended (h.evictTurn_of_short (by simp [hheld])) limit⟩
    · have hturn := h.evictTurn_of_long hheld window newest
      rw [h.evictOlder_succ hheld]
      by_cases hlate : History.late window newest oldest.packet
      · rw [if_pos hlate] at hturn
        rw [hheld, List.length_cons, List.length_cons] at hlimit hrounds
        obtain ⟨limit, rfl⟩ := Nat.exists_eq_succ_of_ne_zero (by omega : limit ≠ 0)
        have hshort : (second :: rest).length ≤ limit + 1 := by rw [List.length_cons]; omega
        obtain ⟨count, hrest⟩ := ih (h.evictHead hheld) hshort (by rw [List.length_cons]; omega)
        refine ⟨count + 1, ?_⟩
        rw [goRounds_succ_of_turn hturn, hrest, if_pos hlate]
        rfl
      · rw [if_neg hlate] at hturn
        exact ⟨0, by rw [goRounds_of_ended hturn, if_neg hlate]⟩

theorem Holds.strict_take (h : ring.Holds ledger) (packet : Packet) (seq : Nat) :
    Strict.take ring ⟨packet, seq⟩ = some (ring.taken packet) := by
  rw [Strict.take, Strict.put_eq h.tail_lt, Strict.next_eq h.capacity_pos]
  rfl

/-- A full ring has an oldest packet to give up. -/
theorem Holds.strict_makeRoom (h : ring.Holds ledger) (packet : Packet) :
    Strict.makeRoom (ring.taken packet) =
      some (if (ring.taken packet).tail = (ring.taken packet).head then
        (ring.taken packet).evictHead else ring.taken packet) := by
  rcases hgrown : ledger.grown packet with _ | ⟨oldest, rest⟩
  · simp [Ledger.grown] at hgrown
  · rw [Strict.makeRoom, (h.taken packet).strict_evictHead hgrown]
    exact (apply_ite some _ _ _).symm

theorem Holds.strict_shed (h : ring.Holds ledger) (window : Int64) :
    Strict.shed window ring = some (match ring.newest? with
      | some newest => Ring.evictOlder window newest.packet.pts ring.capacity ring
      | none => (.ok (), ring)) := by
  have hlt := h.held_lt
  have hlimit : ledger.held.length ≤ ring.capacity - 1 + 1 := by omega
  rw [Strict.shed, h.strict_newest, Option.bind_eq_bind, Option.bind_some]
  rcases ring.newest? with _ | newest
  · rfl
  · obtain ⟨count, hloop⟩ := h.exists_evictOlder window newest.packet hlimit (Nat.le_of_lt hlt)
    dsimp only
    rw [hloop]
    rfl

theorem Holds.strict_commit (h : ring.Holds ledger) (window : Int64) :
    Strict.commit window ring = some (ring.commit window) := by
  have hentry := h.entry?_tail
  rw [Strict.commit, Strict.slot_eq h.tail_lt, Option.bind_eq_bind, Option.bind_some]
  rcases hstaged : ledger.staged with _ | packet
  · rw [hstaged] at hentry
    rw [Ring.commit, hentry]
    rfl
  · rw [hstaged] at hentry
    rw [commit_of_staged hentry, hentry, Option.map_some]
    dsimp only
    rw [h.strict_take, Option.bind_eq_bind, Option.bind_some, h.strict_makeRoom,
      Option.bind_some, (h.roomy packet).strict_shed window]
    generalize (if (ring.taken packet).tail = (ring.taken packet).head then
      (ring.taken packet).evictHead else ring.taken packet) = roomy
    rcases roomy.newest? with _ | newest <;> rfl

theorem Holds.dropTurn_eq (h : ring.Holds ledger) (seq : Nat) :
    Strict.dropTurn seq ring = some (match ledger.held with
      | oldest :: _ => if oldest.seq ≤ seq then .inr ring.dropHead else .inl ring
      | [] => .inl ring) := by
  rw [Strict.dropTurn, h.strict_oldest, h.oldest?_eq, Option.bind_eq_bind, Option.bind_some]
  rcases hheld : ledger.held with _ | ⟨oldest, rest⟩
  · rfl
  · rw [List.head?_cons]
    dsimp only
    rw [h.strict_dropHead hheld]
    split <;> rfl

/-- The loop over packets that are discarded ends when there are no more. -/
theorem Holds.goRounds_dropTurn (h : ring.Holds ledger) (hlimit : ledger.held.length ≤ limit)
    (hrounds : ledger.held.length ≤ rounds) :
    goRounds (Strict.dropTurn seq) limit ring = some (Ring.dropThrough seq rounds ring) := by
  have hturn := h.dropTurn_eq seq
  induction rounds generalizing ring ledger limit with
  | zero =>
    rw [List.length_eq_zero_iff.1 (Nat.le_zero.1 hrounds)] at hturn
    exact goRounds_of_ended hturn limit
  | succ rounds ih =>
    rw [Ring.dropThrough, h.oldest?_eq]
    rcases hheld : ledger.held with _ | ⟨oldest, rest⟩
    · rw [hheld] at hturn
      exact goRounds_of_ended hturn limit
    · rw [hheld] at hturn hlimit hrounds
      by_cases hseq : oldest.seq ≤ seq
      · simp only [if_pos hseq] at hturn
        obtain ⟨limit, rfl⟩ := Nat.exists_eq_succ_of_ne_zero
          (Nat.ne_of_gt (Nat.lt_of_lt_of_le (Nat.succ_pos rest.length) hlimit))
        have hdropped := h.dropHead hheld
        rw [goRounds_succ_of_turn hturn, ih hdropped (Nat.le_of_succ_le_succ hlimit)
          (Nat.le_of_succ_le_succ hrounds) (hdropped.dropTurn_eq seq)]
        simp [hseq]
      · simp only [if_neg hseq] at hturn
        rw [goRounds_of_ended hturn]
        simp [hseq]

/-- A walk over the ring visits the slots of the packets held, and no others. -/
theorem Holds.goRounds_visitTurn (h : ring.Holds ledger) {offset : Nat}
    (hoffset : offset ≤ ledger.held.length) (hlimit : ledger.held.length ≤ offset + limit)
    (entries : List NumberedPacket) :
    goRounds (Strict.visitTurn ring) limit ((ring.head + offset) % ring.capacity, entries) =
      some (ledger.held.length - offset, entries ++ ledger.held.drop offset) := by
  have hlt := h.held_lt
  have hend : (ring.head + offset) % ring.capacity = ring.tail ↔ offset = ledger.held.length :=
    h.place_eq_tail_iff (by omega)
  induction limit generalizing offset entries with
  | zero =>
    have hlast : offset = ledger.held.length := by omega
    rw [goRounds_of_ended (by rw [Strict.visitTurn, if_pos (hend.2 hlast)]; rfl)]
    simp [hlast]
  | succ limit ih =>
    by_cases hlast : offset = ledger.held.length
    · rw [goRounds_of_ended (by rw [Strict.visitTurn, if_pos (hend.2 hlast)]; rfl)]
      simp [hlast]
    · have hmore : offset < ledger.held.length := by omega
      have hslot := h.fromHead_of_lt hmore
      rw [fromHead, List.getElem?_eq_getElem hmore] at hslot
      have hturn : Strict.visitTurn ring ((ring.head + offset) % ring.capacity, entries) =
          some (.inr ((ring.head + (offset + 1)) % ring.capacity,
            entries ++ [ledger.held[offset]])) := by
        rw [Strict.visitTurn, if_neg (mt hend.1 hlast), Strict.slot_eq (Nat.mod_lt _ h.capacity_pos),
          hslot, Strict.next_eq h.capacity_pos, next_place]
        rfl
      rw [goRounds_succ_of_turn hturn, ih hmore (by omega) _ (h.place_eq_tail_iff (by omega)),
        List.append_assoc, List.singleton_append, ← List.drop_eq_getElem_cons hmore]
      exact congrArg (fun count => some (count, entries ++ ledger.held.drop offset))
        (by omega : ledger.held.length - (offset + 1) + 1 = ledger.held.length - offset)

theorem Holds.strict_visit (h : ring.Holds ledger) :
    Strict.visit ring = some (ring.size, ring.entries) := by
  have hlt := h.held_lt
  have hlimit : ledger.held.length ≤ 0 + (ring.capacity - 1) := by omega
  have hwalk := h.goRounds_visitTurn (Nat.zero_le _) hlimit []
  rw [Nat.add_zero, Nat.mod_eq_of_lt h.head_lt] at hwalk
  rw [Strict.visit, hwalk, h.size_eq, h.entries_eq]
  rfl

end Ring

namespace History

variable {history : History} {ledger : Ledger}

/-- **Nothing goes wrong in a call** on a history whose ring holds a ledger. -/
theorem Keeps.strictAnswer_eq (h : history.Keeps ledger) (call : HistoryCall) :
    history.strictAnswer call = some (history.answer call) := by
  cases call with
  | append packet =>
    rw [strictAnswer, Ring.Holds.strict_stage h]
    rfl
  | rotate =>
    rw [strictAnswer, Ring.Holds.strict_commit h]
    rfl
  | push packet =>
    rw [strictAnswer, Ring.Holds.strict_stage h, Option.bind_eq_bind, Option.bind_some,
      (Ring.Holds.stage h packet).strict_commit, History.answer, History.push,
      HistoryAnswer.ofExcept_map]
    rfl
  | discardThrough seq =>
    have hlt := Ring.Holds.held_lt h
    rw [strictAnswer, Ring.Strict.dropThrough,
      Ring.Holds.goRounds_dropTurn h (by omega) (Nat.le_of_lt hlt)]
    rfl
  | snapshot =>
    rw [strictAnswer, Ring.Holds.strict_size h, Option.bind_eq_bind, Option.bind_some,
      Ring.Holds.strict_visit h]
    rfl
  | size =>
    rw [strictAnswer, Ring.Holds.strict_size h]
    rfl
  | _ => rfl

end History

/-! ## Well-formed rings -/

namespace Ring

/-- The slots from the head up to the write slot hold packets with consecutive numbers, the last of
them the one before `nextSeq`. The write slot holds the packet that waits, if one does. All other
slots are free. -/
structure WellFormed (ring : Ring) (waiting : Option Packet) : Prop where
  head_lt : ring.head < ring.capacity
  tail_lt : ring.tail < ring.capacity
  size_lt : ring.size < ring.capacity
  tail_eq : ring.tail = (ring.head + ring.size) % ring.capacity
  held : ∀ offset < ring.size, ∃ entry, ring.fromHead offset = some entry ∧
    entry.seq + ring.size = ring.nextSeq + offset
  write_slot : ring.entry? ring.tail = waiting.map (⟨·, 0⟩)
  free : ∀ index < ring.capacity, index ≠ ring.tail →
    (∀ offset < ring.size, index ≠ (ring.head + offset) % ring.capacity) → ring.entry? index = none
  bytes_eq : ring.bytes =
    ((List.range ring.size).map fun offset =>
      (ring.fromHead offset).elim 0 (·.packet.size)).sum

variable {ring : Ring} {ledger : Ledger}

/-- Every slot is some number of slots after the head. -/
theorem Holds.exists_offset (h : ring.Holds ledger) {index : Nat} (hindex : index < ring.capacity) :
    ∃ offset < ring.capacity, (ring.head + offset) % ring.capacity = index := by
  have hhead := h.head_lt
  rcases Nat.le_total ring.head index with hle | hle
  · refine ⟨index - ring.head, Nat.lt_of_le_of_lt (Nat.sub_le _ _) hindex, ?_⟩
    rw [Nat.add_sub_cancel' hle, Nat.mod_eq_of_lt hindex]
  · refine ⟨(index + ring.capacity - ring.head) % ring.capacity, Nat.mod_lt _ h.capacity_pos, ?_⟩
    rw [Nat.add_mod_mod, Nat.add_sub_cancel' (by omega), Nat.add_mod_right,
      Nat.mod_eq_of_lt hindex]

/-- A slot behind those of the entries held, and not the write slot, is free. -/
theorem Holds.entry?_free (h : ring.Holds ledger) {index : Nat} (hindex : index < ring.capacity)
    (htail : index ≠ ring.tail)
    (hheld : ∀ offset < ring.size, index ≠ (ring.head + offset) % ring.capacity) :
    ring.entry? index = none := by
  obtain ⟨offset, hoffset, rfl⟩ := h.exists_offset hindex
  have hslot := h.fromHead_eq offset hoffset
  have hne : offset ≠ ledger.held.length := mt (h.place_eq_tail_iff hoffset).2 htail
  have hge : ledger.held.length ≤ offset := by
    rw [← h.size_eq]
    exact Nat.not_lt.1 fun hlt => hheld offset hlt rfl
  rw [fromHead] at hslot
  rw [hslot, Ledger.occupied]
  refine List.getElem?_eq_none ?_
  cases ledger.staged <;> simp <;> omega

theorem Holds.bytes_eq_sum (h : ring.Holds ledger) :
    ring.bytes = ((List.range ring.size).map fun offset =>
      (ring.fromHead offset).elim 0 (·.packet.size)).sum := by
  rw [h.bytes_eq, Ledger.bytes, h.size_eq]
  refine congrArg List.sum (List.ext_getElem (by simp) fun offset hleft _ => ?_)
  rw [List.length_map] at hleft
  rw [List.getElem_map, List.getElem_map, List.getElem_range, h.fromHead_of_lt hleft,
    List.getElem?_eq_getElem hleft, Option.elim_some]

/-- A ring that holds a ledger with consecutive numbers is well formed. -/
theorem Holds.wellFormed (h : ring.Holds ledger)
    (hnumbers : NumberedPacket.Consecutive ledger.held ledger.next) :
    ring.WellFormed ledger.staged where
  head_lt := h.head_lt
  tail_lt := h.tail_lt
  size_lt := h.size_eq ▸ h.held_lt
  tail_eq := h.size_eq ▸ h.tail_eq
  held offset hoffset := by
    rw [h.size_eq] at hoffset ⊢
    have hentry := List.getElem?_eq_getElem hoffset
    exact ⟨ledger.held[offset], (h.fromHead_of_lt hoffset).trans hentry,
      h.nextSeq_eq ▸ hnumbers offset _ hentry⟩
  write_slot := h.entry?_tail
  free _ := h.entry?_free
  bytes_eq := h.bytes_eq_sum

end Ring

/-! ## Runs of calls -/

/-- The packet that waits after a call, if `waiting` waits before. -/
def HistoryCall.waitingAfter (waiting : Option Packet) : HistoryCall → Option Packet
  | .append packet => some packet
  | .rotate => none
  | .push _ => none
  | .clear => none
  | _ => waiting

theorem Ledger.staged_commit (late : Packet → Packet → Bool) (slots : Nat) (ledger : Ledger) :
    (ledger.commit late slots).2.staged = none := by
  rcases hstaged : ledger.staged with _ | packet <;> simp [commit, hstaged]

theorem Ledger.staged_answer (kind : StreamKind) (late : Packet → Packet → Bool) (slots : Nat)
    (ledger : Ledger) (call : HistoryCall) :
    (ledger.answer kind late slots call).2.staged =
      HistoryCall.waitingAfter ledger.staged call := by
  cases call with
  | rotate => exact staged_commit late slots ledger
  | push packet => exact staged_commit late slots (ledger.stage packet)
  | _ => rfl

namespace History

variable {history : History} {ledger : Ledger}

@[simp] theorem capacity_after (calls : List HistoryCall) (history : History) :
    (HistoryCall.after History.answer calls history).capacity = history.capacity := by
  induction calls generalizing history with
  | nil => rfl
  | cons call calls ih => exact (ih _).trans (capacity_answer history call)

/-- Calls keep the ring of a history to a ledger with consecutive numbers, in which the packet of
the last call that brought one waits until it is committed or cleared. -/
theorem Keeps.exists_after (h : history.Keeps ledger)
    (hnumbers : NumberedPacket.Consecutive ledger.held ledger.next) (calls : List HistoryCall) :
    ∃ last : Ledger, (HistoryCall.after History.answer calls history).Keeps last ∧
      NumberedPacket.Consecutive last.held last.next ∧
      last.staged = calls.foldl HistoryCall.waitingAfter ledger.staged := by
  induction calls generalizing history ledger with
  | nil => exact ⟨ledger, h, hnumbers, rfl⟩
  | cons call calls ih =>
    obtain ⟨last, hkeeps, hlast, hstaged⟩ := ih (h.answer call).2
      (Ledger.consecutive_answer hnumbers history.kind (late history.window) history.capacity call)
    rw [Ledger.staged_answer] at hstaged
    exact ⟨last, hkeeps, hlast, hstaged⟩

/-- **Whatever is called on a new history, its ring stays well formed.** So nothing goes wrong in the
next call, whichever it is: every index is one of a slot, no count falls below zero, and the loops
end within one round less than there are slots. A walk over the ring visits as many slots as packets
are held, and copies each. -/
theorem wellFormed_after (kind : StreamKind) (slots : Nat) (base : TimeBase) (window : Int64)
    (calls : List HistoryCall) :
    let history := HistoryCall.after History.answer calls (withSlots kind slots base window)
    history.capacity = max slots 2 ∧
      history.ring.WellFormed (calls.foldl HistoryCall.waitingAfter none) ∧
      (∀ call, history.strictAnswer call = some (history.answer call)) ∧
      Ring.Strict.visit history.ring = some (history.size, history.ring.entries) ∧
      history.snapshot.packets.length = history.size := by
  intro history
  obtain ⟨ledger, hkeeps, hnumbers, hstaged⟩ :=
    (keeps_withSlots kind slots base window).exists_after
      (fun offset entry hentry => by simp at hentry) calls
  have hcapacity : history.capacity = max slots 2 := by
    rw [capacity_after]
    simp [withSlots, capacity, Ring.capacity, Ring.empty]
  have hlength : history.snapshot.packets.length = history.size := by
    rw [snapshot, List.length_map, Keeps.entries_eq hkeeps]
    exact (Ring.Holds.size_eq hkeeps).symm
  exact ⟨hcapacity, hstaged ▸ Ring.Holds.wellFormed hkeeps hnumbers, hkeeps.strictAnswer_eq,
    Ring.Holds.strict_visit hkeeps, hlength⟩

end History

end InstantReplay
