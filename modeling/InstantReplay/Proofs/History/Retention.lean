import InstantReplay.Proofs.Events
import InstantReplay.Proofs.History.Refinement
import Mathlib.Data.List.Induction

/-!
# What a history retains

A history that began empty has packets pushed onto it, one after the other. Each push may evict
oldest packets, for want of a slot or for their age, so that what is held is a suffix of what was
pushed (`Ledger.FedBy`). Two facts say how long a suffix.

* It is not too long: a slot stays free, and the head that a push leaves is alone or not late
  (`Ledger.oldest_of_push`). Only the last push matters for this (`History.Keeps.retains_push`).
* It is not too short: packets that leave a slot free and of which none is late for another are
  held once they have been pushed, whatever was held before (`Ledger.suffix_pushAll`). So earlier
  pushes evict nothing that the last one would have kept.

When the times of the packets never decrease, the two meet: what is held is the longest suffix that
fits into the slots and the window (`History.LongestFit`).
-/

namespace InstantReplay

namespace Ledger

/-- Gives a packet the next number and takes it in. -/
def push (late : Packet → Packet → Bool) (slots : Nat) (ledger : Ledger) (packet : Packet) :
    Ledger :=
  ((ledger.stage packet).commit late slots).2

/-- Takes packets in, one after the other. -/
def pushAll (late : Packet → Packet → Bool) (slots : Nat) (ledger : Ledger)
    (packets : List Packet) : Ledger :=
  packets.foldl (push late slots) ledger

section Pushes

variable {late : Packet → Packet → Bool} {slots : Nat} {ledger : Ledger}

theorem pushAll_concat (packets : List Packet) (packet : Packet) :
    ledger.pushAll late slots (packets ++ [packet]) =
      (ledger.pushAll late slots packets).push late slots packet := by
  rw [pushAll, List.foldl_append]
  rfl

theorem held_push (packet : Packet) :
    (ledger.push late slots packet).held =
      shed (late packet) (makeRoom slots (ledger.grown packet)) :=
  rfl

theorem held_push_suffix (packet : Packet) :
    (ledger.push late slots packet).held <:+ ledger.grown packet :=
  (shed_suffix _ _).trans (makeRoom_suffix slots _)

/-- The packet pushed is the newest one held. -/
theorem getLast?_push (hslots : 2 ≤ slots) (packet : Packet) :
    (ledger.push late slots packet).held.getLast? = some ⟨packet, ledger.next⟩ := by
  rw [held_push, getLast?_shed, getLast?_makeRoom hslots, getLast?_grown]

/-- The oldest packet held after a push is the only one, or is not late. -/
theorem oldest_of_push {packet : Packet} {oldest : NumberedPacket} {rest : List NumberedPacket}
    (h : (ledger.push late slots packet).held = oldest :: rest) :
    rest = [] ∨ late packet oldest.packet = false :=
  oldest_of_shed h

/-! ## Not too short -/

/-- A push keeps a suffix that it does not find late, if the suffix and the packet pushed leave a
slot free. -/
theorem suffix_push {kept : List Packet} {packet : Packet}
    (hkept : kept <:+ ledger.held.map (·.packet)) (hlength : kept.length + 1 < slots)
    (hearly : ∀ older ∈ kept ++ [packet], late packet older = false) :
    kept ++ [packet] <:+ (ledger.push late slots packet).held.map (·.packet) := by
  obtain ⟨entries, hentries, rfl⟩ := List.suffix_map_iff.1 hkept
  rw [List.length_map] at hlength
  have hgrown : entries ++ [⟨packet, ledger.next⟩] <:+ ledger.grown packet :=
    List.suffix_append_self_iff.2 hentries
  have hroom : entries ++ [⟨packet, ledger.next⟩] <:+ makeRoom slots (ledger.grown packet) :=
    suffix_makeRoom hgrown (by simpa using hlength)
  have hshed : entries ++ [⟨packet, ledger.next⟩] <:+ (ledger.push late slots packet).held :=
    suffix_shed hroom fun entry hentry =>
      hearly entry.packet (by simpa using List.mem_map_of_mem (f := (·.packet)) hentry)
  simpa using hshed.map (·.packet)

/-- **Packets that leave a slot free and of which none is late for another are held once they have
been pushed**, whatever was held before. -/
theorem suffix_pushAll {kept : List Packet} (hlength : kept.length < slots)
    (hearly : ∀ newer ∈ kept, ∀ older ∈ kept, late newer older = false) :
    kept <:+ (ledger.pushAll late slots kept).held.map (·.packet) := by
  induction kept using List.reverseRecOn with
  | nil => exact List.nil_suffix
  | append_singleton kept packet ih =>
    rw [List.length_append, List.length_singleton] at hlength
    have hbefore := ih (by omega) fun newer hnewer older holder =>
      hearly newer (List.mem_append_left _ hnewer) older (List.mem_append_left _ holder)
    rw [pushAll_concat]
    exact suffix_push hbefore hlength (hearly packet (by simp))

end Pushes

/-! ## The counters -/

/-- A ledger that was empty has taken in the packets `pushed`: it holds the newest of them and
counts the others as evicted, and the next number is how many there were. -/
structure FedBy (ledger : Ledger) (pushed : List Packet) : Prop where
  suffix : ledger.held.map (·.packet) <:+ pushed
  next_eq : ledger.next = pushed.length
  evicted_add : ledger.evicted + ledger.held.length = pushed.length

theorem fedBy_empty : ({} : Ledger).FedBy [] where
  suffix := List.nil_suffix
  next_eq := rfl
  evicted_add := rfl

theorem FedBy.push {ledger : Ledger} {pushed : List Packet} (h : ledger.FedBy pushed)
    (late : Packet → Packet → Bool) (slots : Nat) (packet : Packet) :
    (ledger.push late slots packet).FedBy (pushed ++ [packet]) := by
  have hheld : (ledger.push late slots packet).held <:+ ledger.grown packet :=
    held_push_suffix packet
  have hlength := hheld.length_le
  have hbefore := h.evicted_add
  rw [length_grown] at hlength
  refine ⟨?_, ?_, ?_⟩
  · refine (hheld.map (·.packet)).trans ?_
    simpa [grown, List.suffix_append_self_iff] using h.suffix
  · rw [List.length_append, List.length_singleton, ← h.next_eq]
    rfl
  · show ledger.evicted + ((ledger.grown packet).length -
      (ledger.push late slots packet).held.length) + _ = _
    rw [length_grown, List.length_append, List.length_singleton]
    omega

theorem FedBy.pushAll {ledger : Ledger} {pushed : List Packet} (h : ledger.FedBy pushed)
    (late : Packet → Packet → Bool) (slots : Nat) (packets : List Packet) :
    (ledger.pushAll late slots packets).FedBy (pushed ++ packets) := by
  induction packets generalizing ledger pushed with
  | nil =>
    rw [List.append_nil]
    exact h
  | cons packet packets ih =>
    rw [List.append_cons]
    exact ih (h.push late slots packet)

end Ledger

namespace History

/-- Stages and commits packets, one after the other. A push that breaks down leaves the history as
it is then. -/
def pushAll (history : History) (packets : List Packet) : History :=
  packets.foldl (fun history packet => (history.push packet).2) history

/-- None of these pushes breaks down. -/
def TakesAll (history : History) (packets : List Packet) : Prop :=
  AtEach packets fun before packet _ => ((history.pushAll before).push packet).1 = .ok ()

section Pushes

variable {history : History} {ledger : Ledger}

theorem pushAll_concat (packets : List Packet) (packet : Packet) :
    history.pushAll (packets ++ [packet]) = ((history.pushAll packets).push packet).2 := by
  rw [pushAll, List.foldl_append]
  rfl

theorem takesAll_concat {packets : List Packet} {packet : Packet} :
    history.TakesAll (packets ++ [packet]) ↔
      history.TakesAll packets ∧ ((history.pushAll packets).push packet).1 = .ok () := by
  refine ⟨fun h => ⟨?_, h packets packet [] rfl⟩, fun h => .append ?_ (.cons ?_ .nil)⟩
  · rintro before earlier behind rfl
    exact h before earlier (behind ++ [packet]) (by simp)
  · exact h.1
  · rw [List.append_nil]
    exact h.2

@[simp] theorem window_push (history : History) (packet : Packet) :
    (history.push packet).2.window = history.window :=
  history.window_answer (.push packet)

@[simp] theorem capacity_push (history : History) (packet : Packet) :
    (history.push packet).2.capacity = history.capacity :=
  history.capacity_answer (.push packet)

@[simp] theorem window_pushAll (history : History) (packets : List Packet) :
    (history.pushAll packets).window = history.window := by
  induction packets generalizing history with
  | nil => rfl
  | cons packet packets ih => exact (ih _).trans (history.window_push packet)

@[simp] theorem capacity_pushAll (history : History) (packets : List Packet) :
    (history.pushAll packets).capacity = history.capacity := by
  induction packets generalizing history with
  | nil => rfl
  | cons packet packets ih =>
    exact (ih _).trans (history.capacity_push packet)

theorem capacity_withSlots {slots : Nat} (hslots : 2 ≤ slots) (kind : StreamKind) (base : TimeBase)
    (window : Int64) : (withSlots kind slots base window).capacity = slots := by
  simp [withSlots, capacity, Ring.capacity, Ring.empty, hslots]

/-- **Pushing packets onto a history pushes them onto its ledger.** -/
theorem Keeps.pushAll (h : history.Keeps ledger) (packets : List Packet) :
    (history.pushAll packets).Keeps
      (ledger.pushAll (late history.window) history.capacity packets) := by
  induction packets generalizing history ledger with
  | nil => exact h
  | cons packet packets ih =>
    have hrest := ih (h.push packet).2
    rw [window_push, capacity_push] at hrest
    exact hrest

theorem Keeps.packets_eq (h : history.Keeps ledger) :
    history.snapshot.packets = ledger.held.map (·.packet) := by
  rw [h.snapshot_eq]
  rfl

/-- Packets no more than a window apart are not late for each other. The age is exact. -/
theorem not_late_of_close {window : Int64} {newer older : Packet}
    (hage : newer.pts.toInt - older.pts.toInt ≤ window.toInt)
    (hback : older.pts.toInt - newer.pts.toInt ≤ window.toInt) :
    late window newer older = false := by
  have hwindow := window.toInt_lt
  have hfits : InInt64 (newer.pts.toInt - older.pts.toInt) := by
    constructor <;> omega
  rw [late_eq hfits, Ledger.late]
  exact decide_eq_false (by omega)

/-- **The newest packets pushed are held** if they leave a slot free and no two of them are more
than a window apart. -/
theorem Keeps.suffix_pushAll (h : history.Keeps ledger) {pushed kept : List Packet}
    (hkept : kept <:+ pushed) (hlength : kept.length < history.capacity)
    (hclose : ∀ newer ∈ kept, ∀ older ∈ kept,
      newer.pts.toInt - older.pts.toInt ≤ history.window.toInt) :
    kept <:+ (history.pushAll pushed).snapshot.packets := by
  obtain ⟨earlier, rfl⟩ := hkept
  rw [(h.pushAll _).packets_eq, Ledger.pushAll, List.foldl_append]
  refine Ledger.suffix_pushAll hlength fun newer hnewer older holder => ?_
  exact not_late_of_close (hclose newer hnewer older holder) (hclose older holder newer hnewer)

/-! ## The last push -/

theorem Keeps.packets_push (h : history.Keeps ledger) (packet : Packet) :
    (history.push packet).2.snapshot.packets =
      (ledger.push (late history.window) history.capacity packet).held.map (·.packet) :=
  (h.push packet).2.packets_eq

theorem Keeps.getLast?_push (h : history.Keeps ledger) (packet : Packet) :
    (history.push packet).2.snapshot.packets.getLast? = some packet := by
  rw [h.packets_push, List.getLast?_map]
  exact congrArg (Option.map _) (Ledger.getLast?_push h.two_le packet)

theorem Keeps.lastSeq_push (h : history.Keeps ledger) (packet : Packet) :
    (history.push packet).2.snapshot.lastSeq = some ledger.next := by
  rw [(h.push packet).2.snapshot_eq]
  exact congrArg (Option.map _) (Ledger.getLast?_push h.two_le packet)

/-- One slot stays free. -/
theorem Keeps.length_lt (h : history.Keeps ledger) :
    history.snapshot.packets.length < history.capacity := by
  rw [h.packets_eq, List.length_map]
  exact h.held_lt

theorem Keeps.push_suffix (h : history.Keeps ledger) (packet : Packet) :
    (history.push packet).2.snapshot.packets <:+ history.snapshot.packets ++ [packet] := by
  rw [h.packets_push, h.packets_eq]
  simpa [Ledger.grown] using (Ledger.held_push_suffix packet).map (·.packet)

/-- A push compares the packet pushed with those held before it and with itself. -/
theorem Keeps.inInt64_push (h : history.Keeps ledger) {packet : Packet}
    (hages : ∀ older ∈ history.snapshot.packets, InInt64 (packet.pts.toInt - older.pts.toInt)) :
    ∀ older ∈ (history.push packet).2.snapshot.packets,
      InInt64 (packet.pts.toInt - older.pts.toInt) := by
  intro older holder
  rcases List.mem_append.1 ((h.push_suffix packet).mem holder) with hheld | hnew
  · exact hages older hheld
  · rw [List.mem_singleton.1 hnew, Int.sub_self]
    decide

/-- **A push does not break down** if the packet pushed is less than `2 ^ 63` ticks from those held
before it. -/
theorem Keeps.push_eq_ok (h : history.Keeps ledger) {packet : Packet}
    (hages : ∀ older ∈ history.snapshot.packets, InInt64 (packet.pts.toInt - older.pts.toInt)) :
    (history.push packet).1 = .ok () := by
  have hheld := h.inInt64_push hages
  rw [h.packets_push, List.forall_mem_map] at hheld
  rw [(h.push packet).1]
  exact outcome_eq_ok hheld

/-- The oldest packet held after a push that succeeds is the one pushed, or lies in the window. -/
theorem Keeps.oldest_push (h : history.Keeps ledger) {packet oldest : Packet}
    (hok : (history.push packet).1 = .ok ())
    (holdest : (history.push packet).2.snapshot.packets.head? = some oldest) :
    (history.push packet).2.snapshot.packets = [packet] ∨
      packet.pts.toInt - oldest.pts.toInt ≤ history.window.toInt := by
  have hlast := h.getLast?_push packet
  have houtcome : outcome packet
      (ledger.push (late history.window) history.capacity packet).held = .ok () :=
    (h.push packet).1.symm.trans hok
  rw [h.packets_push] at holdest hlast ⊢
  rcases hheld : (ledger.push (late history.window) history.capacity packet).held with
    _ | ⟨head, _ | ⟨second, rest⟩⟩
  · simp [hheld] at holdest
  · rw [hheld] at hlast
    exact .inl (by simpa using hlast)
  rw [hheld] at holdest houtcome
  obtain rfl : head.packet = oldest := by simpa using holdest
  have hearly := (Ledger.oldest_of_push hheld).resolve_left (List.cons_ne_nil second rest)
  have hfits : InInt64 (packet.pts.toInt - head.packet.pts.toInt) := by
    by_contra hout
    rw [outcome, minus?_eq_none_iff.2 hout] at houtcome
    cases houtcome
  rw [late_eq hfits, Ledger.late, decide_eq_false_iff_not] at hearly
  exact .inr (Int.not_lt.1 hearly)

end Pushes

/-! ## What a fresh history retains -/

/-- What a history of `slots` slots and a window of `window` ticks retains of the packets
`pushed` onto it, the last of which is `newest`. The times of the packets may be in any order. -/
structure Retains (history : History) (slots : Nat) (window : Int64) (pushed : List Packet)
    (newest : Packet) : Prop where
  /-- The packets held are some of those pushed, without a gap up to the last one. -/
  suffix : history.snapshot.packets <:+ pushed
  getLast?_eq : history.snapshot.packets.getLast? = some newest
  /-- One slot stays free. -/
  length_lt : history.snapshot.packets.length < slots
  lastSeq_eq : history.snapshot.lastSeq = some (pushed.length - 1)
  /-- Every packet that is not held was evicted. -/
  evicted_eq : history.evicted = pushed.length - history.snapshot.packets.length
  /-- The oldest packet held is the newest one or lies in the window. -/
  oldest : ∀ oldest, history.snapshot.packets.head? = some oldest →
    history.snapshot.packets = [newest] ∨
      newest.pts.toInt - window.toInt ≤ oldest.pts.toInt

/-- Packets that leave one of `slots` slots free, none of them more than `window` ticks before
`newest`. -/
structure Fits (slots : Nat) (window : Int64) (newest : Packet) (packets : List Packet) :
    Prop where
  length_lt : packets.length < slots
  young : ∀ packet ∈ packets, newest.pts.toInt - window.toInt ≤ packet.pts.toInt

/-- The packets `held` are the longest suffix of `pushed` that fits. -/
structure LongestFit (slots : Nat) (window : Int64) (pushed : List Packet) (newest : Packet)
    (held : List Packet) : Prop where
  suffix : held <:+ pushed
  fits : Fits slots window newest held
  longest : ∀ kept, kept <:+ pushed → Fits slots window newest kept → kept <:+ held

section Fresh

variable {history : History} {ledger : Ledger} {slots : Nat} {window : Int64}
  {earlier pushed : List Packet} {newest : Packet}

/-- **What one more push leaves** that succeeds, in a history that was fed from the start. -/
theorem Keeps.retains_push (h : history.Keeps ledger) (hfed : ledger.FedBy earlier)
    (hok : (history.push newest).1 = .ok ()) :
    (history.push newest).2.Retains history.capacity history.window (earlier ++ [newest])
      newest := by
  have hafter := (h.push newest).2
  have hpackets := h.packets_push newest
  have hfed' := hfed.push (late history.window) history.capacity newest
  refine ⟨hpackets ▸ hfed'.suffix, h.getLast?_push newest, ?_, ?_, ?_, fun oldest holdest => ?_⟩
  · rw [← history.capacity_push newest]
    exact hafter.length_lt
  · rw [h.lastSeq_push, hfed.next_eq, List.length_append, List.length_singleton,
      Nat.add_sub_cancel]
  · have hcount := hfed'.evicted_add
    have hevicted : (history.push newest).2.evicted =
      (ledger.push (late history.window) history.capacity newest).evicted := hafter.evicted_eq
    rw [hpackets, List.length_map, hevicted]
    omega
  · refine (h.oldest_push hok holdest).imp_right fun hage => ?_
    omega

/-- What is held after pushes onto an empty history was pushed. -/
theorem Keeps.pushAll_suffix (h : history.Keeps ledger) (hfed : ledger.FedBy [])
    (packets : List Packet) : (history.pushAll packets).snapshot.packets <:+ packets := by
  have hsuffix := (hfed.pushAll (late history.window) history.capacity packets).suffix
  rw [(h.pushAll packets).packets_eq]
  exact hsuffix

/-- No push onto an empty history breaks down when the packets pushed are less than `2 ^ 63` ticks
apart. -/
theorem Keeps.takesAll (h : history.Keeps ledger) (hfed : ledger.FedBy [])
    (hspan : ∀ newer ∈ pushed, ∀ older ∈ pushed, InInt64 (newer.pts.toInt - older.pts.toInt)) :
    history.TakesAll pushed := by
  rintro before packet behind rfl
  refine (h.pushAll before).push_eq_ok fun older holder => hspan packet (by simp) older ?_
  exact List.mem_append_left _ ((h.pushAll_suffix hfed before).mem holder)

/-- What pushes onto an empty history leave. Only the last of them says how old the packets held
are, and it has to succeed. -/
theorem Keeps.retains_pushAll (h : history.Keeps ledger) (hfed : ledger.FedBy [])
    (hnewest : pushed.getLast? = some newest)
    (hok : ((history.pushAll pushed.dropLast).push newest).1 = .ok ()) :
    (history.pushAll pushed).Retains history.capacity history.window pushed newest := by
  obtain ⟨earlier, rfl⟩ := List.getLast?_eq_some_iff.1 hnewest
  rw [List.dropLast_concat] at hok
  have hfed' := hfed.pushAll (late history.window) history.capacity earlier
  have hlast := (h.pushAll earlier).retains_push hfed' hok
  rw [capacity_pushAll, window_pushAll] at hlast
  rw [pushAll_concat]
  exact hlast

/-- In packets whose times never decrease the last is the latest. -/
theorem pts_le_of_getLast? (hsorted : pushed.Pairwise (·.pts ≤ ·.pts))
    (hnewest : pushed.getLast? = some newest) {packet : Packet} (hpacket : packet ∈ pushed) :
    packet.pts.toInt ≤ newest.pts.toInt := by
  obtain ⟨earlier, rfl⟩ := List.getLast?_eq_some_iff.1 hnewest
  rcases List.mem_append.1 hpacket with hearlier | hlast
  · have hlater := (List.pairwise_append.1 hsorted).2.2 packet hearlier newest (by simp)
    exact Int64.le_iff_toInt_le.1 hlater
  · rw [List.mem_singleton.1 hlast]

/-- When times never decrease, all packets held lie in the window. -/
theorem Retains.fits (h : history.Retains slots window pushed newest) (hwindow : 0 ≤ window)
    (hsorted : pushed.Pairwise (·.pts ≤ ·.pts)) :
    Fits slots window newest history.snapshot.packets where
  length_lt := h.length_lt
  young packet hpacket := by
    have hheld := hsorted.sublist h.suffix.sublist
    have hlast := h.getLast?_eq
    have holdest := h.oldest
    rcases hpackets : history.snapshot.packets with _ | ⟨oldest, rest⟩
    · simp [hpackets] at hpacket
    rw [hpackets] at hpacket hheld holdest
    have hwindow' := Int64.le_iff_toInt_le.1 hwindow
    rcases holdest oldest rfl with hsingle | hyoung
    · rw [hsingle, List.mem_singleton] at hpacket
      subst hpacket
      simpa using hwindow'
    · rcases List.mem_cons.1 hpacket with rfl | hrest
      · exact hyoung
      · exact hyoung.trans (Int64.le_iff_toInt_le.1 ((List.pairwise_cons.1 hheld).1 packet hrest))

/-- Packets that fit are held when times never decrease. -/
theorem Keeps.suffix_of_fits (h : history.Keeps ledger)
    (hnewest : pushed.getLast? = some newest) (hsorted : pushed.Pairwise (·.pts ≤ ·.pts))
    {kept : List Packet} (hkept : kept <:+ pushed)
    (hfits : Fits history.capacity history.window newest kept) :
    kept <:+ (history.pushAll pushed).snapshot.packets := by
  refine h.suffix_pushAll hkept hfits.length_lt fun newer hnewer older holder => ?_
  have hlatest := pts_le_of_getLast? hsorted hnewest (hkept.mem hnewer)
  have hyoung := hfits.young older holder
  omega

/-- **What a history retains has a closed form.** It takes all that is pushed. What it holds then is
an end of what was pushed that leaves a slot free and has an oldest packet in the window; when times
never decrease, it is the longest end of this kind. -/
theorem retains_withSlots (kind : StreamKind) (base : TimeBase) (hslots : 2 ≤ slots)
    (hwindow : 0 ≤ window) (hnewest : pushed.getLast? = some newest)
    (hspan : ∀ newer ∈ pushed, ∀ older ∈ pushed, InInt64 (newer.pts.toInt - older.pts.toInt)) :
    (withSlots kind slots base window).TakesAll pushed ∧
      ((withSlots kind slots base window).pushAll pushed).Retains slots window pushed newest ∧
      (pushed.Pairwise (·.pts ≤ ·.pts) →
        LongestFit slots window pushed newest
          ((withSlots kind slots base window).pushAll pushed).snapshot.packets) := by
  have hfresh := keeps_withSlots kind slots base window
  have hcapacity := capacity_withSlots hslots kind base window
  have htakes := hfresh.takesAll Ledger.fedBy_empty hspan
  have hretains := hfresh.retains_pushAll Ledger.fedBy_empty hnewest
    (htakes pushed.dropLast newest [] (List.dropLast_append_getLast? newest hnewest).symm)
  rw [hcapacity] at hretains
  refine ⟨htakes, hretains, fun hsorted => ⟨hretains.suffix, hretains.fits hwindow hsorted, ?_⟩⟩
  intro kept hkept hfits
  rw [← hcapacity] at hfits
  exact hfresh.suffix_of_fits hnewest hsorted hkept hfits

/-- A packet of one byte with the given time. -/
def packetAt (time : Int64) : Packet := ⟨⟨#[7]⟩, time, time, true, 0⟩

/-- Six packets in order, two of them at one time. -/
def sixPackets : List Packet := [0, 2, 3, 7, 8, 8].map packetAt

/-- Of six packets, four slots and a window of five ticks hold the last three. -/
theorem retains_sixPackets :
    (withSlots .video 4 ⟨1, 30⟩ 5).TakesAll sixPackets ∧
      ((withSlots .video 4 ⟨1, 30⟩ 5).pushAll sixPackets).Retains 4 5 sixPackets (packetAt 8) ∧
      LongestFit 4 5 sixPackets (packetAt 8)
        ((withSlots .video 4 ⟨1, 30⟩ 5).pushAll sixPackets).snapshot.packets ∧
      ((withSlots .video 4 ⟨1, 30⟩ 5).pushAll sixPackets).snapshot.packets =
        [7, 8, 8].map packetAt := by
  have hnewest : sixPackets.getLast? = some (packetAt 8) := by decide +kernel
  obtain ⟨htakes, hretains, hlongest⟩ := retains_withSlots .video ⟨1, 30⟩ (by decide : 2 ≤ 4)
    (by decide : (0 : Int64) ≤ 5) hnewest (by decide +kernel)
  exact ⟨htakes, hretains, hlongest (by decide +kernel), by decide +kernel⟩

/-- With times out of order, a packet that is too old stays behind one that is not. -/
example : ((withSlots .video 4 ⟨1, 30⟩ 4).pushAll ([5, 0, 9].map packetAt)).snapshot.packets =
    [5, 0, 9].map packetAt := by decide

end Fresh

end History

end InstantReplay
