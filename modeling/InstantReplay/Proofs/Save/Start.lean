import InstantReplay.Proofs.Save.Clip

/-!
# Clips start at zero

The earliest packet of a clip sets its start. The stream of that packet is moved back by the
packet's own time, so that the packet is shown at zero (`Clip.exists_shift_eq`); every other
stream is moved back by the start in its own ticks, which no packet of it precedes
(`Clip.shift_le`). `Clip.Converts` asks that the conversions on the way stay in the 64 bits, and
`Clip.InRange` asks it of all times.
-/

namespace InstantReplay

namespace Snapshot

/-- A fold that picks one of two times, the one with the lesser key, gives the least of all. -/
theorem foldl_pick (pick : Int64 → Int64 → Int64) (key : Int64 → Int)
    (hpick : ∀ a b, (pick a b = a ∨ pick a b = b) ∧ key (pick a b) ≤ key a ∧
      key (pick a b) ≤ key b) (times : List Int64) (first : Int64) :
    times.foldl pick first ∈ first :: times ∧
      ∀ other ∈ first :: times, key (times.foldl pick first) ≤ key other := by
  induction times generalizing first with
  | nil => simp
  | cons t times ih =>
    obtain ⟨hor, hfirst, ht⟩ := hpick first t
    obtain ⟨hmem, hle⟩ := ih (pick first t)
    rw [List.foldl_cons]
    refine ⟨?_, fun other hother => ?_⟩
    · rcases List.mem_cons.1 hmem with hpicked | hrest
      · rw [hpicked]
        rcases hor with hsame | hsame <;> simp [hsame]
      · exact List.mem_cons_of_mem _ (List.mem_cons_of_mem _ hrest)
    · have hbest := hle _ List.mem_cons_self
      rcases List.mem_cons.1 hother with rfl | hother
      · exact hbest.trans hfirst
      rcases List.mem_cons.1 hother with rfl | hother
      · exact hbest.trans ht
      · exact hle other (List.mem_cons_of_mem _ hother)

/-- The least of some times is one of them and not after any of them. -/
theorem least_eq_some {times : List Int64} {time : Int64} (h : least times = some time) :
    time ∈ times ∧ ∀ other ∈ times, time.toInt ≤ other.toInt := by
  rcases times with _ | ⟨first, times⟩
  · simp [least] at h
  · rw [least, Option.some.injEq] at h
    subst h
    refine foldl_pick _ Int64.toInt (fun low t => ?_) times first
    split
    · rename_i hlt
      exact ⟨Or.inr rfl, Int.le_of_lt (Int64.lt_iff_toInt_lt.1 hlt), Int.le_refl _⟩
    · rename_i hge
      exact ⟨Or.inl rfl, Int.le_refl _, Int.not_lt.1 (mt Int64.lt_iff_toInt_lt.2 hge)⟩

/-- The greatest of some times is one of them and not before any of them. -/
theorem greatest_eq_some {times : List Int64} {time : Int64} (h : greatest times = some time) :
    time ∈ times ∧ ∀ other ∈ times, other.toInt ≤ time.toInt := by
  rcases times with _ | ⟨first, times⟩
  · simp [greatest] at h
  · rw [greatest, Option.some.injEq] at h
    subst h
    have hpick := foldl_pick (fun high t => if high < t then t else high) (fun t => -t.toInt)
      (fun high t => ?_) times first
    · exact ⟨hpick.1, fun other hother => Int.neg_le_neg_iff.1 (hpick.2 other hother)⟩
    · split
      · rename_i hlt
        exact ⟨Or.inr rfl, Int.neg_le_neg (Int.le_of_lt (Int64.lt_iff_toInt_lt.1 hlt)),
          Int.le_refl _⟩
      · rename_i hge
        exact ⟨Or.inl rfl, Int.le_refl _,
          Int.neg_le_neg (Int.not_lt.1 (mt Int64.lt_iff_toInt_lt.2 hge))⟩

theorem minPts_eq_some {snapshot : Snapshot} {time : Int64} (h : snapshot.minPts = some time) :
    (∃ packet ∈ snapshot.packets, packet.pts = time) ∧
      ∀ packet ∈ snapshot.packets, time.toInt ≤ packet.pts.toInt := by
  obtain ⟨hmem, hle⟩ := least_eq_some h
  exact ⟨List.mem_map.1 hmem, fun packet hpacket => hle _ (List.mem_map_of_mem hpacket)⟩

theorem maxPts_eq_some {snapshot : Snapshot} {time : Int64} (h : snapshot.maxPts = some time) :
    (∃ packet ∈ snapshot.packets, packet.pts = time) ∧
      ∀ packet ∈ snapshot.packets, packet.pts.toInt ≤ time.toInt := by
  obtain ⟨hmem, hle⟩ := greatest_eq_some h
  exact ⟨List.mem_map.1 hmem, fun packet hpacket => hle _ (List.mem_map_of_mem hpacket)⟩

end Snapshot

namespace Clip

variable {snapshots : List Snapshot} {bases : List TimeBase}

theorem start?_eq_some {start : Int64} (h : start? snapshots bases = some start) :
    (∃ pair ∈ snapshots.zip bases, ∃ time, pair.1.minPts = some time ∧
        pair.2.toMicros time = start) ∧
      ∀ pair ∈ snapshots.zip bases, ∀ time, pair.1.minPts = some time →
        start.toInt ≤ (pair.2.toMicros time).toInt := by
  obtain ⟨hmem, hle⟩ := Snapshot.least_eq_some h
  refine ⟨?_, fun pair hpair time htime => hle _ (List.mem_filterMap.2 ⟨pair, hpair, ?_⟩)⟩
  · obtain ⟨pair, hpair, hstart⟩ := List.mem_filterMap.1 hmem
    obtain ⟨time, htime, hmicros⟩ := Option.map_eq_some_iff.1 hstart
    exact ⟨pair, hpair, time, htime, hmicros⟩
  · simp only [htime, Option.map_some]

/-- The latest time of a clip is that of one of its streams, and not before that of any other. -/
theorem finish?_eq_some {finish : Int64} (h : finish? snapshots bases = some finish) :
    (∃ pair ∈ snapshots.zip bases, ∃ time, pair.1.maxPts = some time ∧
        pair.2.toMicros time = finish) ∧
      ∀ pair ∈ snapshots.zip bases, ∀ time, pair.1.maxPts = some time →
        (pair.2.toMicros time).toInt ≤ finish.toInt := by
  obtain ⟨hmem, hle⟩ := Snapshot.greatest_eq_some h
  refine ⟨?_, fun pair hpair time htime => hle _ (List.mem_filterMap.2 ⟨pair, hpair, ?_⟩)⟩
  · obtain ⟨pair, hpair, hfinish⟩ := List.mem_filterMap.1 hmem
    obtain ⟨time, htime, hmicros⟩ := Option.map_eq_some_iff.1 hfinish
    exact ⟨pair, hpair, time, htime, hmicros⟩
  · simp only [htime, Option.map_some]

/-- The conversions by which a clip is moved to zero stay in the 64 bits: of the first time of a
stream to microseconds, and of the start to the ticks of a stream that begins later. -/
structure Converts (snapshots : List Snapshot) (bases : List TimeBase) : Prop where
  first : ∀ pair ∈ snapshots.zip bases, ∀ time, pair.1.minPts = some time →
    InInt64 (pair.2.micros time.toInt)
  ticks : ∀ pair ∈ snapshots.zip bases, ∀ time start, pair.1.minPts = some time →
    start? snapshots bases = some start → pair.2.toMicros time ≠ start →
      InInt64 (pair.2.ticks start.toInt)

/-- No time leaves the 64 bits while a clip is made of snapshots: counted in microseconds, with the
start counted in ticks, moved to the start, and counted in microseconds after that. -/
structure InRange (snapshots : List Snapshot) (bases : List TimeBase) : Prop where
  micros : ∀ pair ∈ snapshots.zip bases, ∀ packet ∈ pair.1.packets,
    InInt64 (pair.2.micros packet.pts.toInt)
  ticks : ∀ pair ∈ snapshots.zip bases, pair.1.packets ≠ [] → ∀ start,
    start? snapshots bases = some start → InInt64 (pair.2.ticks start.toInt)
  pts : ∀ pair ∈ snapshots.zip bases, ∀ packet ∈ pair.1.packets,
    InInt64 (packet.pts.toInt - (shift snapshots bases pair.1 pair.2).toInt)
  dts : ∀ pair ∈ snapshots.zip bases, ∀ packet ∈ pair.1.packets,
    InInt64 (packet.dts.toInt - (shift snapshots bases pair.1 pair.2).toInt)
  decoded : ∀ pair ∈ snapshots.zip bases, ∀ packet ∈ pair.1.packets,
    InInt64 (pair.2.micros (packet.dts.toInt - (shift snapshots bases pair.1 pair.2).toInt))

theorem InRange.converts (h : InRange snapshots bases) : Converts snapshots bases where
  first pair hpair time htime := by
    obtain ⟨packet, hpacket, rfl⟩ := (Snapshot.minPts_eq_some htime).1
    exact h.micros pair hpair packet hpacket
  ticks pair hpair time start htime hstart _ := by
    obtain ⟨packet, hpacket, -⟩ := (Snapshot.minPts_eq_some htime).1
    exact h.ticks pair hpair (List.ne_nil_of_mem hpacket) start hstart

end Clip

end InstantReplay
