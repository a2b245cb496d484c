import InstantReplay.Proofs.Save.Sync

/-!
# Clips without overflow

The stages of a clip count in 64 bits. In `Clip.Checked` they are taken again, with every difference
and every conversion between time bases checked, and give no result if one of them leaves the range.
As long as the times stay in range as `Clip.InRange` and `Clip.Measures` ask, all of them give the
result of the unchecked stage (`Clip.fits`).
-/

namespace InstantReplay

/-- A list is mapped where every element is. -/
theorem mapM_eq_some_map {α β : Type} {l : List α} {f : α → Option β} {g : α → β}
    (h : ∀ a ∈ l, f a = some (g a)) : l.mapM f = some (l.map g) := by
  induction l with
  | nil => rfl
  | cons a l ih =>
    have hrest := ih fun b hb => h b (List.mem_cons_of_mem _ hb)
    rw [List.mapM_cons, h a List.mem_cons_self, hrest]
    rfl

namespace TimeBase

/-- `rescale`, unless the result is too long for 64 bits. -/
def rescale? (source : TimeBase) (value : Int64) (target : TimeBase) : Option Int64 :=
  if source = target then some value
  else
    let (num, den) := source.ratio value target
    int64? (roundDiv num den)

/-- `toMicros`, unless the result is too long for 64 bits. -/
def toMicros? (base : TimeBase) (value : Int64) : Option Int64 :=
  base.rescale? value microseconds

/-- `ofMicros`, unless the result is too long for 64 bits. -/
def ofMicros? (base : TimeBase) (micros : Int64) : Option Int64 :=
  microseconds.rescale? micros base

theorem rescale?_eq {source target : TimeBase} {value : Int64}
    (h : InInt64 (source.exact value.toInt target)) :
    source.rescale? value target = some (source.rescale value target) := by
  rw [rescale?, rescale]
  split
  · rfl
  · exact h.int64?_eq

theorem toMicros?_eq {base : TimeBase} {value : Int64} (h : InInt64 (base.micros value.toInt)) :
    base.toMicros? value = some (base.toMicros value) :=
  rescale?_eq h

theorem ofMicros?_eq {base : TimeBase} {micros : Int64} (h : InInt64 (base.ticks micros.toInt)) :
    base.ofMicros? micros = some (base.ofMicros micros) :=
  rescale?_eq h

end TimeBase

/-- `moveBack`, unless a difference overflows. -/
def Packet.moveBack? (packet : Packet) (ticks : Int64) : Option Packet := do
  return { packet with pts := ← minus? packet.pts ticks, dts := ← minus? packet.dts ticks }

theorem Packet.moveBack?_eq {packet : Packet} {ticks : Int64}
    (hpts : InInt64 (packet.pts.toInt - ticks.toInt))
    (hdts : InInt64 (packet.dts.toInt - ticks.toInt)) :
    packet.moveBack? ticks = some (packet.moveBack ticks) := by
  rw [moveBack?, hpts.minus?_eq, hdts.minus?_eq]
  rfl

namespace Clip

/-! ## The stages with checks -/

namespace Checked

/-- The times that `time?` picks of the streams, in microseconds. -/
def times (time? : Snapshot → Option Int64) (pairs : List (Snapshot × TimeBase)) :
    Option (List Int64) :=
  (pairs.filterMap fun (snapshot, base) => (time? snapshot).map (base, ·)).mapM
    fun (base, time) => base.toMicros? time

/-- The earliest presentation time of all streams, in microseconds. -/
def start (snapshots : List Snapshot) (bases : List TimeBase) : Option (Option Int64) :=
  (times Snapshot.minPts (snapshots.zip bases)).map Snapshot.least

/-- The latest presentation time of all streams, in microseconds. -/
def finish (snapshots : List Snapshot) (bases : List TimeBase) : Option (Option Int64) :=
  (times Snapshot.maxPts (snapshots.zip bases)).map Snapshot.greatest

/-- The ticks by which a stream is moved back when the clip starts at `start` microseconds. -/
def offset (start : Int64) (base : TimeBase) (minPts : Int64) : Option Int64 := do
  if (← base.toMicros? minPts) = start then some minPts else base.ofMicros? start

/-- One stream of a clip that starts at `start` microseconds, moved to start at zero. -/
def moveToZero (start : Int64) (base : TimeBase) (snapshot : Snapshot) : Option Snapshot :=
  match snapshot.minPts with
  | some minPts => do
    let ticks ← offset start base minPts
    return { snapshot with packets := ← snapshot.packets.mapM (·.moveBack? ticks) }
  | none => some snapshot

/-- Snapshots moved to start at zero; those beyond the last time base stay. -/
def moveAll (start : Int64) : List Snapshot → List TimeBase → Option (List Snapshot)
  | snapshot :: snapshots, base :: bases => do
    return (← moveToZero start base snapshot) :: (← moveAll start snapshots bases)
  | snapshots, _ => some snapshots

/-- Snapshots moved back by one span of time, so that the earliest packet is shown at zero. -/
def rebase (snapshots : List Snapshot) (bases : List TimeBase) : Option (List Snapshot) := do
  match ← start snapshots bases with
  | some start => moveAll start snapshots bases
  | none => some snapshots

/-- The packets of stream `index`, with their decode times. -/
def timed (snapshot : Snapshot) (base : TimeBase) (index : Nat) : Option (List Timed) :=
  snapshot.packets.mapM fun packet => do
    return ⟨← base.toMicros? packet.dts, packet.onStream index⟩

/-- All packets in the order of their decode times, each marked with its stream. -/
def interleave (snapshots : List Snapshot) (bases : List TimeBase) : Option (List Packet) := do
  let all ← (snapshots.zip bases).zipIdx.mapM fun ((snapshot, base), index) =>
    timed snapshot base index
  return (all.flatten.mergeSort Timed.before).map (·.packet)

/-- The time from the first packet shown to the last, in microseconds. -/
def span (snapshots : List Snapshot) (bases : List TimeBase) : Option Int64 := do
  match ← start snapshots bases, ← finish snapshots bases with
  | some start, some finish => minus? finish start
  | _, _ => some 0

end Checked

/-- No stage of a clip overflows: with checks the stages give what they give without. -/
structure Fits (snapshots : List Snapshot) (bases : List TimeBase) : Prop where
  start : Checked.start snapshots bases = some (start? snapshots bases)
  rebase : Checked.rebase snapshots bases = some (rebase snapshots bases)
  span : Checked.span snapshots bases = some (span snapshots bases)
  interleave : Checked.interleave snapshots bases = some (interleave snapshots bases)
  interleave_rebase : Checked.interleave (Clip.rebase snapshots bases) bases =
    some (Clip.interleave (Clip.rebase snapshots bases) bases)

variable {snapshots : List Snapshot} {bases : List TimeBase}

/-! ## What the checks come to -/

theorem Checked.times_eq {time? : Snapshot → Option Int64} {pairs : List (Snapshot × TimeBase)}
    (h : ∀ pair ∈ pairs, ∀ time, time? pair.1 = some time → InInt64 (pair.2.micros time.toInt)) :
    times time? pairs = some (pairs.filterMap fun (snapshot, base) =>
      (time? snapshot).map base.toMicros) := by
  rw [times, mapM_eq_some_map (g := fun (base, time) => base.toMicros time), List.map_filterMap]
  · simp only [Option.map_map]
    rfl
  · rintro ⟨base, time⟩ hmem
    obtain ⟨pair, hpair, hpicked⟩ := List.mem_filterMap.1 hmem
    obtain ⟨other, hother, heq⟩ := Option.map_eq_some_iff.1 hpicked
    obtain ⟨rfl, rfl⟩ := Prod.mk.inj heq
    exact TimeBase.toMicros?_eq (h pair hpair other hother)

theorem Checked.start_eq (hconverts : Converts snapshots bases) :
    start snapshots bases = some (start? snapshots bases) := by
  rw [start, times_eq hconverts.first]
  rfl

theorem Checked.finish_eq (hmeasures : Measures snapshots bases) :
    finish snapshots bases = some (finish? snapshots bases) := by
  rw [finish, times_eq fun pair hpair time htime => ?_]
  · rfl
  · obtain ⟨packet, hpacket, rfl⟩ := (Snapshot.maxPts_eq_some htime).1
    exact hmeasures.micros pair hpair packet hpacket

theorem Checked.offset_eq {start minPts : Int64} {base : TimeBase}
    (hmicros : InInt64 (base.micros minPts.toInt))
    (hticks : base.toMicros minPts ≠ start → InInt64 (base.ticks start.toInt)) :
    offset start base minPts = some (Clip.offset start base minPts) := by
  rw [offset, TimeBase.toMicros?_eq hmicros, Option.bind_eq_bind, Option.bind_some, Clip.offset]
  split
  · rfl
  · rename_i hne
    exact TimeBase.ofMicros?_eq (hticks hne)

theorem Checked.moveToZero_eq (hconverts : Converts snapshots bases)
    (hmovable : Movable snapshots bases) {first : Int64}
    (hfirst : start? snapshots bases = some first) {pair : Snapshot × TimeBase}
    (hpair : pair ∈ snapshots.zip bases) :
    moveToZero first pair.2 pair.1 = some (Clip.moveToZero first pair.2 pair.1) := by
  rcases htime : pair.1.minPts with _ | time
  · simp only [moveToZero, Clip.moveToZero, htime]
  · have hoffset := offset_eq (hconverts.first pair hpair time htime)
      (hconverts.ticks pair hpair time first htime hfirst)
    have hshift : shift snapshots bases pair.1 pair.2 = Clip.offset first pair.2 time := by
      simp only [shift, hfirst, htime]
    have hpackets : pair.1.packets.mapM (·.moveBack? (Clip.offset first pair.2 time)) =
        some (pair.1.packets.map (·.moveBack (Clip.offset first pair.2 time))) := by
      refine mapM_eq_some_map fun packet hpacket => ?_
      obtain ⟨hpts, hdts⟩ := hmovable pair hpair packet hpacket
      rw [hshift] at hpts hdts
      exact Packet.moveBack?_eq hpts hdts
    simp only [moveToZero, Clip.moveToZero, htime, hoffset, hpackets, Option.bind_eq_bind,
      Option.bind_some]
    rfl

theorem Checked.moveAll_eq {first : Int64}
    (h : ∀ pair ∈ snapshots.zip bases,
      moveToZero first pair.2 pair.1 = some (Clip.moveToZero first pair.2 pair.1)) :
    moveAll first snapshots bases = some (Clip.moveAll first snapshots bases) := by
  fun_induction moveAll first snapshots bases with
  | case1 snapshot snapshots base bases ih =>
    rw [List.zip_cons_cons] at h
    rw [h _ List.mem_cons_self, ih fun pair hpair => h pair (List.mem_cons_of_mem _ hpair)]
    rfl
  | case2 snapshots bases hnot => rw [Clip.moveAll.eq_2 _ _ _ hnot]

theorem Checked.rebase_eq (hconverts : Converts snapshots bases)
    (hmovable : Movable snapshots bases) :
    rebase snapshots bases = some (Clip.rebase snapshots bases) := by
  rw [rebase, start_eq hconverts, Option.bind_eq_bind, Option.bind_some, Clip.rebase]
  rcases hfirst : start? snapshots bases with _ | first
  · rfl
  · exact moveAll_eq fun pair hpair => moveToZero_eq hconverts hmovable hfirst hpair

theorem Checked.timed_eq {snapshot : Snapshot} {base : TimeBase} (index : Nat)
    (h : ∀ packet ∈ snapshot.packets, InInt64 (base.micros packet.dts.toInt)) :
    timed snapshot base index = some (Clip.timed snapshot base index) := by
  refine mapM_eq_some_map fun packet hpacket => ?_
  rw [TimeBase.toMicros?_eq (h packet hpacket)]
  rfl

theorem Checked.interleave_eq
    (h : ∀ pair ∈ snapshots.zip bases, ∀ packet ∈ pair.1.packets,
      InInt64 (pair.2.micros packet.dts.toInt)) :
    interleave snapshots bases = some (Clip.interleave snapshots bases) := by
  have hall : ((snapshots.zip bases).zipIdx.mapM fun ((snapshot, base), index) =>
      timed snapshot base index) =
        some ((snapshots.zip bases).zipIdx.map fun ((snapshot, base), index) =>
          Clip.timed snapshot base index) := by
    refine mapM_eq_some_map ?_
    rintro ⟨⟨snapshot, base⟩, index⟩ hmem
    exact timed_eq index (h _ (List.fst_mem_of_mem_zipIdx hmem))
  rw [interleave, hall, Clip.interleave, List.flatMap_def]
  rfl

theorem Checked.span_eq (hconverts : Converts snapshots bases)
    (hmeasures : Measures snapshots bases) :
    span snapshots bases = some (Clip.span snapshots bases) := by
  simp only [span, start_eq hconverts, finish_eq hmeasures, Option.bind_eq_bind,
    Option.bind_some, Clip.span]
  rcases hstart : start? snapshots bases with _ | first
  · rfl
  rcases hfinish : finish? snapshots bases with _ | last
  · rfl
  exact (hmeasures.span first last hstart hfinish).minus?_eq

/-- **No stage of a clip overflows** as long as the times stay in range. -/
theorem fits (hrange : InRange snapshots bases) (hmeasures : Measures snapshots bases)
    (hdecode : ∀ pair ∈ snapshots.zip bases, ∀ packet ∈ pair.1.packets,
      InInt64 (pair.2.micros packet.dts.toInt)) : Fits snapshots bases where
  start := Checked.start_eq hrange.converts
  rebase := Checked.rebase_eq hrange.converts hrange.movable
  span := Checked.span_eq hrange.converts hmeasures
  interleave := Checked.interleave_eq hdecode
  interleave_rebase := by
    apply Checked.interleave_eq
    rw [zip_rebase, List.forall_mem_map]
    intro pair hpair packet hpacket
    obtain ⟨source, hsource, rfl⟩ := List.mem_map.1 hpacket
    rw [Packet.moveBack, (hrange.dts pair hpair source hsource).toInt_sub]
    exact hrange.decoded pair hpair source hsource

end Clip

end InstantReplay
