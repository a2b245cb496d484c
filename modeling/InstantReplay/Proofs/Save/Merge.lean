import InstantReplay.Proofs.Save.Clip

/-!
# Clips are stable merges

Interleaving sorts the packets of all streams by decode time and then by stream. The sort is
stable: packets that are in order before stay as they are (`Clip.filter_interleave`). So packets of
one stream with one decode time keep their order, and a stream whose decode times never fall keeps
its order altogether, also where times that differ are counted as one microsecond
(`Clip.StableMerge`).
-/

namespace InstantReplay

/-- A stable sort leaves those elements alone that are in order among themselves. -/
theorem filter_mergeSort {α : Type} {le : α → α → Bool}
    (htrans : ∀ a b c, le a b → le b c → le a c) (htotal : ∀ a b, le a b || le b a)
    {l : List α} {p : α → Bool} (hsorted : (l.filter p).Pairwise fun a b => le a b) :
    (l.mergeSort le).filter p = l.filter p := by
  have hsublist : (l.filter p).Sublist (l.mergeSort le) :=
    List.sublist_mergeSort htrans htotal hsorted List.filter_sublist
  have hkept : (l.filter p).Sublist ((l.mergeSort le).filter p) := by
    simpa using hsublist.filter p
  have hlength := ((List.mergeSort_perm l le).filter p).length_eq
  exact (hkept.eq_of_length hlength.symm).symm

namespace Clip

variable {snapshots : List Snapshot} {bases : List TimeBase}

/-- The packets `merged` are those of all streams, ordered stably by decode time and stream. -/
structure StableMerge (snapshots : List Snapshot) (bases : List TimeBase)
    (merged : List Packet) : Prop where
  /-- Each packet of a stream is there once, unchanged but for the mark of the stream. -/
  once : ∀ index snapshot, snapshots[index]? = some snapshot →
    (merged.filter (·.stream == index)).Perm (snapshot.packets.map (·.onStream index))
  /-- There are no other packets. -/
  stream_lt : ∀ packet ∈ merged, packet.stream < snapshots.length
  /-- Decode times in microseconds never fall, and equal ones go by the streams. -/
  sorted : merged.Pairwise fun a b => decodeTime bases a < decodeTime bases b ∨
    decodeTime bases a = decodeTime bases b ∧ a.stream ≤ b.stream
  /-- Packets of one stream with one decode time are in the order of the stream. -/
  stable : ∀ index snapshot, snapshots[index]? = some snapshot → ∀ time,
    merged.filter (fun packet => decodeTime bases packet == time && packet.stream == index) =
      (snapshot.packets.map (·.onStream index)).filter (decodeTime bases · == time)
  /-- A stream whose decode times never fall is in its own order. -/
  keeps : ∀ index snapshot base, snapshots[index]? = some snapshot → bases[index]? = some base →
    base.Positive → (∀ packet ∈ snapshot.packets, InInt64 (base.micros packet.dts.toInt)) →
      snapshot.packets.Pairwise (·.dts ≤ ·.dts) →
        merged.filter (·.stream == index) = snapshot.packets.map (·.onStream index)

/-- **Interleaving leaves packets alone that are in order before.** -/
theorem filter_interleave (hlength : snapshots.length = bases.length) {p : Packet → Bool}
    (hsorted : ((marked snapshots 0).filter p).Pairwise fun a b =>
      decodeTime bases a < decodeTime bases b ∨
        decodeTime bases a = decodeTime bases b ∧ a.stream ≤ b.stream) :
    (interleave snapshots bases).filter p = (marked snapshots 0).filter p := by
  rw [← map_packet_entries hlength, List.filter_map, List.pairwise_map] at hsorted
  rw [interleave_eq, ← map_packet_entries hlength, List.filter_map, List.filter_map,
    filter_mergeSort before_trans before_total]
  refine hsorted.imp_of_mem fun ha hb hab => ?_
  exact (before_iff_decodeTime (List.mem_filter.1 ha).1 (List.mem_filter.1 hb).1).2 hab

theorem decodeTime_onStream {index : Nat} {base : TimeBase} (hbase : bases[index]? = some base)
    (packet : Packet) :
    decodeTime bases (packet.onStream index) = (base.toMicros packet.dts).toInt := by
  simp [decodeTime, Packet.onStream, hbase]

/-- **Interleaving is the stable merge by decode time.** -/
theorem stableMerge_interleave (hlength : snapshots.length = bases.length) :
    StableMerge snapshots bases (interleave snapshots bases) where
  once index snapshot hsnapshot := filter_interleave_perm hlength hsnapshot
  stream_lt packet hpacket := by
    obtain ⟨snapshot, hsnapshot, -⟩ := mem_interleave hlength hpacket
    exact (List.getElem?_eq_some_iff.1 hsnapshot).1
  sorted := pairwise_interleave snapshots bases
  stable index snapshot hsnapshot time := by
    have hstream := filter_marked hsnapshot 0
    rw [Nat.zero_add] at hstream
    rw [filter_interleave hlength, ← List.filter_filter, hstream]
    refine List.pairwise_iff_forall_sublist.2 fun hab => ?_
    have hmem := hab.subset
    simp only [List.mem_filter, List.cons_subset, Bool.and_eq_true, beq_iff_eq] at hmem
    omega
  keeps index snapshot base hsnapshot hbase hpositive hrange hrising := by
    have hstream := filter_marked hsnapshot 0
    rw [Nat.zero_add] at hstream
    rw [filter_interleave hlength, hstream]
    rw [hstream, List.pairwise_map]
    refine hrising.imp_of_mem fun {a b} ha hb hab => ?_
    rw [decodeTime_onStream hbase, decodeTime_onStream hbase,
      TimeBase.toInt_toMicros hpositive (hrange a ha),
      TimeBase.toInt_toMicros hpositive (hrange b hb)]
    have hle := TimeBase.micros_mono hpositive (Int64.le_iff_toInt_le.1 hab)
    rcases lt_or_eq_of_le hle with hlt | heq
    · exact Or.inl hlt
    · exact Or.inr ⟨heq, le_refl _⟩

/-- Two streams, of which the first has two times within one microsecond, at which the second has a
packet too, and the second is not in the order of its decode times. -/
def tiedStreams : List Snapshot := [
  ⟨.audio, [⟨.empty, 3, 3, true, 0⟩, ⟨.empty, 4, 4, true, 0⟩, ⟨.empty, 9, 9, true, 0⟩], some 2⟩,
  ⟨.video, [⟨.empty, 1, 1, true, 0⟩, ⟨.empty, 2, 0, false, 0⟩], some 1⟩]

def tiedBases : List TimeBase := [⟨1, 3000000⟩, ⟨1, 1000000⟩]

/-- The first stream keeps its order although two of its times are one microsecond. -/
theorem stableMerge_tied :
    tiedStreams.length = tiedBases.length ∧
      StableMerge tiedStreams tiedBases (interleave tiedStreams tiedBases) ∧
      ((interleave tiedStreams tiedBases).filter (·.stream == 0)).map (·.dts.toInt) = [3, 4, 9] := by
  have hmerge : StableMerge tiedStreams tiedBases (interleave tiedStreams tiedBases) :=
    stableMerge_interleave rfl
  have hkeeps := hmerge.keeps 0 _ _ rfl rfl (by decide) (by decide) (by decide)
  exact ⟨rfl, hmerge, by rw [hkeeps]; decide⟩

end Clip

end InstantReplay
