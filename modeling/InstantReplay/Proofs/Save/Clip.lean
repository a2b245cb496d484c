import InstantReplay.Save.Saver
import InstantReplay.Proofs.TimeBase
import Mathlib.Data.List.TakeWhile

/-!
# The stages of a clip

What each stage does to the streams of a clip, counted by their index: trimming keeps the packets
of `Snapshot.kept`, rebasing moves a stream back by its `Clip.shift`, and interleaving gives each
packet once, marked with its stream (`Clip.filter_interleave_perm`), in the order of
`Clip.decodeTime` (`Clip.pairwise_interleave`).
-/

namespace InstantReplay

/-! ## Trimming -/

/-- The packets of a snapshot that go into a clip. A video starts at its first keyframe, if that is
asked for and there is one. -/
def Snapshot.kept (startOnKeyframe : Bool) (snapshot : Snapshot) : List Packet :=
  if startOnKeyframe ∧ snapshot.kind = .video ∧ ∃ packet ∈ snapshot.packets, packet.keyframe then
    snapshot.packets.dropWhile (!·.keyframe)
  else snapshot.packets

theorem drop_findIdx?_eq {α : Type} {p : α → Bool} {l : List α} {index : Nat}
    (h : l.findIdx? p = some index) : l.drop index = l.dropWhile (!p ·) := by
  induction l generalizing index with
  | nil => simp at h
  | cons a l ih =>
    rw [List.findIdx?_cons] at h
    by_cases ha : p a
    · simp only [ha, if_true, Option.some.injEq] at h
      simp [← h, ha]
    · simp only [ha, Bool.false_eq_true, if_false, Option.map_eq_some_iff] at h
      obtain ⟨rest, hrest, rfl⟩ := h
      simp [ha, ih hrest]

theorem Saver.trimmed_eq (startOnKeyframe : Bool) (snapshot : Snapshot) :
    (Saver.trimmed startOnKeyframe snapshot).2 =
      { snapshot with packets := snapshot.kept startOnKeyframe } := by
  rw [Saver.trimmed, Snapshot.kept]
  by_cases hvideo : startOnKeyframe ∧ snapshot.kind = .video
  · rw [if_pos hvideo]
    unfold Clip.trimToKeyframe
    rcases hfirst : snapshot.packets.findIdx? (·.keyframe) with _ | first
    · have hnone := List.findIdx?_eq_none_iff.1 hfirst
      rw [hfirst, if_neg]
      rintro ⟨-, -, packet, hpacket, hkey⟩
      simp [hnone packet hpacket] at hkey
    · have hkey : ∃ packet ∈ snapshot.packets, packet.keyframe = true := by
        obtain ⟨hlt, hkey, -⟩ := List.findIdx?_eq_some_iff_getElem.1 hfirst
        exact ⟨_, List.getElem_mem hlt, hkey⟩
      rw [hfirst, if_pos ⟨hvideo.1, hvideo.2, hkey⟩, ← drop_findIdx?_eq hfirst]
  · rw [if_neg hvideo, if_neg fun h => hvideo ⟨h.1, h.2.1⟩]

/-- What is left out of a clip lies before the first keyframe of a video. -/
theorem Snapshot.packets_eq_append_kept (startOnKeyframe : Bool) (snapshot : Snapshot) :
    ∃ lead, snapshot.packets = lead ++ snapshot.kept startOnKeyframe ∧
      (lead = [] ∨ startOnKeyframe ∧ snapshot.kind = .video ∧
        (∀ packet ∈ lead, packet.keyframe = false) ∧
        ∃ packet, (snapshot.kept startOnKeyframe).head? = some packet ∧ packet.keyframe) := by
  rw [kept]
  split
  · rename_i hkey
    obtain ⟨hstart, hvideo, packet, hpacket, hframe⟩ := hkey
    refine ⟨snapshot.packets.takeWhile (!·.keyframe), List.takeWhile_append_dropWhile.symm,
      Or.inr ⟨hstart, hvideo, fun lead hlead => ?_, ?_⟩⟩
    · simpa using List.mem_takeWhile_imp hlead
    · have hne : snapshot.packets.dropWhile (!·.keyframe) ≠ [] := by
        intro hnil
        have := List.dropWhile_eq_nil_iff.1 hnil packet hpacket
        simp [hframe] at this
      refine ⟨_, List.head?_eq_some_head hne, ?_⟩
      simpa using List.head_dropWhile_not (fun packet : Packet => !packet.keyframe) hne
  · exact ⟨[], rfl, Or.inl rfl⟩

theorem Snapshot.kept_eq_nil_iff {startOnKeyframe : Bool} {snapshot : Snapshot} :
    snapshot.kept startOnKeyframe = [] ↔ snapshot.packets = [] := by
  obtain ⟨lead, happend, hlead | ⟨-, -, -, packet, hhead, -⟩⟩ :=
    snapshot.packets_eq_append_kept startOnKeyframe
  · rw [happend, hlead, List.nil_append]
  · constructor
    · intro hnil
      simp [hnil] at hhead
    · intro hnil
      rw [hnil] at happend
      exact (List.append_eq_nil_iff.1 happend.symm).2

namespace Clip

/-! ## Rebasing -/

theorem moveBack_zero (packet : Packet) : packet.moveBack 0 = packet := by
  simp [Packet.moveBack]

/-- The ticks by which a stream is moved back in a clip. -/
def shift (snapshots : List Snapshot) (bases : List TimeBase) (snapshot : Snapshot)
    (base : TimeBase) : Int64 :=
  match start? snapshots bases, snapshot.minPts with
  | some start, some minPts => offset start base minPts
  | _, _ => 0

theorem length_moveAll (start : Int64) (snapshots : List Snapshot) (bases : List TimeBase) :
    (moveAll start snapshots bases).length = snapshots.length := by
  fun_induction moveAll start snapshots bases with
  | case1 snapshot snapshots base bases ih => rw [List.length_cons, ih, List.length_cons]
  | case2 => rfl

theorem length_rebase (snapshots : List Snapshot) (bases : List TimeBase) :
    (rebase snapshots bases).length = snapshots.length := by
  rw [rebase]
  split
  · exact length_moveAll _ snapshots bases
  · rfl

theorem getElem?_moveAll {start : Int64} {snapshots : List Snapshot} {bases : List TimeBase}
    {index : Nat} {snapshot : Snapshot} {base : TimeBase}
    (hsnapshot : snapshots[index]? = some snapshot) (hbase : bases[index]? = some base) :
    (moveAll start snapshots bases)[index]? = some (moveToZero start base snapshot) := by
  induction index generalizing snapshots bases with
  | zero =>
    rcases snapshots with _ | ⟨first, snapshots⟩
    · simp at hsnapshot
    rcases bases with _ | ⟨firstBase, bases⟩
    · simp at hbase
    simp only [List.getElem?_cons_zero, Option.some.injEq] at hsnapshot hbase
    rw [moveAll, hsnapshot, hbase, List.getElem?_cons_zero]
  | succ index ih =>
    rcases snapshots with _ | ⟨first, snapshots⟩
    · simp at hsnapshot
    rcases bases with _ | ⟨firstBase, bases⟩
    · simp at hbase
    exact ih hsnapshot hbase

/-- **Rebasing moves the packets of a stream back by one amount**, and changes nothing else. -/
theorem getElem?_rebase {snapshots : List Snapshot} {bases : List TimeBase} {index : Nat}
    {snapshot : Snapshot} {base : TimeBase} (hsnapshot : snapshots[index]? = some snapshot)
    (hbase : bases[index]? = some base) :
    (rebase snapshots bases)[index]? = some { snapshot with
      packets := snapshot.packets.map (·.moveBack (shift snapshots bases snapshot base)) } := by
  rw [rebase, shift]
  rcases start? snapshots bases with _ | start
  · simp [hsnapshot, moveBack_zero]
  · rcases hmin : snapshot.minPts with _ | minPts
    · simp [getElem?_moveAll hsnapshot hbase, moveToZero, hmin, moveBack_zero]
    · simp [getElem?_moveAll hsnapshot hbase, moveToZero, hmin]

/-! ## Interleaving -/

/-- The packets of all streams, one stream after the other, each marked with its stream. The
streams are counted from `first` on. -/
def marked (snapshots : List Snapshot) (first : Nat) : List Packet :=
  (snapshots.zipIdx first).flatMap fun (snapshot, index) =>
    snapshot.packets.map (·.onStream index)

theorem marked_cons (snapshot : Snapshot) (snapshots : List Snapshot) (first : Nat) :
    marked (snapshot :: snapshots) first =
      snapshot.packets.map (·.onStream first) ++ marked snapshots (first + 1) := by
  rw [marked, List.zipIdx_cons, List.flatMap_cons]
  rfl

theorem mem_marked {snapshots : List Snapshot} {first : Nat} {packet : Packet}
    (h : packet ∈ marked snapshots first) :
    ∃ index snapshot, snapshots[index]? = some snapshot ∧ packet.stream = first + index ∧
      ∃ source ∈ snapshot.packets, packet = source.onStream (first + index) := by
  induction snapshots generalizing first with
  | nil => simp [marked] at h
  | cons snapshot snapshots ih =>
    rw [marked_cons, List.mem_append] at h
    rcases h with hhead | htail
    · obtain ⟨source, hsource, rfl⟩ := List.mem_map.1 hhead
      exact ⟨0, snapshot, rfl, rfl, source, hsource, rfl⟩
    · obtain ⟨index, other, hother, hstream, source, hsource, rfl⟩ := ih htail
      refine ⟨index + 1, other, hother, ?_, source, hsource, ?_⟩
      · rw [hstream]
        omega
      · rw [show first + 1 + index = first + (index + 1) by omega]

theorem filter_marked {snapshots : List Snapshot} {index : Nat} {snapshot : Snapshot}
    (h : snapshots[index]? = some snapshot) (first : Nat) :
    (marked snapshots first).filter (·.stream == first + index) =
      snapshot.packets.map (·.onStream (first + index)) := by
  induction index generalizing snapshots first with
  | zero =>
    rcases snapshots with _ | ⟨head, snapshots⟩
    · simp at h
    rw [List.getElem?_cons_zero, Option.some.injEq] at h
    have hhead : (head.packets.map (·.onStream first)).filter (·.stream == first) =
        head.packets.map (·.onStream first) := by
      simp [List.filter_eq_self, Packet.onStream]
    have htail : (marked snapshots (first + 1)).filter (·.stream == first) = [] := by
      refine List.filter_eq_nil_iff.2 fun packet hpacket => ?_
      obtain ⟨index, -, -, hstream, -⟩ := mem_marked hpacket
      simp [hstream]
      omega
    rw [Nat.add_zero, marked_cons, List.filter_append, hhead, htail, List.append_nil, h]
  | succ index ih =>
    rcases snapshots with _ | ⟨head, snapshots⟩
    · simp at h
    have hhead : (head.packets.map (·.onStream first)).filter
        (·.stream == first + (index + 1)) = [] := by
      simp [List.filter_eq_nil_iff, Packet.onStream]
    have htail := ih h (first + 1)
    rw [show first + 1 + index = first + (index + 1) by omega] at htail
    rw [marked_cons, List.filter_append, hhead, htail, List.nil_append]

variable {snapshots : List Snapshot} {bases : List TimeBase}

theorem zipIdx_zip_map (hlength : snapshots.length = bases.length) :
    (snapshots.zip bases).zipIdx.map (fun ((snapshot, _), index) => (snapshot, index)) =
      snapshots.zipIdx := by
  have hmap := List.zipIdx_map (l := snapshots.zip bases) (k := 0) (f := Prod.fst)
  rw [List.map_fst_zip (Nat.le_of_eq hlength)] at hmap
  exact hmap.symm

/-- The packets that interleaving sorts, with their decode times. -/
def entries (snapshots : List Snapshot) (bases : List TimeBase) : List Timed :=
  (snapshots.zip bases).zipIdx.flatMap fun ((snapshot, base), index) => timed snapshot base index

theorem interleave_eq (snapshots : List Snapshot) (bases : List TimeBase) :
    interleave snapshots bases = ((entries snapshots bases).mergeSort Timed.before).map (·.packet) :=
  rfl

theorem map_packet_entries (hlength : snapshots.length = bases.length) :
    (entries snapshots bases).map (·.packet) = marked snapshots 0 := by
  rw [marked, ← zipIdx_zip_map hlength, entries, List.map_flatMap, List.flatMap_map]
  simp only [timed, List.map_map]
  rfl

/-- Interleaving only changes the order of the packets. -/
theorem interleave_perm (hlength : snapshots.length = bases.length) :
    (interleave snapshots bases).Perm (marked snapshots 0) := by
  rw [← map_packet_entries hlength]
  exact (List.mergeSort_perm _ _).map _

/-- **Interleaving gives each packet of a stream once**, marked with the stream. -/
theorem filter_interleave_perm (hlength : snapshots.length = bases.length) {index : Nat}
    {snapshot : Snapshot} (h : snapshots[index]? = some snapshot) :
    ((interleave snapshots bases).filter (·.stream == index)).Perm
      (snapshot.packets.map (·.onStream index)) := by
  have hfilter := filter_marked h 0
  rw [Nat.zero_add] at hfilter
  exact ((interleave_perm hlength).filter _).trans (List.Perm.of_eq hfilter)

/-- Each packet of a clip comes from the stream it is marked with. -/
theorem mem_interleave (hlength : snapshots.length = bases.length) {packet : Packet}
    (h : packet ∈ interleave snapshots bases) :
    ∃ snapshot, snapshots[packet.stream]? = some snapshot ∧
      ∃ source ∈ snapshot.packets, packet = source.onStream packet.stream := by
  obtain ⟨index, snapshot, hsnapshot, hstream, source, hsource, hpacket⟩ :=
    mem_marked ((interleave_perm hlength).mem_iff.1 h)
  rw [Nat.zero_add] at hstream hpacket
  rw [← hstream] at hsnapshot hpacket
  exact ⟨snapshot, hsnapshot, source, hsource, hpacket⟩

/-- The decode time of a packet of a clip in microseconds. -/
def decodeTime (bases : List TimeBase) (packet : Packet) : Int :=
  match bases[packet.stream]? with
  | some base => (base.toMicros packet.dts).toInt
  | none => 0

theorem before_iff (a b : Timed) :
    a.before b ↔ a.micros.toInt < b.micros.toInt ∨
      a.micros.toInt = b.micros.toInt ∧ a.packet.stream ≤ b.packet.stream := by
  simp [Timed.before, Int64.lt_iff_toInt_lt, Int64.toInt_inj]

theorem before_trans (a b c : Timed) (hab : a.before b) (hbc : b.before c) : a.before c := by
  rw [before_iff] at *
  omega

theorem before_total (a b : Timed) : a.before b || b.before a := by
  rw [Bool.or_eq_true, before_iff, before_iff]
  omega

theorem micros_eq_decodeTime {entry : Timed} (h : entry ∈ entries snapshots bases) :
    entry.micros.toInt = decodeTime bases entry.packet := by
  obtain ⟨⟨⟨snapshot, base⟩, index⟩, hindex, hentry⟩ := List.mem_flatMap.1 h
  obtain ⟨packet, -, rfl⟩ := List.mem_map.1 hentry
  have hbase : bases[index]? = some base :=
    (List.getElem?_zip_eq_some.1 (List.mem_zipIdx_iff_getElem?.1 hindex)).2
  simp [decodeTime, Packet.onStream, hbase]

/-- Entries are compared by the decode times and the streams of their packets. -/
theorem before_iff_decodeTime {a b : Timed} (ha : a ∈ entries snapshots bases)
    (hb : b ∈ entries snapshots bases) :
    a.before b ↔ decodeTime bases a.packet < decodeTime bases b.packet ∨
      decodeTime bases a.packet = decodeTime bases b.packet ∧
        a.packet.stream ≤ b.packet.stream := by
  rw [before_iff, micros_eq_decodeTime ha, micros_eq_decodeTime hb]

/-- **A clip is in the order of decode times**, equal ones in the order of the streams. -/
theorem pairwise_interleave (snapshots : List Snapshot) (bases : List TimeBase) :
    (interleave snapshots bases).Pairwise fun a b =>
      decodeTime bases a < decodeTime bases b ∨
        decodeTime bases a = decodeTime bases b ∧ a.stream ≤ b.stream := by
  rw [interleave_eq, List.pairwise_map]
  refine (List.pairwise_mergeSort before_trans before_total _).imp_of_mem fun ha hb hab => ?_
  exact (before_iff_decodeTime (List.mem_mergeSort.1 ha) (List.mem_mergeSort.1 hb)).1 hab

end Clip

end InstantReplay
