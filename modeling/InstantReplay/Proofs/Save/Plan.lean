import InstantReplay.Proofs.Save.Calls
import InstantReplay.Proofs.Save.Start

/-!
# The plan of a clip

The calls that write a clip (`Draft.calls_plan`): they start the file, declare a track for each
stream with packets, in the order of the streams (`Draft.tracks`), write the packets
(`Draft.writes`) and end the file. A stream is written to the track whose number counts the streams
with packets before it, so the packets of that track are those of the stream
(`Draft.filter_writes_perm`).
-/

namespace InstantReplay

/-! ## The place of an element in a filtered list -/

section Filter

variable {α : Type} {p : α → Bool} {l : List α} {a : α}

theorem getElem?_filter_of_getElem? {index : Nat} (h : l[index]? = some a) (ha : p a) :
    (l.filter p)[((l.take index).filter p).length]? = some a := by
  obtain ⟨hlt, hget⟩ := List.getElem?_eq_some_iff.1 h
  have hsplit : l = l.take index ++ a :: l.drop (index + 1) := by
    rw [← hget, List.getElem_cons_drop, List.take_append_drop]
  conv_lhs => rw [hsplit]
  rw [List.filter_append, List.filter_cons_of_pos ha, List.take_left' (by simp; omega),
    List.getElem?_append_right (Nat.le_refl _), Nat.sub_self, List.getElem?_cons_zero]

theorem exists_getElem?_of_filter {place : Nat} (h : (l.filter p)[place]? = some a) :
    ∃ index, l[index]? = some a ∧ p a ∧ ((l.take index).filter p).length = place := by
  induction l generalizing place with
  | nil => simp at h
  | cons b l ih =>
    by_cases hb : p b
    · rw [List.filter_cons_of_pos hb] at h
      rcases place with _ | place
      · rw [List.getElem?_cons_zero, Option.some.injEq] at h
        exact ⟨0, by simp [h], by rw [← h]; exact hb, rfl⟩
      · obtain ⟨index, hindex, ha, hplace⟩ := ih h
        refine ⟨index + 1, hindex, ha, ?_⟩
        rw [List.take_succ_cons, List.filter_cons_of_pos hb, List.length_cons, hplace]
    · rw [List.filter_cons_of_neg hb] at h
      obtain ⟨index, hindex, ha, hplace⟩ := ih h
      refine ⟨index + 1, hindex, ha, ?_⟩
      rw [List.take_succ_cons, List.filter_cons_of_neg hb, hplace]

theorem length_filter_take_mono {i j : Nat} (h : i ≤ j) :
    ((l.take i).filter p).length ≤ ((l.take j).filter p).length :=
  ((List.take_prefix_take_left h).sublist.filter p).length_le

theorem length_filter_take_lt {i j : Nat} (hij : i < j) (h : l[i]? = some a) (ha : p a) :
    ((l.take i).filter p).length < ((l.take j).filter p).length := by
  refine Nat.lt_of_lt_of_le ?_ (length_filter_take_mono hij)
  rw [List.take_add_one, h, List.filter_append]
  simp [ha]

end Filter

namespace Draft

variable {draft : Draft} {formats : List StreamFormat}

/-! ## Tracks -/

/-- The streams that get a track, in their order. -/
def tracks (draft : Draft) (formats : List StreamFormat) : List (StreamFormat × Snapshot) :=
  (formats.zip draft.snapshots).filter fun pair => !pair.2.isEmpty

/-- The packets as they are written, each marked with its track. -/
def writes (draft : Draft) (formats : List StreamFormat) : List Packet :=
  (Clip.interleave draft.snapshots (formats.map (·.timeBase))).map fun packet =>
    packet.onStream (trackOf draft.snapshots packet.stream)

theorem map_call_declarations (track : Nat) (formats : List StreamFormat)
    (snapshots : List Snapshot) :
    (declarations track formats snapshots).map (·.call) =
      ((formats.zip snapshots).filter fun pair => !pair.2.isEmpty).map (.declare ·.1) := by
  fun_induction declarations track formats snapshots with
  | case1 track format formats snapshot snapshots hempty ih => simp [ih, hempty]
  | case2 track format formats snapshot snapshots hfull ih => simp [ih, hfull]
  | case3 formats track snapshots hshort =>
    rcases formats with _ | ⟨format, formats⟩
    · rfl
    rcases snapshots with _ | ⟨snapshot, snapshots⟩
    · rfl
    exact absurd rfl (hshort format formats snapshot snapshots rfl)

theorem numbered_declarations (track : Nat) (formats : List StreamFormat)
    (snapshots : List Snapshot) :
    PlannedCall.Numbered track (declarations track formats snapshots) := by
  fun_induction declarations track formats snapshots with
  | case1 track format formats snapshot snapshots hempty ih => exact ih
  | case2 track format formats snapshot snapshots hfull ih => exact ⟨rfl, ih⟩
  | case3 => trivial

/-- The calls of the plan of a clip. -/
theorem calls_plan (draft : Draft) (formats : List StreamFormat) (path : String) :
    (draft.plan formats path).map (·.call) =
      .create path :: (draft.tracks formats).map (.declare ·.1) ++
        .header :: (draft.writes formats).map .write ++ [.finish] := by
  simp only [plan, List.map_append, List.map_cons, List.map_nil, List.map_map,
    map_call_declarations, tracks, writes]
  rfl

/-- **The plan of a clip numbers its tracks from zero.** -/
theorem numbered_plan (draft : Draft) (formats : List StreamFormat) (path : String) :
    PlannedCall.Numbered 0 (draft.plan formats path) := by
  refine PlannedCall.Numbered.append (PlannedCall.Numbered.append ?_ ?_) ?_
  · exact ⟨rfl, numbered_declarations 0 formats draft.snapshots⟩
  · refine PlannedCall.numbered_of_plain (fun planned hplanned => ?_) _
    rcases List.mem_cons.1 hplanned with rfl | hplanned
    · exact ⟨rfl, rfl⟩
    · obtain ⟨packet, -, rfl⟩ := List.mem_map.1 hplanned
      exact ⟨rfl, rfl⟩
  · exact PlannedCall.numbered_of_plain (by simp [MuxerCall.isDeclaration]) _

/-- A file is started once in a plan, by its first call. -/
theorem isCreation_of_mem_tail_plan {path : String} {call : MuxerCall}
    (h : call ∈ ((draft.plan formats path).map (·.call)).tail) : call.isCreation = false := by
  rw [calls_plan, List.append_assoc, List.cons_append, List.tail_cons] at h
  simp only [List.mem_append, List.mem_map, List.mem_cons, List.not_mem_nil, or_false] at h
  rcases h with ⟨pair, -, rfl⟩ | (rfl | ⟨packet, -, rfl⟩) | rfl <;> rfl

/-! ## What is written to a track -/

theorem trackOf_lt {i j : Nat} (hij : i < j) {snapshot : Snapshot}
    (hsnapshot : draft.snapshots[i]? = some snapshot) (hpackets : snapshot.packets ≠ []) :
    trackOf draft.snapshots i < trackOf draft.snapshots j :=
  length_filter_take_lt hij hsnapshot (by simpa [Snapshot.isEmpty] using hpackets)

theorem trackOf_injective {i j : Nat} {a b : Snapshot} (ha : draft.snapshots[i]? = some a)
    (hb : draft.snapshots[j]? = some b) (hane : a.packets ≠ []) (hbne : b.packets ≠ [])
    (h : trackOf draft.snapshots i = trackOf draft.snapshots j) : i = j := by
  rcases Nat.lt_trichotomy i j with hlt | heq | hgt
  · exact absurd h (Nat.ne_of_lt (trackOf_lt hlt ha hane))
  · exact heq
  · exact absurd h.symm (Nat.ne_of_lt (trackOf_lt hgt hb hbne))

/-- **The packets written to a track are those of its stream**, each once. -/
theorem filter_writes_perm (hlength : formats.length = draft.snapshots.length) {index : Nat}
    {snapshot : Snapshot} (hsnapshot : draft.snapshots[index]? = some snapshot)
    (hpackets : snapshot.packets ≠ []) :
    ((draft.writes formats).filter (·.stream == trackOf draft.snapshots index)).Perm
      (snapshot.packets.map (·.onStream (trackOf draft.snapshots index))) := by
  have hbases : draft.snapshots.length = (formats.map (·.timeBase)).length := by
    rw [List.length_map, hlength]
  -- of the packets of the clip, the track takes those of the stream and no others
  have htrack : ∀ packet ∈ Clip.interleave draft.snapshots (formats.map (·.timeBase)),
      ((trackOf draft.snapshots packet.stream == trackOf draft.snapshots index) =
        (packet.stream == index)) := by
    intro packet hpacket
    obtain ⟨other, hother, source, hsource, -⟩ := Clip.mem_interleave hbases hpacket
    rw [Bool.eq_iff_iff, beq_iff_eq, beq_iff_eq]
    exact ⟨trackOf_injective hother hsnapshot (List.ne_nil_of_mem hsource) hpackets,
      fun h => by rw [h]⟩
  have hfilter : (draft.writes formats).filter (·.stream == trackOf draft.snapshots index) =
      ((Clip.interleave draft.snapshots (formats.map (·.timeBase))).filter
        (·.stream == index)).map (·.onStream (trackOf draft.snapshots index)) := by
    rw [writes, List.filter_map]
    refine (congrArg _ (List.filter_congr htrack)).trans
      (List.map_congr_left fun packet hpacket => ?_)
    rw [beq_iff_eq.1 (List.mem_filter.1 hpacket).2]
  rw [hfilter]
  refine ((Clip.filter_interleave_perm hbases hsnapshot).map _).trans (List.Perm.of_eq ?_)
  rw [List.map_map]
  rfl

end Draft

end InstantReplay
