import InstantReplay.Proofs.Wire.Words
import InstantReplay.Wire.FrameRecord
import Mathlib.Data.List.Basic

/-!
# Records and the frames that they describe

A record can be read back from its bytes (`FrameRecord.ofBytes_toBytes`). It is valid exactly if it
announces as many descriptors as came with it, and has one to four planes that lie in objects it
announces (`FrameRecord.validate_eq_ok_iff`). The frames that have a record are those of such
planes (`FrameRecord.ofFrame_eq_ok_iff`); the record of a frame that a record described is the same
but for what means nothing (`FrameRecord.ofFrame_described`).
-/

namespace InstantReplay

namespace PlaneLayout

@[simp] theorem length_toBytes (plane : PlaneLayout) : plane.toBytes.length = 16 := by
  simp [toBytes]

end PlaneLayout

/-- A frame can be sent over the channel: its one to four planes lie in memory objects, and there
are no more of these than a message may carry. -/
structure Frame.Sendable (frame : Frame) : Prop where
  shared : frame.isShared
  planes_ne_nil : frame.planes ≠ []
  planes_le : frame.planes.length ≤ maxPlanes
  inside : ∀ plane ∈ frame.planes, plane.object.toNat < frame.objects.length
  objects_le : frame.objects.length ≤ maxDescriptors

namespace FrameRecord

/-! ## Bytes -/

theorem length_toBytes (record : FrameRecord) : record.toBytes.length = size := by
  have hplanes : (record.planes.toList.flatMap PlaneLayout.toBytes).length = 64 := by
    simp [List.length_flatMap]
    rfl
  simp only [toBytes, List.length_append, hplanes, Words.length_bytes32, Words.length_bytes64, size]

@[simp] theorem word_zero (first : UInt32) (rest : List UInt8) :
    word (Words.bytes32 first ++ rest) 0 = first := by
  rw [word, Nat.mul_zero, List.drop_zero, List.take_left' (Words.length_bytes32 first),
    Words.ofBytes32_bytes32]

@[simp] theorem word_succ (first : UInt32) (rest : List UInt8) (index : Nat) :
    word (Words.bytes32 first ++ rest) (index + 1) = word rest index := by
  have hdrop : (Words.bytes32 first ++ rest).drop (4 * (index + 1)) = rest.drop (4 * index) := by
    rw [Nat.mul_add, Nat.add_comm, ← List.drop_drop,
      List.drop_left' (by rw [Words.length_bytes32])]
  rw [word, word, hdrop]

@[simp] theorem word_add_two (first : UInt64) (rest : List UInt8) (index : Nat) :
    word (Words.bytes64 first ++ rest) (index + 2) = word rest index := by
  have hdrop : (Words.bytes64 first ++ rest).drop (4 * (index + 2)) = rest.drop (4 * index) := by
    rw [Nat.mul_add, Nat.add_comm, ← List.drop_drop,
      List.drop_left' (by rw [Words.length_bytes64])]
  rw [word, word, hdrop]

theorem word_flatMap_toBytes (planes : List PlaneLayout) {place : Nat} (h : place < planes.length) :
    (⟨word (planes.flatMap PlaneLayout.toBytes) (4 * place),
      word (planes.flatMap PlaneLayout.toBytes) (4 * place + 1),
      word (planes.flatMap PlaneLayout.toBytes) (4 * place + 2),
      word (planes.flatMap PlaneLayout.toBytes) (4 * place + 3)⟩ : PlaneLayout) = planes[place] := by
  induction planes generalizing place with
  | nil => exact absurd h (Nat.not_lt_zero _)
  | cons plane planes ih =>
    rw [List.flatMap_cons]
    cases place with
    | zero => simp [PlaneLayout.toBytes]
    | succ place =>
      have hbehind (index : Nat) :
          word (plane.toBytes ++ planes.flatMap PlaneLayout.toBytes) (index + 4) =
            word (planes.flatMap PlaneLayout.toBytes) index := by
        simp only [PlaneLayout.toBytes, List.append_assoc, word_succ]
      rw [List.getElem_cons_succ, ← ih (Nat.lt_of_succ_lt_succ h), ← hbehind, ← hbehind, ← hbehind,
        ← hbehind]
      rfl

/-- **A record is read back from its bytes.** -/
theorem ofBytes_toBytes (record : FrameRecord) : ofBytes record.toBytes = record := by
  have hmodifier : (record.toBytes.drop 24).take 8 = Words.bytes64 record.modifier := by
    have hfront : (Words.bytes32 record.width ++ Words.bytes32 record.height ++
        Words.bytes32 record.pixels.code ++ Words.bytes32 record.planeCount ++
        Words.bytes32 record.objectCount ++ Words.bytes32 record.reserved).length = 24 := by simp
    rw [toBytes, List.append_assoc, List.drop_left' hfront,
      List.take_left' (Words.length_bytes64 _)]
  have hplanes (index : Nat) : word record.toBytes (index + 8) =
      word (record.planes.toList.flatMap PlaneLayout.toBytes) index := by
    simp only [toBytes, List.append_assoc, word_succ, word_add_two]
  obtain ⟨width, height, pixels, planeCount, objectCount, reserved, modifier, planes⟩ := record
  simp only [ofBytes, hmodifier, Words.ofBytes64_bytes64, FrameRecord.mk.injEq]
  refine ⟨?_, ?_, ?_, ?_, ?_, ?_, trivial, ?_⟩
  iterate 6 simp only [toBytes, List.append_assoc, word_succ, word_zero]
  refine Vector.ext fun place hplace => ?_
  have hplane := word_flatMap_toBytes planes.toList
    (by simpa using hplace : place < planes.toList.length)
  rw [Vector.getElem_ofFn, ← Vector.getElem_toList (by simpa using hplace), ← hplane, ← hplanes,
    ← hplanes, ← hplanes, ← hplanes]
  dsimp only
  congr 2 <;> omega

/-! ## Records that are valid -/

/-- A record is as it should be when `arrived` descriptors came with it. -/
structure Valid (record : FrameRecord) (arrived : Nat) : Prop where
  planes_pos : 1 ≤ record.planeCount.toNat
  planes_le : record.planeCount.toNat ≤ maxPlanes
  objects : record.objectCount.toNat = arrived
  inside : ∀ plane ∈ record.usedPlanes, plane.object < record.objectCount

variable {record : FrameRecord} {arrived : Nat}

theorem length_usedPlanes (h : record.planeCount.toNat ≤ maxPlanes) :
    record.usedPlanes.length = record.planeCount.toNat := by
  rw [usedPlanes, List.length_take, Vector.length_toList, Nat.min_eq_left h]

/-- A record is found valid exactly if it is; otherwise the channel is at fault. -/
theorem validate_cases (record : FrameRecord) (arrived : Nat) :
    (record.Valid arrived ∧ record.validate arrived = .ok ()) ∨
      (¬ record.Valid arrived ∧ ∃ text, record.validate arrived = .error (.protocol text)) := by
  by_cases hplanes : record.planeCount.toNat = 0 ∨ maxPlanes < record.planeCount.toNat
  · refine Or.inr ⟨fun h => ?_, _, by simp only [validate, if_pos hplanes]; rfl⟩
    have hpos := h.planes_pos
    have hle := h.planes_le
    omega
  by_cases hobjects : record.objectCount.toNat ≠ arrived
  · exact Or.inr ⟨fun h => hobjects h.objects, _, by
      simp only [validate, if_neg hplanes, if_pos hobjects]; rfl⟩
  simp only [validate, if_neg hplanes, if_neg hobjects]
  cases hfind : record.usedPlanes.find? fun plane => record.objectCount ≤ plane.object with
  | some plane =>
    refine Or.inr ⟨fun h => ?_, _, rfl⟩
    have hinside := h.inside plane (List.mem_of_find?_eq_some hfind)
    have houtside := List.find?_some hfind
    rw [decide_eq_true_iff, ← UInt32.not_lt] at houtside
    exact houtside hinside
  | none =>
    refine Or.inl ⟨⟨by omega, by omega, not_not.1 hobjects, fun plane hplane => ?_⟩, rfl⟩
    have hinside := List.find?_eq_none.1 hfind plane hplane
    rwa [decide_eq_true_iff, UInt32.not_le] at hinside

theorem validate_eq_ok_iff : record.validate arrived = .ok () ↔ record.Valid arrived := by
  rcases validate_cases record arrived with ⟨hvalid, hok⟩ | ⟨hvalid, text, herror⟩
  · exact ⟨fun _ => hvalid, fun _ => hok⟩
  · rw [herror]
    exact ⟨fun h => (by cases h), fun h => absurd h hvalid⟩

/-! ## Records of frames -/

/-- The record of a picture with `objects` memory objects. -/
def describing (format : FrameFormat) (planes : List PlaneLayout) (objects : Nat) : FrameRecord where
  width := format.width
  height := format.height
  pixels := format.pixels
  planeCount := UInt32.ofNat planes.length
  objectCount := UInt32.ofNat objects
  reserved := 0
  modifier := format.modifier
  planes := Vector.ofFn fun i => planes[i.val]?.getD PlaneLayout.unused

variable {format : FrameFormat} {planes : List PlaneLayout} {objects : Nat} {frame : Frame}

@[simp] theorem format_describing : (describing format planes objects).format = format := rfl

theorem planeCount_describing (h : planes.length ≤ maxPlanes) :
    (describing format planes objects).planeCount.toNat = planes.length :=
  UInt32.toNat_ofNat_of_lt' (Nat.lt_of_le_of_lt h (by decide))

theorem usedPlanes_describing (h : planes.length ≤ maxPlanes) :
    (describing format planes objects).usedPlanes = planes := by
  refine List.ext_getElem ?_ fun place hplace hplane => ?_
  · rw [length_usedPlanes (by rwa [planeCount_describing h]), planeCount_describing h]
  · simp only [usedPlanes, describing, List.getElem_take, Vector.getElem_toList,
      Vector.getElem_ofFn, List.getElem?_eq_getElem hplane, Option.getD_some]

/-- **The frames that have a record** are those in shared memory with one to four planes, if the
record is valid. -/
theorem ofFrame_eq_ok_iff : ofFrame frame = .ok record ↔
    frame.isShared ∧ frame.planes ≠ [] ∧ frame.planes.length ≤ maxPlanes ∧
      (describing frame.format frame.planes frame.objects.length).Valid frame.objects.length ∧
      record = describing frame.format frame.planes frame.objects.length := by
  obtain ⟨format, pixels, pts⟩ := frame
  cases pixels with
  | memory bytes => simp [ofFrame, Frame.isShared]
  | shared planes objects =>
    simp only [Frame.isShared, Frame.planes, Frame.objects, true_and]
    by_cases hplanes : planes.isEmpty ∨ maxPlanes < planes.length
    · simp only [ofFrame, if_pos hplanes, reduceCtorEq, false_iff, not_and]
      intro hne hle
      rw [List.isEmpty_iff] at hplanes
      exact absurd hplanes (not_or.2 ⟨hne, Nat.not_lt.2 hle⟩)
    · have hrecord : ofFrame ⟨format, .shared planes objects, pts⟩ =
          ((describing format planes objects.length).validate objects.length).map
            fun _ => describing format planes objects.length := by
        simp only [ofFrame, if_neg hplanes, describing]
        split
        · rename_i hok
          rw [hok]
          rfl
        · rename_i herror
          rw [herror]
          rfl
      rw [List.isEmpty_iff, not_or, Nat.not_lt] at hplanes
      rw [hrecord]
      rcases validate_cases (describing format planes objects.length) objects.length with
        ⟨hvalid, hok⟩ | ⟨hvalid, text, herror⟩
      · rw [hok, Except.map, Except.ok.injEq]
        exact ⟨fun h => ⟨hplanes.1, hplanes.2, hvalid, h.symm⟩, fun h => h.2.2.2.symm⟩
      · simp only [herror, Except.map, reduceCtorEq, false_iff, not_and]
        exact fun _ _ h => absurd h hvalid

theorem valid_describing (hne : planes ≠ []) (hle : planes.length ≤ maxPlanes)
    (hobjects : objects ≤ maxDescriptors) (hinside : ∀ plane ∈ planes, plane.object.toNat < objects) :
    (describing format planes objects).Valid objects := by
  have hcount : (UInt32.ofNat objects).toNat = objects :=
    UInt32.toNat_ofNat_of_lt' (Nat.lt_of_le_of_lt hobjects (by decide))
  refine ⟨?_, ?_, hcount, fun plane hplane => ?_⟩
  · rw [planeCount_describing hle]
    exact List.length_pos_iff.2 hne
  · rwa [planeCount_describing hle]
  · rw [usedPlanes_describing hle] at hplane
    rw [UInt32.lt_iff_toNat_lt]
    exact Nat.lt_of_lt_of_eq (hinside plane hplane) hcount.symm

variable {attached : List Descriptor}

/-- The record with zeros where nothing is meant. -/
def cleared (record : FrameRecord) : FrameRecord :=
  { record with
    reserved := 0
    planes := Vector.ofFn fun i =>
      if i.val < record.planeCount.toNat then record.planes[i] else PlaneLayout.unused }

theorem describing_described (h : record.Valid attached.length) :
    describing record.format record.usedPlanes attached.length = record.cleared := by
  have hplanes := length_usedPlanes h.planes_le
  have hcount : UInt32.ofNat record.usedPlanes.length = record.planeCount := by
    rw [hplanes, UInt32.ofNat_toNat]
  have hobjects : UInt32.ofNat attached.length = record.objectCount := by
    rw [← h.objects, UInt32.ofNat_toNat]
  rw [describing, cleared, hcount, hobjects]
  congr 1
  refine Vector.ext fun place hplace => ?_
  rw [Vector.getElem_ofFn, Vector.getElem_ofFn]
  by_cases hused : place < record.planeCount.toNat
  · rw [if_pos hused, List.getElem?_eq_getElem (by rwa [hplanes]), Option.getD_some]
    simp only [usedPlanes, List.getElem_take, Vector.getElem_toList]
    rfl
  · rw [if_neg hused, List.getElem?_eq_none (by rw [hplanes]; exact Nat.not_lt.1 hused),
      Option.getD_none]

/-- **The frame that a valid record describes has this record again**, but for what means nothing
in it. -/
theorem ofFrame_described (h : record.Valid attached.length) (pts : Int64) :
    ofFrame ⟨record.format, .shared record.usedPlanes attached, pts⟩ = .ok record.cleared := by
  have hplanes := length_usedPlanes h.planes_le
  rw [ofFrame_eq_ok_iff]
  refine ⟨rfl, ?_, ?_, ?_, (describing_described h).symm⟩
  · rw [← List.length_pos_iff]
    exact Nat.lt_of_lt_of_eq h.planes_pos hplanes.symm
  · exact Nat.le_trans (Nat.le_of_eq hplanes) h.planes_le
  · show (describing record.format record.usedPlanes attached.length).Valid attached.length
    have hused : (describing record.format record.usedPlanes attached.length).usedPlanes =
        record.usedPlanes := usedPlanes_describing
      (Nat.le_trans (Nat.le_of_eq hplanes) h.planes_le)
    rw [describing_described h] at hused ⊢
    exact ⟨h.planes_pos, h.planes_le, h.objects, fun plane hplane => h.inside plane (hused ▸ hplane)⟩

end FrameRecord

theorem Frame.Sendable.ofFrame_eq {frame : Frame} (h : frame.Sendable) :
    FrameRecord.ofFrame frame =
      .ok (.describing frame.format frame.planes frame.objects.length) :=
  FrameRecord.ofFrame_eq_ok_iff.2 ⟨h.shared, h.planes_ne_nil, h.planes_le,
    FrameRecord.valid_describing h.planes_ne_nil h.planes_le h.objects_le h.inside, rfl⟩

end InstantReplay
