import InstantReplay.Proofs.Wire.FrameRecord
import InstantReplay.Proofs.Wire.Request
import InstantReplay.Proofs.Wire.Sending

/-!
# Frame messages on a stream

A message without a picture is eight bytes that stand for a negative time; any other begins with
eight bytes of time and a record. What is received is decided by the cells in front of the stream
and by the first chunk of the record, with which its descriptors come
(`FrameMessage.receive_eq_ok_none_iff`, `FrameMessage.receive_eq_ok_some_iff`). No byte from the
other end leads the receiver out of its buffers (`FrameMessage.receive?_eq`). A message that was
sent is received again, whichever way either end cuts it (`FrameMessage.exists_receive_cells`).
-/

namespace InstantReplay

namespace Inbound

variable {inbound later : Inbound} {want count : Nat} {bytes : List UInt8}
  {descriptors : List Descriptor}

/-! ## No more than was asked for -/

theorem length_takeFrom_le (want : Nat) (segments : List Segment) :
    (takeFrom want segments).1.length ≤ want := by
  induction segments generalizing want with
  | nil => exact Nat.zero_le _
  | cons segment segments ih =>
    rw [takeFrom]
    split
    · split
      · have hrest := ih (want - segment.bytes.length)
        simp only [List.length_append]
        omega
      · assumption
    · exact List.length_take_le _ _

theorem length_le_of_take (h : inbound.take want = (.ok (bytes, descriptors), later)) :
    bytes.length ≤ want := by
  by_cases hsegments : inbound.segments = []
  · have hnone : (inbound.take want).1 = .ok ([], []) ∨
        ∃ error, (inbound.take want).1 = .error error := by
      cases hending : inbound.ending with
      | closed => exact Or.inl (by simp only [take, hsegments, hending])
      | reset => exact Or.inr ⟨.os Errno.connectionReset, by simp only [take, hsegments, hending]⟩
      | silent =>
        by_cases hwant : want = 0
        · exact Or.inl (by simp only [take, hsegments, hending, if_pos hwant])
        · exact Or.inr ⟨.os Errno.tryAgain, by simp only [take, hsegments, hending, if_neg hwant]⟩
    rw [h] at hnone
    rcases hnone with hnone | ⟨error, hnone⟩
    · simp only [Except.ok.injEq, Prod.mk.injEq] at hnone
      simp [hnone.1]
    · cases hnone
  · obtain ⟨limit, cuts, -, hle, htake⟩ := exists_limit want hsegments
    rw [h, Prod.mk.injEq, Except.ok.injEq, Prod.mk.injEq] at htake
    rw [htake.1.1]
    exact Nat.le_trans (length_takeFrom_le limit inbound.segments) hle

theorem length_le_of_receive (h : inbound.receive want = (.ok (bytes, descriptors), later)) :
    bytes.length ≤ want := by
  cases hrefusals : afterInterruptions inbound.refusals with
  | cons code refusals => simp [receive, hrefusals] at h
  | nil =>
    rcases htake : take { inbound with refusals := [] } want with
      ⟨error | ⟨content, attached⟩, middle⟩
    · simp [receive, hrefusals, htake] at h
    · simp only [receive, hrefusals, htake] at h
      by_cases hroom : (if inbound.identified then 0 else maxDescriptors) < attached.length
      · simp [if_pos hroom] at h
      · simp only [if_neg hroom, Prod.mk.injEq, Except.ok.injEq] at h
        exact h.1.1 ▸ length_le_of_take htake

theorem length_of_readRounds {rounds : Nat}
    (h : readRounds rounds inbound count = (.ok bytes, later)) : bytes.length = count := by
  induction rounds generalizing inbound count bytes with
  | zero =>
    cases count with
    | zero =>
      simp only [readRounds, Prod.mk.injEq, Except.ok.injEq] at h
      rw [← h.1, List.length_nil]
    | succ count => simp [readRounds] at h
  | succ rounds ih =>
    cases count with
    | zero =>
      simp only [readRounds, Prod.mk.injEq, Except.ok.injEq] at h
      rw [← h.1, List.length_nil]
    | succ count =>
      rcases htake : inbound.take (count + 1) with
        ⟨error | ⟨_ | ⟨byte, chunk⟩, attached⟩, middle⟩
      · simp [readRounds, htake] at h
      · simp [readRounds, htake] at h
      · have hchunk := length_le_of_take htake
        rcases hread : readRounds rounds middle (count + 1 - (byte :: chunk).length) with
          ⟨error | more, last⟩
        · simp only [readRounds, htake, hread] at h
          simp at h
        · simp only [readRounds, htake, hread, Prod.mk.injEq, Except.ok.injEq] at h
          rw [h.2] at hread
          have hmore := ih hread
          rw [← h.1, List.length_append]
          omega

/-- A read that succeeds fills the buffer. -/
theorem length_of_receiveExact
    (h : inbound.receiveExact count = (.ok (bytes, descriptors), later)) :
    bytes.length = count := by
  rcases hreceive : inbound.receive count with ⟨error | ⟨front, attached⟩, middle⟩
  · simp [receiveExact, hreceive] at h
  · have hfront := length_le_of_receive hreceive
    simp only [receiveExact, hreceive] at h
    split at h
    · simp at h
    · rcases hread : middle.readExact (count - front.length) with ⟨error | more, last⟩
      · simp [hread] at h
      · simp only [hread, Prod.mk.injEq, Except.ok.injEq] at h
        have hmore := length_of_readRounds hread
        rw [← h.1.1, List.length_append]
        omega

/-- `receiveExact`, where the rest of a buffer that is already full by more than its size is
none. -/
def receiveExact? (inbound : Inbound) (count : Nat) :
    Option (Except IoError (List UInt8 × List Descriptor) × Inbound) :=
  match inbound.receive count with
  | (.error error, rest) => some (.error error, rest)
  | (.ok (bytes, descriptors), rest) =>
    if bytes.isEmpty ∧ count ≠ 0 then some (.error ended, rest)
    else if count < bytes.length then none
    else
      match rest.readExact (count - bytes.length) with
      | (.ok more, rest) => some (.ok (bytes ++ more, descriptors), rest)
      | (.error error, rest) => some (.error error, rest)

theorem receiveExact?_eq (inbound : Inbound) (count : Nat) :
    inbound.receiveExact? count = some (inbound.receiveExact count) := by
  rcases hreceive : inbound.receive count with ⟨error | ⟨front, attached⟩, middle⟩
  · simp only [receiveExact?, receiveExact, hreceive]
  · have hfront := Nat.not_lt.2 (length_le_of_receive hreceive)
    simp only [receiveExact?, receiveExact, hreceive, if_neg hfront]
    split
    · rfl
    · cases hread : middle.readExact (count - front.length) with
      | mk result last => cases result <;> rfl

end Inbound

namespace FrameRecord

/-! ## Slices -/

/-- The first `count` planes, where a record has so many. -/
def firstPlanes? (record : FrameRecord) (count : Nat) : Option (List PlaneLayout) :=
  if count ≤ maxPlanes then some (record.planes.toList.take count) else none

/-- `validate`, where the planes are a slice. -/
def validate? (record : FrameRecord) (arrived : Nat) : Option (Except Failure Unit) :=
  let planes := record.planeCount.toNat
  let objects := record.objectCount.toNat
  if planes = 0 ∨ maxPlanes < planes then some (.error (badPlaneCount planes))
  else if objects ≠ arrived then
    some (.error (.protocol
      s!"frame announces {objects} memory objects but {arrived} fds arrived"))
  else do
    match (← record.firstPlanes? planes).find? fun plane => record.objectCount ≤ plane.object with
    | some plane =>
      let object := plane.object.toNat
      return .error (.protocol s!"plane references object {object} of {objects}")
    | none => return .ok ()

theorem validate?_eq (record : FrameRecord) (arrived : Nat) :
    record.validate? arrived = some (record.validate arrived) := by
  by_cases hplanes : record.planeCount.toNat = 0 ∨ maxPlanes < record.planeCount.toNat
  · simp only [validate?, validate, if_pos hplanes]
  by_cases hobjects : record.objectCount.toNat ≠ arrived
  · simp only [validate?, validate, if_neg hplanes, if_pos hobjects]
  have hfirst : record.firstPlanes? record.planeCount.toNat = some record.usedPlanes :=
    if_pos (by omega)
  simp only [validate?, validate, if_neg hplanes, if_neg hobjects, hfirst, Option.bind_eq_bind,
    Option.bind_some]
  cases record.usedPlanes.find? fun plane => record.objectCount ≤ plane.object <;> rfl

end FrameRecord

namespace FrameMessage

/-- `receive`, where nothing is taken from outside of a buffer. -/
def receive? (inbound : Inbound) : Option (Except Failure (Option Frame) × Inbound) :=
  match inbound.readExact 8 with
  | (.error error, rest) => some (.error (.ofRead error), rest)
  | (.ok time, rest) =>
    let pts := (Words.ofBytes64 time).toInt64
    if pts < 0 then some (.ok none, rest)
    else do
      match ← rest.receiveExact? FrameRecord.size with
      | (.error error, rest) => return (.error (.ofRead error), rest)
      | (.ok (bytes, objects), rest) =>
        guard (bytes.length = FrameRecord.size)
        let record := FrameRecord.ofBytes bytes
        match ← record.validate? objects.length with
        | .error failure => return (.error failure, rest)
        | .ok () =>
          let planes ← record.firstPlanes? (min record.planeCount.toNat maxPlanes)
          return (.ok (some ⟨record.format, .shared planes objects, pts⟩), rest)

/-- **The receiver stays inside its buffers**, whatever comes. -/
theorem receive?_eq (inbound : Inbound) : receive? inbound = some (receive inbound) := by
  rcases htime : inbound.readExact 8 with ⟨error | time, rest⟩
  · simp only [receive?, receive, htime]
  by_cases hpts : (Words.ofBytes64 time).toInt64 < 0
  · simp only [receive?, receive, htime, if_pos hpts]
  simp only [receive?, receive, htime, if_neg hpts, Inbound.receiveExact?_eq,
    Option.bind_eq_bind, Option.bind_some]
  rcases hrecord : rest.receiveExact FrameRecord.size with ⟨error | ⟨bytes, objects⟩, rest⟩
  · rfl
  have hlength := Inbound.length_of_receiveExact hrecord
  simp only [hlength, guard_true, FrameRecord.validate?_eq, Option.bind_some]
  rcases FrameRecord.validate_cases (FrameRecord.ofBytes bytes) objects.length with
    ⟨hvalid, hok⟩ | ⟨-, text, herror⟩
  · have hplanes : (FrameRecord.ofBytes bytes).firstPlanes?
        (min (FrameRecord.ofBytes bytes).planeCount.toNat maxPlanes) =
          some (FrameRecord.ofBytes bytes).usedPlanes := by
      rw [Nat.min_eq_left hvalid.planes_le]
      exact if_pos hvalid.planes_le
    simp only [hok, hplanes]
    rfl
  · simp only [herror]
    rfl

/-! ## What is received -/

variable {inbound later : Inbound}

/-- The time at the front of a stream. -/
def arrivedTime (inbound : Inbound) : Int64 := (Words.ofBytes64 (inbound.unread.take 8)).toInt64

/-- The record behind the time. -/
def arrivedRecord (inbound : Inbound) : FrameRecord :=
  .ofBytes ((inbound.unread.drop 8).take FrameRecord.size)

/-- What the first call for the record takes off the stream. -/
def recordChunk (inbound : Inbound) : List Cell :=
  match (inbound.readExact 8).2.receive FrameRecord.size with
  | (.ok (content, _), _) => (inbound.cells.drop 8).take content.length
  | (.error _, _) => []

/-- The descriptors that come with the record. -/
def arrivedObjects (inbound : Inbound) : List Descriptor := Cell.descriptors (recordChunk inbound)

/-- The frame at the front of a stream. -/
def arrivedFrame (inbound : Inbound) : Frame where
  format := (arrivedRecord inbound).format
  pixels := .shared (arrivedRecord inbound).usedPlanes (arrivedObjects inbound)
  pts := arrivedTime inbound

/-- A stream begins with the word that there is no picture. -/
structure WithoutFrame (inbound : Inbound) : Prop where
  arrived : 8 ≤ inbound.unread.length
  negative : arrivedTime inbound < 0

/-- A stream begins with a picture as it should be. -/
structure WithFrame (inbound : Inbound) : Prop where
  arrived : 8 + FrameRecord.size ≤ inbound.unread.length
  nonnegative : 0 ≤ arrivedTime inbound
  record : (arrivedRecord inbound).Valid (arrivedObjects inbound).length

theorem exists_receive_withoutFrame (h : inbound.Filled) (hfront : WithoutFrame inbound) :
    ∃ later, receive inbound = (.ok none, later) ∧
      inbound.Passes (inbound.cells.take 8) later := by
  have harrived := hfront.arrived
  rw [← Inbound.length_cells] at harrived
  obtain ⟨later, hread, hpasses⟩ := Inbound.exists_readExact 8 h harrived
  refine ⟨later, ?_, hpasses⟩
  have hnegative := hfront.negative
  rw [arrivedTime] at hnegative
  simp only [receive, hread, if_pos hnegative]

/-- Once time and record are there, the record decides. -/
theorem exists_receive_record (h : inbound.Reliable)
    (harrived : 8 + FrameRecord.size ≤ inbound.cells.length)
    (htime : 0 ≤ arrivedTime inbound) :
    ∃ later, receive inbound =
        (((arrivedRecord inbound).validate (arrivedObjects inbound).length).map
          fun _ => some (arrivedFrame inbound), later) ∧
      inbound.Passes (inbound.cells.take (8 + FrameRecord.size)) later ∧
      recordChunk inbound ≠ [] ∧
      recordChunk inbound <+: (inbound.cells.drop 8).take FrameRecord.size := by
  obtain ⟨middle, hread, hpasses⟩ := Inbound.exists_readExact 8 h.toFilled (by omega)
  have hcells := hpasses.cells_drop
  have hunread := hpasses.unread_drop
  obtain ⟨chunk, rest, later, hreceive, hexact, hlater, hchunk, -, hbegins⟩ :=
    Inbound.exists_receiveExact FrameRecord.size (hpasses.reliable h) (by decide) (by
      rw [hcells, List.length_drop]
      omega)
  rw [hunread] at hexact
  rw [hcells] at hlater hbegins
  have hfirst : recordChunk inbound = chunk := by
    rw [recordChunk, hread, hreceive]
    dsimp only
    rw [Cell.length_bytes]
    exact (List.prefix_iff_eq_take.1 (hbegins.trans (List.take_prefix _ _))).symm
  refine ⟨later, ?_, ?_, hfirst ▸ hchunk, hfirst ▸ hbegins⟩
  · rw [arrivedTime, ← Int64.not_lt] at htime
    simp only [receive, hread, if_neg htime, hexact, arrivedFrame, arrivedRecord, arrivedObjects,
      hfirst, arrivedTime]
    cases FrameRecord.validate _ _ <;> rfl
  · rw [List.take_add]
    exact hpasses.trans hlater

theorem exists_receive_withFrame (h : inbound.Reliable) (hfront : WithFrame inbound) :
    ∃ later, receive inbound = (.ok (some (arrivedFrame inbound)), later) ∧
      inbound.Passes (inbound.cells.take (8 + FrameRecord.size)) later := by
  obtain ⟨later, hreceive, hpasses, -⟩ :=
    exists_receive_record h (inbound.length_cells ▸ hfront.arrived) hfront.nonnegative
  rw [FrameRecord.validate_eq_ok_iff.2 hfront.record] at hreceive
  exact ⟨later, hreceive, hpasses⟩

/-- A stream that begins with neither is at fault. -/
theorem exists_receive_error (h : inbound.Reliable) (hclosed : inbound.ending = .closed)
    (hwithout : ¬ WithoutFrame inbound) (hwith : ¬ WithFrame inbound) :
    ∃ text later, receive inbound = (.error (.protocol text), later) := by
  by_cases htime : 8 ≤ inbound.cells.length
  · have hpts : 0 ≤ arrivedTime inbound := Int64.not_lt.1 fun hnegative =>
      hwithout ⟨inbound.length_cells ▸ htime, hnegative⟩
    by_cases hrecord : 8 + FrameRecord.size ≤ inbound.cells.length
    · obtain ⟨later, hreceive, -⟩ := exists_receive_record h hrecord hpts
      rcases FrameRecord.validate_cases (arrivedRecord inbound) (arrivedObjects inbound).length with
        ⟨hvalid, -⟩ | ⟨-, text, herror⟩
      · exact absurd ⟨inbound.length_cells ▸ hrecord, hpts, hvalid⟩ hwith
      · rw [herror] at hreceive
        exact ⟨text, later, hreceive⟩
    · obtain ⟨middle, hread, hpasses⟩ := Inbound.exists_readExact 8 h.toFilled htime
      have hlength := congrArg List.length hpasses.cells_eq
      rw [List.length_append, List.length_take] at hlength
      obtain ⟨error, later, hexact, herror⟩ := Inbound.exists_receiveExact_error
        FrameRecord.size (hpasses.reliable h) (by omega)
      rw [hpasses.ending, hclosed] at herror
      rw [arrivedTime, ← Int64.not_lt] at hpts
      refine ⟨"connection closed unexpectedly", later, ?_⟩
      simp only [receive, hread, if_neg hpts, hexact]
      rcases herror with rfl | rfl <;> rfl
  · obtain ⟨later, hread⟩ := Inbound.exists_readExact_error 8 h.toFilled (by omega)
    refine ⟨"connection closed unexpectedly", later, ?_⟩
    simp only [receive, hread, hclosed]
    rfl

/-- Every failure ends the session, whichever stream it comes from. -/
theorem endsSession_of_receive {failure : Failure}
    (h : receive inbound = (.error failure, later)) :
    failure.endsSession ∧ ((∃ text, failure = .protocol text) ∨ ∃ error, failure = .io error) := by
  have hcause : (∃ text, failure = .protocol text) ∨ ∃ error, failure = .io error := by
    rcases htime : inbound.readExact 8 with ⟨error | time, rest⟩
    · simp only [receive, htime, Prod.mk.injEq, Except.error.injEq] at h
      exact h.1 ▸ Failure.ofRead_cases error
    by_cases hpts : (Words.ofBytes64 time).toInt64 < 0
    · simp [receive, htime, if_pos hpts] at h
    rcases hrecord : rest.receiveExact FrameRecord.size with ⟨error | ⟨bytes, objects⟩, rest⟩
    · simp only [receive, htime, if_neg hpts, hrecord, Prod.mk.injEq, Except.error.injEq] at h
      exact h.1 ▸ Failure.ofRead_cases error
    rcases FrameRecord.validate_cases (FrameRecord.ofBytes bytes) objects.length with
      ⟨-, hok⟩ | ⟨-, text, herror⟩
    · simp [receive, htime, if_neg hpts, hrecord, hok] at h
    · simp only [receive, htime, if_neg hpts, hrecord, herror, Prod.mk.injEq,
        Except.error.injEq] at h
      exact Or.inl ⟨text, h.1.symm⟩
  refine ⟨?_, hcause⟩
  rcases hcause with ⟨text, rfl⟩ | ⟨error, rfl⟩ <;> rfl

/-- A frame keeps to the record that it came with. -/
structure Keeps (record : FrameRecord) (frame : Frame) : Prop where
  planes : frame.planes.length = record.planeCount.toNat
  inside : ∀ plane ∈ frame.planes, plane.object.toNat < frame.objects.length
  again : FrameRecord.ofFrame frame = .ok record.cleared

theorem WithFrame.keeps (h : WithFrame inbound) :
    Keeps (arrivedRecord inbound) (arrivedFrame inbound) where
  planes := FrameRecord.length_usedPlanes h.record.planes_le
  inside plane hplane := by
    have hinside := UInt32.lt_iff_toNat_lt.1 (h.record.inside plane hplane)
    exact Nat.lt_of_lt_of_eq hinside h.record.objects
  again := FrameRecord.ofFrame_described h.record (arrivedTime inbound)

/-- **What the receiver makes of a stream** that ends when the other end closes it. It stays inside
its buffers. It finds no picture, or a picture, exactly if the stream begins with such a message,
which it then takes off. A picture is safe to use and has its record again. All else is a failure
that ends the session. -/
theorem receive_decides (h : inbound.Reliable) (hclosed : inbound.ending = .closed) :
    receive? inbound = some (receive inbound) ∧
    ((receive inbound).1 = .ok none ↔ WithoutFrame inbound) ∧
    ((∃ frame, (receive inbound).1 = .ok (some frame)) ↔ WithFrame inbound) ∧
    (8 + FrameRecord.size ≤ inbound.unread.length → 0 ≤ arrivedTime inbound →
      recordChunk inbound ≠ [] ∧
        recordChunk inbound <+: (inbound.cells.drop 8).take FrameRecord.size) ∧
    ∀ result later, receive inbound = (result, later) →
      match result with
      | .ok none => later.cells = inbound.cells.drop 8
      | .ok (some frame) =>
        later.cells = inbound.cells.drop (8 + FrameRecord.size) ∧ frame = arrivedFrame inbound ∧
          Keeps (arrivedRecord inbound) frame
      | .error failure =>
        failure.endsSession ∧
          ((∃ text, failure = .protocol text) ∨ ∃ error, failure = .io error) := by
  have hfirst (hlength : 8 + FrameRecord.size ≤ inbound.unread.length)
      (htime : 0 ≤ arrivedTime inbound) :
      recordChunk inbound ≠ [] ∧
        recordChunk inbound <+: (inbound.cells.drop 8).take FrameRecord.size := by
    obtain ⟨later, -, -, hchunk⟩ := exists_receive_record h (inbound.length_cells ▸ hlength) htime
    exact hchunk
  refine ⟨receive?_eq inbound, ?_⟩
  by_cases hwithout : WithoutFrame inbound
  · have hwith : ¬ WithFrame inbound := fun hwith =>
      Int64.not_lt.2 hwith.nonnegative hwithout.negative
    obtain ⟨later, hreceive, hpasses⟩ := exists_receive_withoutFrame h.toFilled hwithout
    have hleft := hpasses.eq_take.2
    rw [List.length_take, Inbound.length_cells, Nat.min_eq_left hwithout.arrived] at hleft
    rw [hreceive]
    refine ⟨by simp [hwithout], by simp [hwith], hfirst, ?_⟩
    rintro _ _ ⟨⟩
    exact hleft
  by_cases hwith : WithFrame inbound
  · obtain ⟨later, hreceive, hpasses⟩ := exists_receive_withFrame h hwith
    have hleft := hpasses.eq_take.2
    rw [List.length_take, Inbound.length_cells, Nat.min_eq_left hwith.arrived] at hleft
    rw [hreceive]
    refine ⟨by simp [hwithout], by simp [hwith], hfirst, ?_⟩
    rintro _ _ ⟨⟩
    exact ⟨hleft, rfl, hwith.keeps⟩
  obtain ⟨text, later, hreceive⟩ := exists_receive_error h hclosed hwithout hwith
  refine ⟨by simp [hreceive, hwithout], by simp [hreceive, hwith], hfirst, ?_⟩
  intro result later hresult
  rw [hreceive] at hresult
  obtain ⟨rfl, rfl⟩ := Prod.mk.inj hresult
  exact endsSession_of_receive hreceive

/-- A picture with two planes in one object, sent in pieces. -/
def pieces : Inbound where
  segments :=
    let record : FrameRecord := .describing ⟨64, 32, ⟨842094158⟩, 0⟩ [⟨0, 64, 0, 0⟩, ⟨0, 64, 2048, 0⟩] 1
    [⟨timeBytes 5, []⟩, ⟨record.toBytes.take 40, [⟨⟨#[7]⟩⟩]⟩, ⟨record.toBytes.drop 40, []⟩, ⟨[1], []⟩]
  cuts := [3, 20, 7]

theorem receive_decides_pieces : WithFrame pieces ∧
    ∃ frame, (receive pieces).1 = .ok (some frame) ∧ frame.planes.length = 2 := by
  have hreliable : pieces.Reliable := ⟨⟨by decide +kernel⟩, by decide +kernel, rfl, rfl⟩
  have hwith : WithFrame pieces := ⟨by decide +kernel, by decide +kernel,
    by decide +kernel, by decide +kernel, by decide +kernel, by decide +kernel⟩
  obtain ⟨-, -, hsome, -, hresult⟩ := receive_decides hreliable rfl
  obtain ⟨frame, hframe⟩ := hsome.2 hwith
  obtain ⟨-, -, hkeeps⟩ := hresult (.ok (some frame)) _ (Prod.ext hframe rfl)
  exact ⟨hwith, frame, hframe, hkeeps.planes⟩

/-! ## Messages that are received again -/

/-- The cells of a message. -/
def cells (pts : Int64) (frame : Option Frame) : List Cell :=
  if pts < 0 then Cell.plain (timeBytes pts)
  else
    match frame with
    | none => Cell.plain (timeBytes noFrame)
    | some frame =>
      Cell.plain (timeBytes pts) ++
        Cell.attach
          (FrameRecord.describing frame.format frame.planes frame.objects.length).toBytes
          frame.objects

/-- A message that can be sent: its frame, if it means one, can be. -/
def CanSend (pts : Int64) (frame : Option Frame) : Prop :=
  pts < 0 ∨ ∀ picture ∈ frame, picture.Sendable

/-- What the receiver gets of a message. -/
def delivered (pts : Int64) (frame : Option Frame) : Option Frame :=
  if pts < 0 then none else frame.map fun picture => { picture with pts }

variable {outbound sent : Outbound} {pts : Int64} {frame : Option Frame} {behind : List Cell}

theorem cells_of_neg (h : pts < 0) : cells pts frame = Cell.plain (timeBytes pts) := by
  simp [cells, h]

theorem cells_none (h : ¬ pts < 0) : cells pts none = Cell.plain (timeBytes noFrame) := by
  simp [cells, h]

theorem cells_some (h : ¬ pts < 0) (frame : Frame) :
    cells pts (some frame) = Cell.plain (timeBytes pts) ++
      Cell.attach (FrameRecord.describing frame.format frame.planes frame.objects.length).toBytes
        frame.objects := by
  simp [cells, h]

/-- **A message that is accepted adds its cells.** -/
theorem adds_send (h : outbound.Steady) (hsent : send pts frame outbound = (.ok (), sent)) :
    outbound.Adds (cells pts frame) sent ∧ CanSend pts frame := by
  by_cases hpts : pts < 0
  · rcases hwrite : outbound.writeAll (timeBytes pts) with ⟨error | ⟨⟩, written⟩
    · simp [send, hpts, hwrite] at hsent
    · simp only [send, hpts, hwrite, if_true, Prod.mk.injEq, true_and] at hsent
      rw [cells_of_neg hpts]
      exact ⟨Outbound.adds_writeAll h (hsent ▸ hwrite), Or.inl hpts⟩
  cases frame with
  | none =>
    rcases hwrite : outbound.writeAll (timeBytes noFrame) with ⟨error | ⟨⟩, written⟩
    · simp [send, hpts, hwrite] at hsent
    · simp only [send, hpts, hwrite, if_false, Prod.mk.injEq, true_and] at hsent
      rw [cells_none hpts]
      exact ⟨Outbound.adds_writeAll h (hsent ▸ hwrite), Or.inr (by simp)⟩
  | some frame =>
    cases hrecord : FrameRecord.ofFrame frame with
    | error failure => simp [send, hpts, hrecord] at hsent
    | ok record =>
      rcases hwrite : outbound.writeAll (timeBytes pts) with ⟨error | ⟨⟩, written⟩
      · simp [send, hpts, hrecord, hwrite] at hsent
      rcases hattach : written.send record.toBytes frame.objects with ⟨error | ⟨⟩, last⟩
      · simp [send, hpts, hrecord, hwrite, hattach] at hsent
      simp only [send, hpts, hrecord, hwrite, hattach, if_false, Prod.mk.injEq, true_and] at hsent
      obtain ⟨hshared, hne, hle, hvalid, rfl⟩ := FrameRecord.ofFrame_eq_ok_iff.1 hrecord
      have htime := Outbound.adds_writeAll h hwrite
      have hadds := htime.trans (Outbound.adds_send htime.steady (hsent ▸ hattach))
      rw [cells_some hpts]
      refine ⟨hadds, Or.inr ?_⟩
      rintro picture ⟨⟩
      refine ⟨hshared, hne, hle, fun plane hplane => ?_, Outbound.length_le_of_send hattach⟩
      rw [← hvalid.objects]
      refine UInt32.lt_iff_toNat_lt.1 (hvalid.inside plane ?_)
      rwa [FrameRecord.usedPlanes_describing hle]

@[simp] theorem length_plain_timeBytes (pts : Int64) :
    (Cell.plain (timeBytes pts)).length = 8 := by
  rw [← Cell.length_bytes, Cell.bytes_plain]
  exact Words.length_bytes64 _

theorem arrivedTime_of_cells
    (hcells : inbound.cells = Cell.plain (timeBytes pts) ++ behind) :
    8 ≤ inbound.unread.length ∧ arrivedTime inbound = pts := by
  have hunread : inbound.unread = timeBytes pts ++ Cell.bytes behind := by
    rw [← Inbound.bytes_cells, hcells, Cell.bytes_append, Cell.bytes_plain]
  have hlength : (timeBytes pts).length = 8 := Words.length_bytes64 _
  constructor
  · rw [hunread, List.length_append]
    omega
  · rw [arrivedTime, hunread, List.take_left' hlength, timeBytes, Words.ofBytes64_bytes64]
    exact Int64.toInt64_toUInt64 pts

theorem exists_receive_negative (h : inbound.Reliable)
    (hcells : inbound.cells = Cell.plain (timeBytes pts) ++ behind) (hpts : pts < 0) :
    ∃ later, receive inbound = (.ok none, later) ∧
      inbound.Passes (Cell.plain (timeBytes pts)) later := by
  obtain ⟨harrived, htime⟩ := arrivedTime_of_cells hcells
  obtain ⟨later, hreceive, hpasses⟩ :=
    exists_receive_withoutFrame h.toFilled ⟨harrived, htime ▸ hpts⟩
  rw [hcells, List.take_left' (length_plain_timeBytes pts)] at hpasses
  exact ⟨later, hreceive, hpasses⟩

/-- **A message that was sent is received**, whichever way the stream is cut. -/
theorem exists_receive_cells (h : inbound.Reliable) (hsend : CanSend pts frame)
    (hcells : inbound.cells = cells pts frame ++ behind) :
    ∃ later, receive inbound = (.ok (delivered pts frame), later) ∧
      inbound.Passes (cells pts frame) later := by
  by_cases hpts : pts < 0
  · rw [cells_of_neg hpts] at hcells ⊢
    rw [delivered, if_pos hpts]
    exact exists_receive_negative h hcells hpts
  rw [delivered, if_neg hpts]
  cases frame with
  | none =>
    rw [cells_none hpts] at hcells ⊢
    exact exists_receive_negative h hcells (by decide)
  | some frame =>
    have hframe := (hsend.resolve_left hpts) frame rfl
    rw [cells_some hpts] at hcells ⊢
    obtain ⟨-, htime⟩ := arrivedTime_of_cells (hcells.trans (List.append_assoc _ _ _))
    have hlength : (Cell.attach (FrameRecord.describing frame.format frame.planes
        frame.objects.length).toBytes frame.objects).length = FrameRecord.size := by
      rw [Cell.length_attach, FrameRecord.length_toBytes]
    have hrecord : (inbound.cells.drop 8).take FrameRecord.size =
        Cell.attach (FrameRecord.describing frame.format frame.planes
          frame.objects.length).toBytes frame.objects := by
      rw [hcells, List.append_assoc, List.drop_left' (length_plain_timeBytes pts),
        List.take_left' hlength]
    have harrived : 8 + FrameRecord.size ≤ inbound.cells.length := by
      rw [hcells, List.length_append, List.length_append, hlength, length_plain_timeBytes]
      exact Nat.le_add_right _ _
    have hwhole : inbound.cells.take (8 + FrameRecord.size) = Cell.plain (timeBytes pts) ++
        Cell.attach (FrameRecord.describing frame.format frame.planes
          frame.objects.length).toBytes frame.objects := by
      rw [List.take_add, hrecord, hcells, List.append_assoc,
        List.take_left' (length_plain_timeBytes pts)]
    have hdescribed : arrivedRecord inbound =
        FrameRecord.describing frame.format frame.planes frame.objects.length := by
      have hbytes : (inbound.unread.drop 8).take FrameRecord.size =
          Cell.bytes ((inbound.cells.drop 8).take FrameRecord.size) := by
        rw [Cell.bytes_take, Cell.bytes_drop, Inbound.bytes_cells]
      rw [arrivedRecord, hbytes, hrecord, Cell.bytes_attach, FrameRecord.ofBytes_toBytes]
    obtain ⟨later, hreceive, hpasses, hchunk, hbegins⟩ :=
      exists_receive_record h harrived (by rw [htime]; exact Int64.not_lt.1 hpts)
    rw [hrecord] at hbegins
    have hobjects : arrivedObjects inbound = frame.objects :=
      Cell.descriptors_of_prefix_attach hchunk hbegins
    have hvalid : (FrameRecord.describing frame.format frame.planes frame.objects.length).validate
        frame.objects.length = .ok () :=
      FrameRecord.validate_eq_ok_iff.2 (FrameRecord.valid_describing hframe.planes_ne_nil
        hframe.planes_le hframe.objects_le hframe.inside)
    have hsame : arrivedFrame inbound = { frame with pts } := by
      obtain ⟨format, pixels, time⟩ := frame
      cases pixels with
      | memory bytes => exact absurd hframe.shared Bool.false_ne_true
      | shared planes objects =>
        rw [arrivedFrame, hdescribed, hobjects, htime,
          FrameRecord.usedPlanes_describing hframe.planes_le]
        rfl
    rw [hdescribed, hobjects, hvalid, hsame] at hreceive
    exact ⟨later, hreceive, hwhole ▸ hpasses⟩

/-! ## Many messages -/

/-- Sends messages up to the first failure. -/
def sendAll : List (Int64 × Option Frame) → Outbound → Except Failure Unit × Outbound
  | [], outbound => (.ok (), outbound)
  | (pts, frame) :: rest, outbound =>
    match send pts frame outbound with
    | (.ok (), outbound) => sendAll rest outbound
    | (.error failure, outbound) => (.error failure, outbound)

/-- The cells of messages. -/
def cellsOf (messages : List (Int64 × Option Frame)) : List Cell :=
  messages.flatMap fun message => cells message.1 message.2

variable {messages : List (Int64 × Option Frame)}

theorem adds_sendAll (h : outbound.Steady) (hsent : sendAll messages outbound = (.ok (), sent)) :
    outbound.Adds (cellsOf messages) sent ∧
      ∀ message ∈ messages, CanSend message.1 message.2 := by
  induction messages generalizing outbound with
  | nil =>
    obtain rfl := (Prod.mk.inj hsent).2
    exact ⟨Outbound.Adds.refl h, by simp⟩
  | cons message messages ih =>
    obtain ⟨pts, frame⟩ := message
    rcases hfirst : send pts frame outbound with ⟨failure | ⟨⟩, middle⟩
    · simp [sendAll, hfirst] at hsent
    · simp only [sendAll, hfirst] at hsent
      obtain ⟨hadds, hcan⟩ := adds_send h hfirst
      obtain ⟨hrest, hall⟩ := ih hadds.steady hsent
      exact ⟨hadds.trans hrest, List.forall_mem_cons.2 ⟨hcan, hall⟩⟩

/-- **Messages that were sent are received**, one after the other. -/
theorem exists_receiveAll_cells (h : inbound.Reliable)
    (hsend : ∀ message ∈ messages, CanSend message.1 message.2)
    (hcells : inbound.cells = cellsOf messages ++ behind) :
    ∃ later, receiveAll messages.length inbound =
        (messages.map fun message => .ok (delivered message.1 message.2), later) ∧
      inbound.Passes (cellsOf messages) later := by
  induction messages generalizing inbound with
  | nil => exact ⟨inbound, rfl, Inbound.Passes.refl h.toFilled⟩
  | cons message messages ih =>
    obtain ⟨hfirst, hrest⟩ := List.forall_mem_cons.1 hsend
    rw [cellsOf, List.flatMap_cons] at hcells ⊢
    obtain ⟨middle, hreceive, hpasses⟩ :=
      exists_receive_cells h hfirst (hcells.trans (List.append_assoc _ _ _))
    have hmiddle : middle.cells = cellsOf messages ++ behind := by
      rw [hpasses.cells_eq, List.append_assoc] at hcells
      exact List.append_cancel_left hcells
    obtain ⟨later, hall, hlater⟩ := ih (hpasses.reliable h) hrest hmiddle
    refine ⟨later, ?_, hpasses.trans hlater⟩
    simp only [List.length_cons, receiveAll, hreceive, hall, List.map_cons]

end FrameMessage

end InstantReplay
