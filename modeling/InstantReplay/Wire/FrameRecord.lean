import InstantReplay.Failure
import InstantReplay.Wire.Request

/-!
# Frame messages

Each capture attempt is answered by eight bytes of time. A negative time means that there is no
picture. Otherwise a record of fixed size follows that describes the picture, with the
descriptors of its memory objects attached.
-/

namespace InstantReplay

/-- The description of a picture on the channel. -/
structure FrameRecord where
  width : UInt32
  height : UInt32
  pixels : PixelFormat
  /-- How many entries of `planes` mean something. -/
  planeCount : UInt32
  /-- How many descriptors are attached. -/
  objectCount : UInt32
  reserved : UInt32
  modifier : LayoutModifier
  planes : Vector PlaneLayout maxPlanes
  deriving DecidableEq

namespace PlaneLayout

/-- The plane as bytes. -/
def toBytes (plane : PlaneLayout) : List UInt8 :=
  Words.bytes32 plane.object ++ Words.bytes32 plane.stride ++ Words.bytes32 plane.offset ++
    Words.bytes32 plane.format

/-- The entry where there is no plane. -/
def unused : PlaneLayout := ⟨0, 0, 0, 0⟩

end PlaneLayout

namespace FrameRecord

/-- The size of a record in bytes. -/
def size : Nat := 96

/-- The record as bytes. -/
def toBytes (record : FrameRecord) : List UInt8 :=
  Words.bytes32 record.width ++ Words.bytes32 record.height ++ Words.bytes32 record.pixels.code ++
    Words.bytes32 record.planeCount ++ Words.bytes32 record.objectCount ++
    Words.bytes32 record.reserved ++ Words.bytes64 record.modifier ++
    record.planes.toList.flatMap PlaneLayout.toBytes

/-- The word at place `index` when the bytes are cut into words. -/
def word (bytes : List UInt8) (index : Nat) : UInt32 :=
  Words.ofBytes32 ((bytes.drop (4 * index)).take 4)

/-- The record that bytes stand for. -/
def ofBytes (bytes : List UInt8) : FrameRecord where
  width := word bytes 0
  height := word bytes 1
  pixels := ⟨word bytes 2⟩
  planeCount := word bytes 3
  objectCount := word bytes 4
  reserved := word bytes 5
  modifier := Words.ofBytes64 ((bytes.drop 24).take 8)
  planes := Vector.ofFn fun i =>
    ⟨word bytes (8 + 4 * i), word bytes (9 + 4 * i), word bytes (10 + 4 * i),
      word bytes (11 + 4 * i)⟩

/-- The planes that mean something. -/
def usedPlanes (record : FrameRecord) : List PlaneLayout :=
  record.planes.toList.take record.planeCount.toNat

/-- The format of the picture. -/
def format (record : FrameRecord) : FrameFormat :=
  ⟨record.width, record.height, record.pixels, record.modifier⟩

/-- The failure of a number of planes that no picture has. -/
def badPlaneCount (count : Nat) : Failure := .protocol s!"invalid plane count {count}"

/-- Checks a record against the number of descriptors that came with it. -/
def validate (record : FrameRecord) (arrived : Nat) : Except Failure Unit :=
  let planes := record.planeCount.toNat
  let objects := record.objectCount.toNat
  if planes = 0 ∨ maxPlanes < planes then .error (badPlaneCount planes)
  else if objects ≠ arrived then
    .error (.protocol
      s!"frame announces {objects} memory objects but {arrived} fds arrived")
  else
    match record.usedPlanes.find? fun plane => record.objectCount ≤ plane.object with
    | some plane =>
      let object := plane.object.toNat
      .error (.protocol s!"plane references object {object} of {objects}")
    | none => .ok ()

/-- The record of a frame in shared memory, if it can be sent. -/
def ofFrame (frame : Frame) : Except Failure FrameRecord :=
  match frame.pixels with
  | .memory _ =>
    .error (.protocol "only DMA-BUF frames can be sent over the capture channel")
  | .shared planes objects =>
    if planes.isEmpty ∨ maxPlanes < planes.length then .error (badPlaneCount planes.length)
    else
      let record : FrameRecord :=
        { width := frame.format.width
          height := frame.format.height
          pixels := frame.format.pixels
          planeCount := UInt32.ofNat planes.length
          objectCount := UInt32.ofNat objects.length
          reserved := 0
          modifier := frame.format.modifier
          planes := Vector.ofFn fun i => planes[i.val]?.getD PlaneLayout.unused }
      match record.validate objects.length with
      | .ok () => .ok record
      | .error failure => .error failure

end FrameRecord

namespace FrameMessage

/-- The time that says that there is no picture. -/
def noFrame : Int64 := -1

/-- A time as bytes. -/
def timeBytes (pts : Int64) : List UInt8 := Words.bytes64 pts.toUInt64

/-- Sends a frame, or the word that there is none. A negative time always means that there is
none. -/
def send (pts : Int64) (frame : Option Frame) (outbound : Outbound) :
    Except Failure Unit × Outbound :=
  let lift (sent : Except IoError Unit × Outbound) : Except Failure Unit × Outbound :=
    match sent with
    | (.ok (), outbound) => (.ok (), outbound)
    | (.error error, outbound) => (.error (.io error), outbound)
  if pts < 0 then lift (outbound.writeAll (timeBytes pts))
  else
    match frame with
    | none => lift (outbound.writeAll (timeBytes noFrame))
    | some frame =>
      match FrameRecord.ofFrame frame with
      | .error failure => (.error failure, outbound)
      | .ok record =>
        match outbound.writeAll (timeBytes pts) with
        | (.error error, outbound) => (.error (.io error), outbound)
        | (.ok (), outbound) => lift (outbound.send record.toBytes frame.objects)

/-- Receives a frame, or the word that there is none. -/
def receive (inbound : Inbound) : Except Failure (Option Frame) × Inbound :=
  match inbound.readExact 8 with
  | (.error error, rest) => (.error (.ofRead error), rest)
  | (.ok time, rest) =>
    let pts := (Words.ofBytes64 time).toInt64
    if pts < 0 then (.ok none, rest)
    else
      match rest.receiveExact FrameRecord.size with
      | (.error error, rest) => (.error (.ofRead error), rest)
      | (.ok (bytes, objects), rest) =>
        let record := FrameRecord.ofBytes bytes
        match record.validate objects.length with
        | .error failure => (.error failure, rest)
        | .ok () => (.ok (some ⟨record.format, .shared record.usedPlanes objects, pts⟩), rest)

/-- Receives frames up to the first failure, at most `count` of them. -/
def receiveAll : Nat → Inbound → List (Except Failure (Option Frame)) × Inbound
  | 0, inbound => ([], inbound)
  | count + 1, inbound =>
    match receive inbound with
    | (.ok frame, rest) =>
      let (frames, rest) := receiveAll count rest
      (.ok frame :: frames, rest)
    | (.error failure, rest) => ([.error failure], rest)

end FrameMessage

end InstantReplay
