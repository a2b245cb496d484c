import InstantReplay.Failure
import InstantReplay.Wire.Stream
import InstantReplay.Wire.Words

/-!
# Connect messages

The first message of a capture session names a device and a rate: four bytes of rate, one byte
with the length of the name, and the name.
-/

namespace InstantReplay

/-- The longest device name, in bytes. -/
def maxDeviceName : Nat := 255

/-- What a client asks of the capture service. -/
structure CaptureRequest where
  device : String
  /-- Pictures per second. -/
  framerate : Int32
  device_length : 1 ≤ device.utf8ByteSize ∧ device.utf8ByteSize ≤ maxDeviceName
  framerate_pos : 0 < framerate

namespace CaptureRequest

/-- The failure when the device name is empty or too long. -/
def badLength (length : Nat) : Failure :=
  .protocol s!"device name must be 1-{maxDeviceName} bytes, got {length}"

/-- The failure when the rate is not positive. -/
def badRate (framerate : Int32) : Failure :=
  let rate := framerate.toInt
  .protocol s!"framerate must be positive, got {rate}"

/-- The request for a device, if its name and rate are acceptable. -/
def make (device : String) (framerate : Int32) : Except Failure CaptureRequest :=
  if length : 1 ≤ device.utf8ByteSize ∧ device.utf8ByteSize ≤ maxDeviceName then
    if rate : 0 < framerate then .ok ⟨device, framerate, length, rate⟩
    else .error (badRate framerate)
  else .error (badLength device.utf8ByteSize)

/-- The request as bytes. -/
def toBytes (request : CaptureRequest) : List UInt8 :=
  Words.bytes32 request.framerate.toUInt32 ++
    UInt8.ofNat request.device.utf8ByteSize :: request.device.toUTF8.toList

end CaptureRequest

namespace Failure

/-- Whether an error means that the other end is gone. -/
def isDisconnect (error : IoError) : Bool :=
  match error.kind with
  | .unexpectedEof | .connectionReset | .brokenPipe => true
  | _ => false

/-- The failure of a read in the middle of a session. -/
def ofRead (error : IoError) : Failure :=
  if isDisconnect error then .protocol "connection closed unexpectedly" else .io error

end Failure

namespace CaptureRequest

/-- Reads one request and leaves what follows unread. -/
def receive (inbound : Inbound) : Except Failure CaptureRequest × Inbound :=
  match inbound.readExact 5 with
  | (.error error, rest) => (.error (.ofRead error), rest)
  | (.ok header, rest) =>
    let framerate := (Words.ofBytes32 (header.take 4)).toInt32
    match rest.readExact (Words.ofBytes (header.drop 4)) with
    | (.error error, rest) => (.error (.ofRead error), rest)
    | (.ok name, rest) =>
      match String.fromUTF8? ⟨name.toArray⟩ with
      | none => (.error (.protocol "device name is not valid UTF-8"), rest)
      | some device => (make device framerate, rest)

end CaptureRequest

end InstantReplay
