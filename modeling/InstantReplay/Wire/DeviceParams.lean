import InstantReplay.Failure
import InstantReplay.Json.Text
import InstantReplay.Wire.Request

/-!
# Device parameters

The service answers a request with a description of the device: four bytes of length and a JSON
document, with a descriptor of the device attached.
-/

namespace InstantReplay

/-- The longest document, in bytes. -/
def maxParamsSize : Nat := 65536

/-- What a capture device delivers. -/
structure DeviceParams where
  /-- The name of the device that was chosen. -/
  device : String
  width : UInt32
  height : UInt32
  pixels : PixelFormat
  modifier : LayoutModifier
  framerate : Int32
  deriving DecidableEq

namespace DeviceParams

open JsonText

/-- One field of the document. -/
def field (name : String) (value : List UInt8) : List UInt8 := write name ++ 58 :: value

/-- The document. -/
def toJson (params : DeviceParams) : List UInt8 :=
  let fields := [
    field "device" (write params.device),
    field "width" (ascii (toString params.width.toNat)),
    field "height" (ascii (toString params.height.toNat)),
    field "fourcc" (ascii (toString params.pixels.code.toNat)),
    field "modifier" (ascii (toString params.modifier.toNat)),
    field "framerate" (ascii (toString params.framerate.toInt))]
  123 :: List.intercalate [44] fields ++ [125]

/-- The document with its length in front, unless it is too long. -/
def toBytes (params : DeviceParams) : Except Failure (List UInt8) :=
  let document := params.toJson
  let size := document.length
  if maxParamsSize < size then
    .error (.protocol s!"codec params too large: {size} bytes (max {maxParamsSize})")
  else .ok (Words.bytes32 (UInt32.ofNat size) ++ document)

/-- The only value among the fields with a name. -/
def unique? (fields : List (String × JsonValue)) (name : String) : Option JsonValue :=
  match fields.filter (·.1 = name) with
  | [(_, value)] => some value
  | _ => none

/-- The parameters made of one value for each field, in their order. -/
def ofValues? (device width height pixels modifier framerate : JsonValue) :
    Option DeviceParams := do
  return {
    device := ← device.text?
    width := ← width.word32?
    height := ← height.word32?
    pixels := ⟨← pixels.word32?⟩
    modifier := ← modifier.word64?
    framerate := ← framerate.int32? }

/-- The fields of an object with their names as texts. -/
def named? : List (List JsonChar × JsonValue) → Option (List (String × JsonValue))
  | [] => some []
  | (name, value) :: rest => do return (← JsonValue.unescape? name, value) :: (← named? rest)

/-- The parameters of a document: an object that has each field once, or an array of their
values. Further fields of an object are passed over. -/
def ofValue? : JsonValue → Option DeviceParams
  | .object fields => do
    let fields ← named? fields
    ofValues? (← unique? fields "device") (← unique? fields "width") (← unique? fields "height")
      (← unique? fields "fourcc") (← unique? fields "modifier") (← unique? fields "framerate")
  | .array [device, width, height, pixels, modifier, framerate] =>
    ofValues? device width height pixels modifier framerate
  | _ => none

/-- Reads a document. -/
def ofJson (document : List UInt8) : Except Failure DeviceParams :=
  match JsonValue.parse? document >>= ofValue? with
  | some params => .ok params
  | none => .error (.badJson "malformed device parameters")

/-- Sends parameters with the descriptor of the device. -/
def send (params : DeviceParams) (device : Descriptor) (outbound : Outbound) :
    Except Failure Unit × Outbound :=
  match params.toBytes with
  | .error failure => (.error failure, outbound)
  | .ok bytes =>
    match outbound.send bytes [device] with
    | (.ok (), outbound) => (.ok (), outbound)
    | (.error error, outbound) => (.error (.io error), outbound)

/-- The failure when the service closes the connection instead of answering. -/
def refused : Failure :=
  .serviceUnavailable "service closed the connection without sending codec parameters"

/-- Receives parameters and the descriptor of the device. -/
def receive (inbound : Inbound) : Except Failure (DeviceParams × Descriptor) × Inbound :=
  match inbound.receiveExact 4 with
  | (.error error, rest) =>
    (.error (if Failure.isDisconnect error then refused else .io error), rest)
  | (.ok (header, descriptors), rest) =>
    let size := Words.ofBytes header
    if size = 0 ∨ maxParamsSize < size then
      (.error (.protocol s!"invalid codec params size {size}"), rest)
    else
      match rest.readExact size with
      | (.error error, rest) => (.error (.ofRead error), rest)
      | (.ok document, rest) =>
        match descriptors with
        | [device] =>
          match ofJson document with
          | .ok params => (.ok (params, device), rest)
          | .error failure => (.error failure, rest)
        | _ =>
          let count := descriptors.length
          (.error (.protocol s!"expected exactly one device fd, got {count}"), rest)

end DeviceParams

end InstantReplay
