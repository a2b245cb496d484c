import InstantReplay.Frame

/-!
# Byte streams with descriptors

The two ends of the capture channel exchange bytes over a local socket. Open descriptors travel
attached to a byte: the call that receives that byte delivers them, if it asks for descriptors,
and ends at the last byte of the segment they were sent with. A plain read loses them.
-/

namespace InstantReplay

/-- Bytes sent in one call, with the descriptors attached to the first of them. -/
structure Segment where
  bytes : List UInt8
  descriptors : List Descriptor := []
  deriving DecidableEq

/-- How a stream ends once all segments are read. -/
inductive StreamEnd
  /-- The sender closed it. -/
  | closed
  /-- The sender closed it without having read everything itself. -/
  | reset
  /-- The sender stays silent; a receiver gives up after a while. -/
  | silent
  deriving DecidableEq

/-- The most descriptors that are accepted with one message. -/
def maxDescriptors : Nat := 8

/-- The receiving end of a stream. -/
structure Inbound where
  segments : List Segment
  ending : StreamEnd := .closed
  /-- The most bytes that each of the coming calls takes, at least one; later calls take what they
  are asked for. -/
  cuts : List Nat := []
  /-- Errors of the coming calls that ask for descriptors. -/
  refusals : List Errno := []
  /-- Whether each such call also delivers the sender's identity, which leaves no room for
  descriptors. -/
  identified : Bool := false

namespace Inbound

/-- The first bytes of segments, at most `want`. The bytes end with the segment whose descriptors
were taken, and the rest of a segment that was begun carries none. -/
def takeFrom (want : Nat) : List Segment → List UInt8 × List Descriptor × List Segment
  | [] => ([], [], [])
  | segment :: rest =>
    if segment.bytes.length ≤ want then
      if segment.descriptors.isEmpty ∧ segment.bytes.length < want then
        let (bytes, descriptors, left) := takeFrom (want - segment.bytes.length) rest
        (segment.bytes ++ bytes, descriptors, left)
      else (segment.bytes, segment.descriptors, rest)
    else
      (segment.bytes.take want, segment.descriptors, ⟨segment.bytes.drop want, []⟩ :: rest)

/-- The bytes that nobody has read yet. -/
def unread (inbound : Inbound) : List UInt8 := inbound.segments.flatMap (·.bytes)

/-- What one call takes that asks for at most `want` bytes, or how it fails. No bytes mean that
the stream has ended. -/
def take (inbound : Inbound) (want : Nat) :
    Except IoError (List UInt8 × List Descriptor) × Inbound :=
  let (limit, cuts) :=
    match inbound.cuts with
    | [] => (want, [])
    | cut :: cuts => (min want (max cut 1), cuts)
  match inbound.segments with
  | [] =>
    match inbound.ending with
    | .closed => (.ok ([], []), inbound)
    | .reset => (.error (.os Errno.connectionReset), { inbound with ending := .closed })
    | .silent =>
      if want = 0 then (.ok ([], []), inbound) else (.error (.os Errno.tryAgain), inbound)
  | segments =>
    let (bytes, descriptors, rest) := takeFrom limit segments
    (.ok (bytes, descriptors), { inbound with segments := rest, cuts := cuts })

/-- The failure when more descriptors arrive than there is room for. -/
def truncated : IoError := .custom .invalidData "descriptor list truncated"

/-- The failure when a stream ends before the first byte of a message. -/
def ended : IoError := .custom .unexpectedEof "unexpected end of file"

/-- The failure when a stream ends inside a message. -/
def cutShort : IoError := .custom .unexpectedEof "failed to fill whole buffer"

/-- The errors left after the interruptions at the front, which are tried again. -/
def afterInterruptions : List Errno → List Errno
  | [] => []
  | code :: rest => if code = Errno.interrupted then afterInterruptions rest else code :: rest

/-- Receives at most `want` bytes and the descriptors that come with them. -/
def receive (inbound : Inbound) (want : Nat) :
    Except IoError (List UInt8 × List Descriptor) × Inbound :=
  match afterInterruptions inbound.refusals with
  | code :: refusals => (.error (.os code), { inbound with refusals := refusals })
  | [] =>
    let inbound := { inbound with refusals := [] }
    match inbound.take want with
    | (.ok (bytes, descriptors), rest) =>
      let room := if inbound.identified then 0 else maxDescriptors
      if room < descriptors.length then (.error truncated, rest)
      else (.ok (bytes, descriptors), rest)
    | (.error error, rest) => (.error error, rest)

/-- Reads exactly `count` bytes in as many calls as it takes; at most `rounds` of them. -/
def readRounds : Nat → Inbound → Nat → Except IoError (List UInt8) × Inbound
  | _, inbound, 0 => (.ok [], inbound)
  | 0, inbound, _ => (.error cutShort, inbound)
  | rounds + 1, inbound, count =>
    match inbound.take count with
    | (.error error, rest) => (.error error, rest)
    | (.ok ([], _), rest) => (.error cutShort, rest)
    | (.ok (bytes, _), rest) =>
      match readRounds rounds rest (count - bytes.length) with
      | (.ok more, rest) => (.ok (bytes ++ more), rest)
      | (.error error, rest) => (.error error, rest)

/-- Reads exactly `count` bytes; what was read before a failure is lost. -/
def readExact (inbound : Inbound) (count : Nat) : Except IoError (List UInt8) × Inbound :=
  readRounds count inbound count

/-- Receives exactly `count` bytes, with the descriptors that come with the first call. -/
def receiveExact (inbound : Inbound) (count : Nat) :
    Except IoError (List UInt8 × List Descriptor) × Inbound :=
  match inbound.receive count with
  | (.error error, rest) => (.error error, rest)
  | (.ok (bytes, descriptors), rest) =>
    if bytes.isEmpty ∧ count ≠ 0 then (.error ended, rest)
    else
      match rest.readExact (count - bytes.length) with
      | (.ok more, rest) => (.ok (bytes ++ more, descriptors), rest)
      | (.error error, rest) => (.error error, rest)

end Inbound

/-- How the system answers a call that sends. -/
inductive SendAnswer
  | refused (code : Errno)
  /-- At most so many bytes are taken. -/
  | takes (limit : Nat)
  deriving DecidableEq

/-- The sending end of a stream. -/
structure Outbound where
  /-- What was sent, oldest first. -/
  sent : List Segment := []
  /-- Answers to the coming calls that pass descriptors; later ones take everything. -/
  messages : List SendAnswer := []
  /-- Answers to the coming plain writes; later ones take everything. -/
  writes : List SendAnswer := []
  /-- The error of every call once the receiver is gone. -/
  gone : Option Errno := none

namespace Outbound

/-- A segment more. -/
def put (outbound : Outbound) (bytes : List UInt8) (descriptors : List Descriptor) : Outbound :=
  if bytes.isEmpty then outbound
  else { outbound with sent := outbound.sent ++ [⟨bytes, descriptors⟩] }

/-- Writes all bytes, in as many calls as it takes; interrupted calls are tried again. -/
def writeRounds (bytes : List UInt8) :
    List SendAnswer → Outbound → Except IoError Unit × Outbound
  | [], outbound =>
    match outbound.gone with
    | some code => (.error (.os code), { outbound with writes := [] })
    | none => (.ok (), { outbound.put bytes [] with writes := [] })
  | .refused code :: rest, outbound =>
    if code = Errno.interrupted then writeRounds bytes rest outbound
    else (.error (.os code), { outbound with writes := rest })
  | .takes limit :: rest, outbound =>
    match outbound.gone with
    | some code => (.error (.os code), { outbound with writes := rest })
    | none =>
      if bytes.length ≤ limit then (.ok (), { outbound.put bytes [] with writes := rest })
      else writeRounds (bytes.drop limit) rest (outbound.put (bytes.take limit) [])
termination_by answers => answers.length

/-- Writes all bytes. -/
def writeAll (outbound : Outbound) (bytes : List UInt8) : Except IoError Unit × Outbound :=
  if bytes.isEmpty then (.ok (), outbound) else writeRounds bytes outbound.writes outbound

/-- Makes the call that passes descriptors; what it does not take is written afterwards. -/
def sendRounds (bytes : List UInt8) (descriptors : List Descriptor) :
    List SendAnswer → Outbound → Except IoError Unit × Outbound
  | [], outbound =>
    match outbound.gone with
    | some code => (.error (.os code), { outbound with messages := [] })
    | none => (.ok (), { outbound.put bytes descriptors with messages := [] })
  | .refused code :: rest, outbound =>
    if code = Errno.interrupted then sendRounds bytes descriptors rest outbound
    else (.error (.os code), { outbound with messages := rest })
  | .takes limit :: rest, outbound =>
    match outbound.gone with
    | some code => (.error (.os code), { outbound with messages := rest })
    | none =>
      let outbound := { outbound.put (bytes.take limit) descriptors with messages := rest }
      outbound.writeAll (bytes.drop limit)

/-- The failure when there is no byte to attach descriptors to. -/
def noPayload : IoError := .custom .invalidInput "ancillary data needs a non-empty payload"

/-- The failure when there are more descriptors than a message may carry. -/
def tooMany (count : Nat) : IoError :=
  .custom .invalidInput s!"too many descriptors: {count} (max {maxDescriptors})"

/-- Sends bytes with descriptors attached to the first of them. -/
def send (outbound : Outbound) (bytes : List UInt8) (descriptors : List Descriptor) :
    Except IoError Unit × Outbound :=
  if bytes.isEmpty then (.error noPayload, outbound)
  else if maxDescriptors < descriptors.length then (.error (tooMany descriptors.length), outbound)
  else sendRounds bytes descriptors outbound.messages outbound

/-- What the receiver gets when the sender closes the stream. -/
def toInbound (outbound : Outbound) : Inbound := { segments := outbound.sent }

end Outbound

end InstantReplay
