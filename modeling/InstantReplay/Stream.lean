import InstantReplay.Bytes
import InstantReplay.TimeBase

/-!
# Streams and packets

A stream is a sequence of encoded packets of one kind. `StreamFormat` is what an encoder
announces about its stream and what a container needs to declare a track for it.
-/

namespace InstantReplay

/-- The two kinds of media. -/
inductive StreamKind
  | video
  | audio
  deriving DecidableEq

/-- The kind as it is shown. -/
def StreamKind.text : StreamKind → String
  | .video => "video"
  | .audio => "audio"

/-- What an encoder announces about its stream. The picture size is zero for audio, the sample
rate and channel count are zero for video. -/
structure StreamFormat where
  kind : StreamKind
  codec : String
  timeBase : TimeBase
  /-- Packets per second. -/
  rate : UInt32
  width : UInt32
  height : UInt32
  sampleRate : UInt32
  channels : UInt32
  /-- The codec's global header. -/
  header : ByteArray
  deriving DecidableEq

namespace StreamFormat

/-- A video stream with one packet and one tick per picture. -/
def video (codec : String) (width height fps : UInt32) : StreamFormat where
  kind := .video
  codec := codec
  timeBase := ⟨1, Int32.ofNat (max fps.toNat 1)⟩
  rate := fps
  width := width
  height := height
  sampleRate := 0
  channels := 0
  header := .empty

/-- Packets per second when each packet holds `packetSamples` samples, rounded up. -/
def audioRate (sampleRate packetSamples : UInt32) : UInt32 :=
  let samples := max packetSamples.toNat 1
  UInt32.ofNat ((sampleRate.toNat + samples - 1) / samples)

/-- An audio stream with one tick per sample and `packetSamples` samples per packet. -/
def audio (codec : String) (sampleRate channels packetSamples : UInt32) : StreamFormat where
  kind := .audio
  codec := codec
  timeBase := ⟨1, Int32.ofNat (max sampleRate.toNat 1)⟩
  rate := audioRate sampleRate packetSamples
  width := 0
  height := 0
  sampleRate := sampleRate
  channels := channels
  header := .empty

end StreamFormat

/-- One encoded packet. Both timestamps count ticks of the stream's time base. -/
structure Packet where
  payload : ByteArray
  /-- When the packet is shown. -/
  pts : Int64
  /-- When the packet is decoded. -/
  dts : Int64
  keyframe : Bool
  /-- The index of the packet's stream. -/
  stream : Nat := 0
  deriving DecidableEq

namespace Packet

/-- The payload's length in bytes. -/
def size (packet : Packet) : Nat := packet.payload.size

/-- The same packet as one of stream `stream`. -/
def onStream (packet : Packet) (stream : Nat) : Packet := { packet with stream := stream }

/-- Both timestamps moved back by `ticks`. -/
def moveBack (packet : Packet) (ticks : Int64) : Packet :=
  { packet with pts := packet.pts - ticks, dts := packet.dts - ticks }

end Packet

end InstantReplay
