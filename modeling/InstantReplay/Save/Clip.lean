import InstantReplay.History.Snapshot

/-!
# Clips

A clip is made of one snapshot per stream, each with its time base. It is cut at the first
keyframe of the video, moved so that it starts at zero, and merged into one list of packets in
the order in which they are decoded.
-/

namespace InstantReplay.Clip

/-- The snapshot without the packets before its first keyframe, and how many those are. One
without a keyframe stays as it is. -/
def trimToKeyframe (snapshot : Snapshot) : Nat × Snapshot :=
  match snapshot.packets.findIdx? (·.keyframe) with
  | some first => (first, { snapshot with packets := snapshot.packets.drop first })
  | none => (0, snapshot)

/-- The earliest presentation time of all streams, in microseconds. -/
def start? (snapshots : List Snapshot) (bases : List TimeBase) : Option Int64 :=
  Snapshot.least ((snapshots.zip bases).filterMap fun (snapshot, base) =>
    snapshot.minPts.map base.toMicros)

/-- The latest presentation time of all streams, in microseconds. -/
def finish? (snapshots : List Snapshot) (bases : List TimeBase) : Option Int64 :=
  Snapshot.greatest ((snapshots.zip bases).filterMap fun (snapshot, base) =>
    snapshot.maxPts.map base.toMicros)

/-- The ticks by which a stream is moved back when the clip starts at `start` microseconds. The
stream that starts there is moved by exactly its first time, without rounding. -/
def offset (start : Int64) (base : TimeBase) (minPts : Int64) : Int64 :=
  if base.toMicros minPts = start then minPts else base.ofMicros start

/-- One stream of a clip that starts at `start` microseconds, moved to start at zero. -/
def moveToZero (start : Int64) (base : TimeBase) (snapshot : Snapshot) : Snapshot :=
  match snapshot.minPts with
  | some minPts =>
    { snapshot with packets := snapshot.packets.map (·.moveBack (offset start base minPts)) }
  | none => snapshot

/-- Snapshots moved to start at zero; those beyond the last time base stay. -/
def moveAll (start : Int64) : List Snapshot → List TimeBase → List Snapshot
  | snapshot :: snapshots, base :: bases =>
    moveToZero start base snapshot :: moveAll start snapshots bases
  | snapshots, _ => snapshots

/-- Snapshots moved back by one span of time, so that the earliest packet is shown at zero. -/
def rebase (snapshots : List Snapshot) (bases : List TimeBase) : List Snapshot :=
  match start? snapshots bases with
  | some start => moveAll start snapshots bases
  | none => snapshots

/-- A packet with its decode time in microseconds. -/
structure Timed where
  micros : Int64
  packet : Packet

/-- Decode time first, then the stream's index. -/
def Timed.before (a b : Timed) : Bool :=
  a.micros < b.micros || (a.micros == b.micros && a.packet.stream ≤ b.packet.stream)

/-- The packets of stream `index`, with their decode times. -/
def timed (snapshot : Snapshot) (base : TimeBase) (index : Nat) : List Timed :=
  snapshot.packets.map fun packet => ⟨base.toMicros packet.dts, packet.onStream index⟩

/-- All packets in the order of their decode times, each marked with its stream. Equal times go
by stream, and packets of a stream with equal times keep their order. -/
def interleave (snapshots : List Snapshot) (bases : List TimeBase) : List Packet :=
  let all := (snapshots.zip bases).zipIdx.flatMap fun ((snapshot, base), index) =>
    timed snapshot base index
  (all.mergeSort Timed.before).map (·.packet)

/-- The time from the first packet shown to the last, in microseconds. -/
def span (snapshots : List Snapshot) (bases : List TimeBase) : Int64 :=
  match start? snapshots bases, finish? snapshots bases with
  | some start, some finish => finish - start
  | _, _ => 0

end InstantReplay.Clip
