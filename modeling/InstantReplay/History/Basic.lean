import InstantReplay.Act
import InstantReplay.History.Ring

/-!
# Bounded histories

A history keeps the most recent window of one stream: a ring of packets, together with the age
beyond which a packet is let go. The number of slots is a ceiling on top of the window.
-/

namespace InstantReplay

/-- The slots that `seconds` of a stream of `rate` packets per second need, with the write slot. -/
def slotsFor (rate seconds : UInt32) : Nat := max (rate.toNat * seconds.toNat) 1 + 1

/-- The recent packets of one stream. -/
structure History where
  kind : StreamKind
  timeBase : TimeBase
  /-- The oldest age held, in ticks before the newest packet. -/
  window : Int64
  ring : Ring

namespace History

/-- A history of at least two slots. -/
def withSlots (kind : StreamKind) (slots : Nat) (timeBase : TimeBase) (window : Int64) : History :=
  ⟨kind, timeBase, window, .empty (max slots 2)⟩

/-- A history of `seconds` of a stream. -/
def ofFormat (format : StreamFormat) (seconds : UInt32) : History :=
  withSlots format.kind (slotsFor format.rate seconds) format.timeBase
    (format.timeBase.ticksIn seconds)

/-- The number of slots, the write slot included. -/
def capacity (history : History) : Nat := history.ring.capacity

/-- The number of packets held. -/
def size (history : History) : Nat := history.ring.size

/-- Whether no packet is held. -/
def isEmpty (history : History) : Bool := history.size == 0

/-- The payload bytes held. -/
def bytes (history : History) : Nat := history.ring.bytes

/-- The number of packets evicted so far. -/
def evicted (history : History) : Nat := history.ring.evicted

/-- Stages a packet. It is not held before `rotate`; a packet staged before is replaced. -/
def append (history : History) (packet : Packet) : History :=
  { history with ring := history.ring.stage packet }

/-- Commits the staged packet and says whether there was one. -/
def rotate (history : History) : Except Overflow Bool × History :=
  let (committed, ring) := history.ring.commit history.window
  (committed, { history with ring := ring })

/-- Stages and commits a packet. -/
def push (history : History) (packet : Packet) : Except Overflow Unit × History :=
  let (committed, later) := (history.append packet).rotate
  (committed.map fun _ => (), later)

/-- The line noted when staging replaces a packet that still waits. -/
def replacedNote (history : History) : List LogLine :=
  match history.ring.staged? with
  | some packet =>
    let pts := packet.pts.toInt
    [.trace s!"Replacing staged unit pts={pts}"]
  | none => []

/-- Stages a packet and notes one that it replaces. -/
def appending (packet : Packet) : Act History Unit := do
  (← Act.state).replacedNote.forM Act.note
  Act.change (·.append packet)

/-- Stages and commits a packet, and notes one that it replaces. -/
def pushing (packet : Packet) : Act History (Except Overflow Unit) := do
  appending packet
  let committed ← Act.step rotate
  return committed.map fun _ => ()

/-- Drops every packet held or staged. -/
def clear (history : History) : History := { history with ring := history.ring.clear }

/-- Drops the packets numbered up to and including `seq` and says how many. -/
def discardThrough (history : History) (seq : Nat) : Nat × History :=
  let (dropped, ring) := history.ring.dropThrough seq history.ring.capacity
  (dropped, { history with ring := ring })

/-- What is held, oldest first. -/
def snapshot (history : History) : Snapshot :=
  let entries := history.ring.entries
  { kind := history.kind
    packets := entries.map (·.packet)
    lastSeq := entries.getLast?.map (·.seq) }

end History

end InstantReplay
