import InstantReplay.Stream

/-!
# Snapshots

A snapshot is the list of packets a history held at one moment, oldest first.
-/

namespace InstantReplay

/-- The packets a history held at one moment, oldest first. -/
structure Snapshot where
  kind : StreamKind
  packets : List Packet
  /-- The sequence number of the newest packet. -/
  lastSeq : Option Nat
  deriving DecidableEq

namespace Snapshot

/-- Whether the snapshot holds nothing. -/
def isEmpty (snapshot : Snapshot) : Bool := snapshot.packets.isEmpty

/-- The smallest of some timestamps. -/
def least : List Int64 → Option Int64
  | [] => none
  | t :: rest => some (rest.foldl (fun low t => if t < low then t else low) t)

/-- The largest of some timestamps. -/
def greatest : List Int64 → Option Int64
  | [] => none
  | t :: rest => some (rest.foldl (fun high t => if high < t then t else high) t)

/-- The earliest presentation time. -/
def minPts (snapshot : Snapshot) : Option Int64 := least (snapshot.packets.map (·.pts))

/-- The latest presentation time. -/
def maxPts (snapshot : Snapshot) : Option Int64 := greatest (snapshot.packets.map (·.pts))

end Snapshot

end InstantReplay
