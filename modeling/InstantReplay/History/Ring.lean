import InstantReplay.History.Snapshot
import InstantReplay.Overflow

/-!
# Rings of numbered packets

A ring has a fixed number of slots. The packets it holds stand in the slots from `head` up to,
and without, `tail`, cyclically. The slot at `tail` is the write slot: a packet staged there is
not yet held, and committing it moves `tail` on. One slot therefore always stays free, and a ring
of `n` slots holds at most `n - 1` packets.

Each packet gets the next sequence number when it is committed. The age of a packet is a difference
of times; a commit breaks down at an age that overflows, and leaves the ring as it is then.
-/

namespace InstantReplay

/-- A packet in a slot, with its sequence number once it is committed. -/
structure NumberedPacket where
  packet : Packet
  seq : Nat
  deriving DecidableEq

/-- A fixed number of slots, some of them taken. -/
structure Ring where
  slots : Array (Option NumberedPacket)
  /-- The slot of the oldest packet held. -/
  head : Nat
  /-- The write slot. -/
  tail : Nat
  /-- The sequence number of the next packet committed. -/
  nextSeq : Nat
  /-- The payload bytes of the packets held. -/
  bytes : Nat
  /-- How many packets were dropped to make room or for their age. -/
  evicted : Nat

namespace Ring

/-- A ring of `slots` free slots. -/
def empty (slots : Nat) : Ring := ⟨Array.replicate slots none, 0, 0, 0, 0, 0⟩

/-- The number of slots, the write slot included. -/
def capacity (ring : Ring) : Nat := ring.slots.size

/-- The slot after `index`. -/
def next (ring : Ring) (index : Nat) : Nat := (index + 1) % ring.capacity

/-- The slot before `index`. -/
def previous (ring : Ring) (index : Nat) : Nat := (index + ring.capacity - 1) % ring.capacity

/-- The number of packets held. -/
def size (ring : Ring) : Nat := (ring.tail + ring.capacity - ring.head) % ring.capacity

/-- What stands in the slot `index`. -/
def entry? (ring : Ring) (index : Nat) : Option NumberedPacket := (ring.slots[index]?).join

/-- The oldest packet held. -/
def oldest? (ring : Ring) : Option NumberedPacket :=
  if ring.head = ring.tail then none else ring.entry? ring.head

/-- The newest packet held. -/
def newest? (ring : Ring) : Option NumberedPacket :=
  if ring.head = ring.tail then none else ring.entry? (ring.previous ring.tail)

/-- The packet waiting in the write slot. -/
def staged? (ring : Ring) : Option Packet := (ring.entry? ring.tail).map (·.packet)

/-- Puts a packet into the write slot, in place of one that waits there. -/
def stage (ring : Ring) (packet : Packet) : Ring :=
  { ring with slots := ring.slots.setIfInBounds ring.tail (some ⟨packet, 0⟩) }

/-- Drops the oldest packet. -/
def dropHead (ring : Ring) : Ring :=
  let freed := match ring.entry? ring.head with
    | some entry => entry.packet.size
    | none => 0
  { ring with
    slots := ring.slots.setIfInBounds ring.head none
    head := ring.next ring.head
    bytes := ring.bytes - freed }

/-- Drops the oldest packet and counts it as evicted. -/
def evictHead (ring : Ring) : Ring :=
  let ring := ring.dropHead
  { ring with evicted := ring.evicted + 1 }

/-- Evicts the oldest packets while more than one is held and the oldest lies more than `window`
before `newest`; at most `rounds` of them. -/
def evictOlder (window newest : Int64) : Nat → Ring → Except Overflow Unit × Ring
  | 0, ring => (.ok (), ring)
  | rounds + 1, ring =>
    match ring.oldest? with
    | some entry =>
      if ring.size > 1 then
        match minus? newest entry.packet.pts with
        | some age =>
          if age > window then evictOlder window newest rounds ring.evictHead else (.ok (), ring)
        | none => (.error .subtraction, ring)
      else (.ok (), ring)
    | none => (.ok (), ring)

/-- Takes the staged packet into the ring. A full ring gives up its oldest packet; then packets
that fell out of the window are evicted. The flag says whether a packet was staged. -/
def commit (window : Int64) (ring : Ring) : Except Overflow Bool × Ring :=
  match ring.entry? ring.tail with
  | none => (.ok false, ring)
  | some entry =>
    let ring : Ring := { ring with
      slots := ring.slots.setIfInBounds ring.tail (some { entry with seq := ring.nextSeq })
      nextSeq := ring.nextSeq + 1
      bytes := ring.bytes + entry.packet.size
      tail := ring.next ring.tail }
    let ring := if ring.tail = ring.head then ring.evictHead else ring
    match ring.newest? with
    | some newest =>
      let (outcome, ring) := evictOlder window newest.packet.pts ring.capacity ring
      (outcome.map fun _ => true, ring)
    | none => (.ok true, ring)

/-- Frees every slot. Sequence numbers go on and the count of evictions stays. -/
def clear (ring : Ring) : Ring :=
  { ring with slots := Array.replicate ring.capacity none, head := 0, tail := 0, bytes := 0 }

/-- Drops the oldest packets while their sequence number is at most `seq`; at most `rounds` of
them. The number counts the drops. -/
def dropThrough (seq : Nat) : Nat → Ring → Nat × Ring
  | 0, ring => (0, ring)
  | rounds + 1, ring =>
    match ring.oldest? with
    | some entry =>
      if entry.seq ≤ seq then
        let (dropped, rest) := dropThrough seq rounds ring.dropHead
        (dropped + 1, rest)
      else (0, ring)
    | none => (0, ring)

/-- The entries from the slot `index` up to the write slot; at most `rounds` slots are visited. -/
def entriesFrom (ring : Ring) : Nat → Nat → List NumberedPacket
  | 0, _ => []
  | rounds + 1, index =>
    if index = ring.tail then []
    else (ring.entry? index).toList ++ ring.entriesFrom rounds (ring.next index)

/-- The entries held, oldest first. -/
def entries (ring : Ring) : List NumberedPacket := ring.entriesFrom ring.capacity ring.head

end Ring

end InstantReplay
