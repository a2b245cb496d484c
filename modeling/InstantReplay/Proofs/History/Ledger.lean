import InstantReplay.History.Basic
import Mathlib.Algebra.Ring.Nat

/-!
# Histories as plain lists

A ledger says what a history does without slots and cursors: it has a list of numbered packets,
oldest first, a packet that may wait to be committed, the next number, and the count of the
packets evicted so far.

* `Ledger.commit` takes the rule by which a packet is too old as a parameter. `History.late` is
  the rule of a history, `Ledger.late` the same rule over the integers. A ledger never breaks down;
  `History.outcome` says from what is held then when a history does.
* `HistoryCall` lists what a history can be asked. `HistoryCall.trace` asks one call after the
  other and notes each answer together with all that can be seen of the history afterwards.
-/

namespace InstantReplay

/-- The packets of a stream that are held, the one that waits, and the counters. -/
structure Ledger where
  /-- The packets held, oldest first. -/
  held : List NumberedPacket := []
  /-- The packet that waits to be committed. -/
  staged : Option Packet := none
  /-- The number of the next packet committed. -/
  next : Nat := 0
  evicted : Nat := 0

namespace Ledger

/-- The packet waits, in place of one that waited before. -/
def stage (ledger : Ledger) (packet : Packet) : Ledger := { ledger with staged := some packet }

/-- The entries without the heads that are late, as long as more than one entry is left. -/
def shed (late : Packet → Bool) : List NumberedPacket → List NumberedPacket
  | oldest :: second :: rest =>
    if late oldest.packet then shed late (second :: rest) else oldest :: second :: rest
  | held => held

/-- The entries held, and behind them a packet with the next number. -/
def grown (ledger : Ledger) (packet : Packet) : List NumberedPacket :=
  ledger.held ++ [⟨packet, ledger.next⟩]

/-- The entries without the head, if there are as many as `slots`. -/
def makeRoom (slots : Nat) (held : List NumberedPacket) : List NumberedPacket :=
  if held.length = slots then held.tail else held

/-- Numbers the waiting packet and takes it in. The oldest entry goes when there are as many
entries as `slots`; then the late ones go. Each that goes is counted. -/
def commit (late : Packet → Packet → Bool) (slots : Nat) (ledger : Ledger) : Bool × Ledger :=
  match ledger.staged with
  | none => (false, ledger)
  | some packet =>
    let kept := shed (late packet) (makeRoom slots (ledger.grown packet))
    (true,
      { held := kept
        staged := none
        next := ledger.next + 1
        evicted := ledger.evicted + ((ledger.grown packet).length - kept.length) })

/-- Nothing is held and nothing waits; the counters stay. -/
def clear (ledger : Ledger) : Ledger := { ledger with held := [], staged := none }

/-- Drops the longest prefix with numbers up to `seq`, and says how long it is. -/
def discardThrough (ledger : Ledger) (seq : Nat) : Nat × Ledger :=
  ((ledger.held.takeWhile (·.seq ≤ seq)).length,
    { ledger with held := ledger.held.dropWhile (·.seq ≤ seq) })

/-- The packets held and the number of the newest. -/
def snapshot (kind : StreamKind) (ledger : Ledger) : Snapshot where
  kind := kind
  packets := ledger.held.map (·.packet)
  lastSeq := ledger.held.getLast?.map (·.seq)

/-- The payload bytes held. -/
def bytes (ledger : Ledger) : Nat := (ledger.held.map (·.packet.size)).sum

/-- Whether `oldest` lies more than `window` ticks before `newest`. -/
def late (window : Int64) (newest oldest : Packet) : Bool :=
  decide (window.toInt < newest.pts.toInt - oldest.pts.toInt)

end Ledger

namespace History

/-- Whether `oldest` lies more than `window` ticks before `newest`, in 64 bits. -/
def late (window : Int64) (newest oldest : Packet) : Bool :=
  (minus? newest.pts oldest.pts).any fun age => age > window

/-- How taking in `newest` ends if these entries are held then: with a breakdown, if the oldest of
them is not the only one and its age overflows. -/
def outcome (newest : Packet) : List NumberedPacket → Except Overflow Unit
  | oldest :: _ :: _ =>
    if (minus? newest.pts oldest.packet.pts).isSome then .ok () else .error .subtraction
  | _ => .ok ()

end History

/-- How committing ends: with a breakdown, as the entries held then say. -/
def Ledger.outcome (late : Packet → Packet → Bool) (slots : Nat) (ledger : Ledger) :
    Except Overflow Unit :=
  match ledger.staged with
  | none => .ok ()
  | some packet => History.outcome packet (ledger.commit late slots).2.held

/-! ## Calls and what can be seen -/

/-- What a history can be asked. -/
inductive HistoryCall
  | append (packet : Packet)
  | rotate
  | push (packet : Packet)
  | clear
  | discardThrough (seq : Nat)
  | snapshot
  | size
  | bytes
  deriving DecidableEq

/-- The packet that a call brings. -/
def HistoryCall.packet? : HistoryCall → Option Packet
  | .append packet => some packet
  | .push packet => some packet
  | _ => none

/-- What a call returns. -/
inductive HistoryAnswer
  | done
  | committed (staged : Bool)
  | copied (snapshot : Snapshot)
  | number (count : Nat)
  /-- The call broke down. -/
  | overflowed
  deriving DecidableEq

/-- What a call returns that may break down. -/
def HistoryAnswer.ofExcept {α : Type} (answer : α → HistoryAnswer) :
    Except Overflow α → HistoryAnswer
  | .ok value => answer value
  | .error _ => .overflowed

theorem HistoryAnswer.ofExcept_map {α β : Type} (answer : β → HistoryAnswer) (f : α → β)
    (outcome : Except Overflow α) :
    ofExcept answer (outcome.map f) = ofExcept (fun value => answer (f value)) outcome := by
  cases outcome <;> rfl

/-- All that can be seen of a history. -/
structure HistoryView where
  snapshot : Snapshot
  size : Nat
  isEmpty : Bool
  bytes : Nat
  evicted : Nat
  deriving DecidableEq

/-- A call on a history. -/
def History.answer (history : History) : HistoryCall → HistoryAnswer × History
  | .append packet => (.done, history.append packet)
  | .rotate => (.ofExcept .committed history.rotate.1, history.rotate.2)
  | .push packet => (.ofExcept (fun _ => .done) (history.push packet).1, (history.push packet).2)
  | .clear => (.done, history.clear)
  | .discardThrough seq =>
    (.number (history.discardThrough seq).1, (history.discardThrough seq).2)
  | .snapshot => (.copied history.snapshot, history)
  | .size => (.number history.size, history)
  | .bytes => (.number history.bytes, history)

/-- What can be seen of a history. -/
def History.view (history : History) : HistoryView where
  snapshot := history.snapshot
  size := history.size
  isEmpty := history.isEmpty
  bytes := history.bytes
  evicted := history.evicted

/-- A call on the ledger of a stream of kind `kind`, kept in `slots` slots. -/
def Ledger.answer (kind : StreamKind) (late : Packet → Packet → Bool) (slots : Nat)
    (ledger : Ledger) : HistoryCall → HistoryAnswer × Ledger
  | .append packet => (.done, ledger.stage packet)
  | .rotate => (.committed (ledger.commit late slots).1, (ledger.commit late slots).2)
  | .push packet => (.done, ((ledger.stage packet).commit late slots).2)
  | .clear => (.done, ledger.clear)
  | .discardThrough seq => (.number (ledger.discardThrough seq).1, (ledger.discardThrough seq).2)
  | .snapshot => (.copied (ledger.snapshot kind), ledger)
  | .size => (.number ledger.held.length, ledger)
  | .bytes => (.number ledger.bytes, ledger)

/-- What can be seen of the ledger of a stream of kind `kind`. -/
def Ledger.view (kind : StreamKind) (ledger : Ledger) : HistoryView where
  snapshot := ledger.snapshot kind
  size := ledger.held.length
  isEmpty := ledger.held.isEmpty
  bytes := ledger.bytes
  evicted := ledger.evicted

/-- The answers to calls made in turn, each with what can be seen after it. -/
def HistoryCall.trace {σ : Type} (answer : σ → HistoryCall → HistoryAnswer × σ)
    (view : σ → HistoryView) : List HistoryCall → σ → List (HistoryAnswer × HistoryView)
  | [], _ => []
  | call :: calls, state =>
    ((answer state call).1, view (answer state call).2) ::
      trace answer view calls (answer state call).2

/-- The state after calls made in turn. -/
def HistoryCall.after {σ : Type} (answer : σ → HistoryCall → HistoryAnswer × σ)
    (calls : List HistoryCall) (state : σ) : σ :=
  calls.foldl (fun state call => (answer state call).2) state

end InstantReplay
