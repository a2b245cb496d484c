import InstantReplay.Proofs.History.Retention
import Mathlib.Data.List.Chain

/-!
# The slots of a history cover its window

The slots of a history are counted from the packets per second of a stream, rounded up, and its
window from the ticks per second. Packets that come at least a step of ticks apart take up at least
as many steps as there are packets after the first (`Packet.add_length_mul_le`), and the slots make
for at least as many steps as the window (`History.window_ofFormat_le`). So there is a slot for
every packet younger than the window (`History.Keeps.mem_of_young`).

How old the packets held are depends on a subtraction in 64 bits for each of them, made by the last
push. Where its result does not fit the push breaks down, and a packet outlives the window.
-/

namespace InstantReplay

/-! ## Packets a step apart -/

namespace Packet

/-- The packet `newer` comes at least `step` ticks after `older`. -/
def Spaced (step : Nat) (older newer : Packet) : Prop :=
  older.pts.toInt + step ≤ newer.pts.toInt

instance (step : Nat) (older newer : Packet) : Decidable (Spaced step older newer) :=
  inferInstanceAs (Decidable (_ ≤ _))

instance (step : Nat) : Trans (Spaced step) (Spaced step) (Spaced step) where
  trans := by
    intro oldest older newer holder hnewer
    unfold Spaced at *
    omega

variable {step : Nat} {packets : List Packet}

/-- Packets a step apart never go back in time. -/
theorem pairwise_of_spaced (h : packets.IsChain (Spaced step)) :
    packets.Pairwise (·.pts ≤ ·.pts) := by
  refine h.pairwise.imp fun hspaced => ?_
  rw [Int64.le_iff_toInt_le]
  unfold Spaced at hspaced
  omega

/-- So many packets a step apart take so many steps. -/
theorem add_length_mul_le {oldest newest : Packet}
    (h : (oldest :: packets).IsChain (Spaced step))
    (hnewest : (oldest :: packets).getLast? = some newest) :
    oldest.pts.toInt + (packets.length * step : Nat) ≤ newest.pts.toInt := by
  induction packets generalizing oldest with
  | nil =>
    obtain rfl : oldest = newest := by simpa using hnewest
    simp
  | cons second packets ih =>
    rw [List.isChain_cons_cons] at h
    rw [List.getLast?_cons_cons] at hnewest
    have hrest := ih h.2 hnewest
    have hstep := h.1
    unfold Spaced at hstep
    rw [List.length_cons, Nat.succ_mul]
    omega

end Packet

/-! ## Slots and windows -/

/-- A format whose packets come at least so many ticks apart: pictures one tick of the frame rate,
packets of samples as many ticks as they have samples. -/
inductive StreamFormat.Paced : StreamFormat → Nat → Prop
  | video (codec : String) (width height fps : UInt32) (hfps : 1 ≤ fps.toNat)
      (hlt : fps.toNat < 2 ^ 31) : Paced (.video codec width height fps) 1
  | audio (codec : String) (sampleRate channels packetSamples : UInt32)
      (hrate : 1 ≤ sampleRate.toNat) (hlt : sampleRate.toNat < 2 ^ 31)
      (hsamples : 1 ≤ packetSamples.toNat) :
      Paced (.audio codec sampleRate channels packetSamples) packetSamples.toNat

namespace StreamFormat

variable {format : StreamFormat} {step : Nat}

/-- The packets of a second hold at least its samples. -/
theorem le_audioRate_mul {sampleRate packetSamples : UInt32} (hsamples : 1 ≤ packetSamples.toNat) :
    sampleRate.toNat ≤ (audioRate sampleRate packetSamples).toNat * packetSamples.toNat := by
  have hrate := sampleRate.toNat_lt
  have hround : sampleRate.toNat + packetSamples.toNat - 1 <
      (sampleRate.toNat + packetSamples.toNat - 1) / packetSamples.toNat * packetSamples.toNat +
        packetSamples.toNat := Nat.lt_div_mul_add hsamples
  have hlt : (sampleRate.toNat + packetSamples.toNat - 1) / packetSamples.toNat < 2 ^ 32 := by
    rw [Nat.div_lt_iff_lt_mul hsamples]
    omega
  rw [audioRate, Nat.max_eq_left hsamples, UInt32.toNat_ofNat_of_lt' hlt]
  omega

/-- A paced stream has so many ticks a second, and its packets of a second cover them. -/
theorem Paced.exists_ticks (h : format.Paced step) :
    ∃ ticks : Nat, ticks < 2 ^ 31 ∧ format.timeBase = ⟨1, Int32.ofNat ticks⟩ ∧
      ticks ≤ format.rate.toNat * step := by
  cases h with
  | video codec width height fps hfps hlt =>
    refine ⟨fps.toNat, hlt, ?_, ?_⟩
    · rw [StreamFormat.video, Nat.max_eq_left hfps]
    · rw [Nat.mul_one]
      exact Nat.le_refl _
  | audio codec sampleRate channels packetSamples hrate hlt hsamples =>
    refine ⟨sampleRate.toNat, hlt, ?_, le_audioRate_mul hsamples⟩
    rw [StreamFormat.audio, Nat.max_eq_left hrate]

end StreamFormat

/-- The window of whole seconds, when a second has a whole number of ticks. -/
theorem TimeBase.toInt_ticksIn {ticks : Nat} (hticks : ticks < 2 ^ 31) (seconds : UInt32) :
    (TimeBase.ticksIn ⟨1, Int32.ofNat ticks⟩ seconds).toInt = (seconds.toNat * ticks : Nat) := by
  have hlt : seconds.toNat * ticks < 2 ^ 32 * 2 ^ 31 := Nat.mul_lt_mul'' seconds.toNat_lt hticks
  have hfits : InInt64 (seconds.toNat * ticks : Nat) := by
    constructor <;> omega
  have hone : max (1 : Int32).toInt 1 = 1 := by decide
  rw [ticksIn, Int32.toInt_ofNat_of_lt hticks, hone, Int.tdiv_one, ← Int.natCast_mul]
  exact hfits.toInt_ofInt

namespace History

variable {history : History} {ledger : Ledger} {format : StreamFormat} {step : Nat}
  {pushed : List Packet} {newest : Packet}

theorem two_le_slotsFor (rate seconds : UInt32) : 2 ≤ slotsFor rate seconds := by
  rw [slotsFor]
  omega

/-- **The slots of a history cover its window**: in the window's time come at most as many packets
as there are slots besides the write slot. -/
theorem window_ofFormat_le (h : format.Paced step) (seconds : UInt32) :
    0 ≤ (ofFormat format seconds).window.toInt ∧
      (ofFormat format seconds).window.toInt ≤
        (((ofFormat format seconds).capacity - 1) * step : Nat) := by
  obtain ⟨ticks, hticks, hbase, hle⟩ := h.exists_ticks
  have hwindow : (ofFormat format seconds).window.toInt = (seconds.toNat * ticks : Nat) := by
    rw [ofFormat, withSlots, hbase]
    exact TimeBase.toInt_ticksIn hticks seconds
  have hslots : format.rate.toNat * seconds.toNat ≤ (ofFormat format seconds).capacity - 1 := by
    rw [ofFormat, capacity_withSlots (two_le_slotsFor _ _), slotsFor]
    omega
  rw [hwindow]
  refine ⟨Int.natCast_nonneg _, Int.ofNat_le.2 ?_⟩
  calc seconds.toNat * ticks
      ≤ seconds.toNat * (format.rate.toNat * step) := Nat.mul_le_mul_left _ hle
    _ = format.rate.toNat * seconds.toNat * step := by
      rw [Nat.mul_left_comm, Nat.mul_assoc]
    _ ≤ ((ofFormat format seconds).capacity - 1) * step := Nat.mul_le_mul_right _ hslots

/-! ## What is held -/

/-- A packet younger than the window is held, if the slots cover the window. -/
theorem Keeps.mem_of_young (h : history.Keeps ledger)
    (hcover : history.window.toInt ≤ ((history.capacity - 1) * step : Nat))
    (hspaced : pushed.IsChain (Packet.Spaced step)) (hnewest : pushed.getLast? = some newest)
    {packet : Packet} (hpacket : packet ∈ pushed)
    (hage : newest.pts.toInt - packet.pts.toInt < history.window.toInt) :
    packet ∈ (history.pushAll pushed).snapshot.packets := by
  obtain ⟨earlier, later, rfl⟩ := List.append_of_mem hpacket
  have hkept : packet :: later <:+ earlier ++ packet :: later := List.suffix_append _ _
  have hchain := hspaced.suffix hkept
  have hlast : (packet :: later).getLast? = some newest := by
    rw [List.getLast?_append_cons] at hnewest
    exact hnewest
  have hsorted := Packet.pairwise_of_spaced hchain
  have hspan := Packet.add_length_mul_le hchain hlast
  have hlength : (packet :: later).length < history.capacity := by
    have hlt : later.length * step < (history.capacity - 1) * step := by omega
    have := Nat.lt_of_mul_lt_mul_right hlt
    rw [List.length_cons]
    omega
  refine (h.suffix_pushAll hkept hlength fun newer hnewer older holder => ?_).mem (by simp)
  have hlatest := pts_le_of_getLast? hsorted hlast hnewer
  have hearliest : packet.pts.toInt ≤ older.pts.toInt := by
    rcases List.mem_cons.1 holder with rfl | hlater
    · exact Int.le_refl _
    · exact Int64.le_iff_toInt_le.1 ((List.pairwise_cons.1 hsorted).1 older hlater)
  omega

/-- What a history promises of the packets `pushed` onto it, the last of which is `newest`. -/
structure Covers (history : History) (pushed : List Packet) (newest : Packet) : Prop where
  /-- Every packet younger than the window is still held. -/
  young : ∀ packet ∈ pushed,
    newest.pts.toInt - packet.pts.toInt < history.window.toInt →
      packet ∈ (history.pushAll pushed).snapshot.packets
  /-- The last push succeeds if the ages of those held before it fit in 64 bits, -/
  push_eq_ok : (∀ older ∈ (history.pushAll pushed.dropLast).snapshot.packets,
      InInt64 (newest.pts.toInt - older.pts.toInt)) →
    ((history.pushAll pushed.dropLast).push newest).1 = .ok ()
  /-- and when it succeeds no packet held is older than the window. -/
  age_le : ((history.pushAll pushed.dropLast).push newest).1 = .ok () →
    ∀ packet ∈ (history.pushAll pushed).snapshot.packets,
      newest.pts.toInt - packet.pts.toInt ≤ history.window.toInt

/-- **The slots never shorten the window**, whatever the rate and the size of the packets. -/
theorem covers_ofFormat (h : format.Paced step) (seconds : UInt32)
    (hspaced : pushed.IsChain (Packet.Spaced step)) (hnewest : pushed.getLast? = some newest) :
    (ofFormat format seconds).Covers pushed newest := by
  have hkeeps : (ofFormat format seconds).Keeps {} := keeps_withSlots _ _ _ _
  obtain ⟨hnonneg, hcover⟩ := window_ofFormat_le h seconds
  refine ⟨fun packet => hkeeps.mem_of_young hcover hspaced hnewest,
    (hkeeps.pushAll _).push_eq_ok, fun hok packet hheld => ?_⟩
  have hretains := hkeeps.retains_pushAll Ledger.fedBy_empty hnewest hok
  have hfits := hretains.fits (Int64.le_iff_toInt_le.2 hnonneg)
    (Packet.pairwise_of_spaced hspaced)
  have hyoung := hfits.young packet hheld
  omega

/-- Audio at ten samples a second, three to a packet: four packets a second, rounded up. -/
def tenSamples : StreamFormat := .audio "aac" 10 1 3

/-- Eight packets of three samples, and one that comes late. -/
def threeApart : List Packet := [0, 3, 6, 9, 12, 15, 18, 21, 25].map packetAt

/-- Three packets are younger than the ten ticks of a second. A fourth, exactly ten ticks old, is
held too and takes the last slot. -/
theorem covers_threeApart :
    (ofFormat tenSamples 1).Covers threeApart (packetAt 25) ∧
      (∀ packet ∈ ((ofFormat tenSamples 1).pushAll threeApart).snapshot.packets,
        (packetAt 25).pts.toInt - packet.pts.toInt ≤ (ofFormat tenSamples 1).window.toInt) ∧
      ((ofFormat tenSamples 1).pushAll threeApart).snapshot.packets =
        [15, 18, 21, 25].map packetAt := by
  have hpaced : tenSamples.Paced 3 := .audio "aac" 10 1 3 (by decide) (by decide) (by decide)
  have hcovers : (ofFormat tenSamples 1).Covers threeApart (packetAt 25) :=
    covers_ofFormat hpaced 1 (by decide +kernel) (by decide +kernel)
  exact ⟨hcovers, hcovers.age_le (hcovers.push_eq_ok (by decide +kernel)), by decide +kernel⟩

/-- Two packets of a video so far apart that their distance is not one of 64 bits. -/
def farApart : List Packet := [-5000000000000000000, 5000000000000000000].map packetAt

/-- **A push can break down and leave a packet that is older than the window**: its age is not one of
64 bits. -/
theorem overflows_farApart :
    (StreamFormat.video "h264" 640 360 30).Paced 1 ∧ farApart.IsChain (Packet.Spaced 1) ∧
      farApart.getLast? = some (packetAt 5000000000000000000) ∧
      (((ofFormat (.video "h264" 640 360 30) 1).pushAll farApart.dropLast).push
        (packetAt 5000000000000000000)).1 = .error .subtraction ∧
      ¬ ∀ packet ∈ ((ofFormat (.video "h264" 640 360 30) 1).pushAll farApart).snapshot.packets,
        (packetAt 5000000000000000000).pts.toInt - packet.pts.toInt ≤
          (ofFormat (.video "h264" 640 360 30) 1).window.toInt :=
  ⟨.video "h264" 640 360 30 (by decide) (by decide), by decide +kernel, by decide +kernel,
    by decide +kernel, by decide +kernel⟩

end History

end InstantReplay
