import InstantReplay.Proofs.History.Refinement
import InstantReplay.Proofs.Save.Checked

/-!
# An envelope without overflow

If a tick lasts at least a microsecond and every time lies within `2 ^ 60` microseconds of zero,
the arithmetic of histories and clips stays in the 64 bits (`Clip.noOverflow_inEnvelope`). A start
counted in ticks of another stream is off by half a tick, which is at most `2 ^ 50` microseconds; so
a stream is moved back by at most `2 ^ 61` microseconds, and its times end up within `2 ^ 62`.
-/

namespace InstantReplay

theorem inInt64_of_abs_le {n : Int} (h : |n| ≤ 2 ^ 62) : InInt64 n := by
  rw [abs_le] at h
  constructor <;> omega

namespace TimeBase

/-- Ticks of at least a microsecond. -/
structure Coarse (base : TimeBase) : Prop extends base.Positive where
  den_le : base.den.toInt ≤ 1000000 * base.num.toInt

instance (base : TimeBase) : Decidable base.Coarse :=
  decidable_of_iff (base.Positive ∧ base.den.toInt ≤ 1000000 * base.num.toInt)
    ⟨fun h => ⟨h.1, h.2⟩, fun h => ⟨h.toPositive, h.den_le⟩⟩

/-- The time lies within `2 ^ 60` microseconds of zero. -/
def InEnvelope (base : TimeBase) (time : Int64) : Prop := |(time.toInt : ℚ) * base.tick| ≤ 2 ^ 60

variable {base : TimeBase}

theorem inEnvelope_iff (h : base.Positive) {time : Int64} : base.InEnvelope time ↔
    |time.toInt * base.num.toInt * 1000000| ≤ 2 ^ 60 * base.den.toInt := by
  have hden : (0 : ℚ) < base.den.toInt := Int.cast_pos.2 h.den_pos
  rw [InEnvelope, tick, ← mul_div_assoc, abs_div, abs_of_pos hden, div_le_iff₀ hden, ← mul_assoc]
  exact_mod_cast Iff.rfl

theorem Coarse.one_le_tick (h : base.Coarse) : 1 ≤ base.tick := by
  rw [← tick_microseconds, tick_le_tick_iff h.toPositive positive_microseconds]
  have hnum : microseconds.num.toInt = 1 := by decide
  have hden : microseconds.den.toInt = 1000000 := by decide
  rw [hnum, hden, one_mul, mul_comm]
  exact h.den_le

theorem tick_le (h : base.Positive) : base.tick ≤ 2 ^ 51 := by
  have hnum : (base.num.toInt : ℚ) ≤ 2 ^ 31 := by
    have := base.num.toInt_lt
    exact_mod_cast this.le
  have hden : (1 : ℚ) ≤ base.den.toInt := by exact_mod_cast h.den_pos
  have hpos : (0 : ℚ) ≤ base.num.toInt * 1000000 :=
    mul_nonneg (by exact_mod_cast h.num_pos.le) (by norm_num)
  calc base.tick ≤ base.num.toInt * 1000000 := div_le_self hpos hden
    _ ≤ 2 ^ 31 * 1000000 := mul_le_mul_of_nonneg_right hnum (by norm_num)
    _ ≤ 2 ^ 51 := by norm_num

/-! ## Bounds on counts -/

/-- There are no more ticks than microseconds. -/
theorem Coarse.abs_le (h : base.Coarse) {time bound : Int}
    (hbound : |(time : ℚ) * base.tick| ≤ bound) : |time| ≤ bound := by
  rw [abs_mul, abs_of_pos (tick_pos h.toPositive)] at hbound
  have hcount : |(time : ℚ)| ≤ |(time : ℚ)| * base.tick :=
    le_mul_of_one_le_right (abs_nonneg _) h.one_le_tick
  exact_mod_cast hcount.trans hbound

/-- A whole number of microseconds bounds the rounded time as it does the time itself. -/
theorem abs_micros_le (h : base.Positive) {time bound : Int}
    (hbound : |(time : ℚ) * base.tick| ≤ bound) : |base.micros time| ≤ bound := by
  have hround := abs_micros_sub_le h time
  have hnear : |(base.micros time : ℚ)| < bound + 1 := by
    have hsplit := abs_add_le ((base.micros time : ℚ) - time * base.tick) (time * base.tick)
    rw [sub_add_cancel] at hsplit
    linarith
  have hlt : |base.micros time| < bound + 1 := by exact_mod_cast hnear
  omega

theorem abs_ticks_mul_tick_le (h : base.Positive) {start : Int} (hstart : |start| ≤ 2 ^ 60) :
    |(base.ticks start : ℚ) * base.tick| ≤ 2 ^ 61 := by
  have hround := abs_ticks_mul_sub_le h start
  have htick := tick_le h
  have hstart' : |(start : ℚ)| ≤ 2 ^ 60 := by exact_mod_cast hstart
  have hsplit := abs_add_le ((base.ticks start : ℚ) * base.tick - start) start
  rw [sub_add_cancel] at hsplit
  linarith

theorem InEnvelope.abs_le (h : base.Coarse) {time : Int64} (htime : base.InEnvelope time) :
    |time.toInt| ≤ 2 ^ 60 :=
  h.abs_le (by exact_mod_cast htime)

theorem InEnvelope.abs_micros_le (h : base.Positive) {time : Int64}
    (htime : base.InEnvelope time) : |base.micros time.toInt| ≤ 2 ^ 60 :=
  TimeBase.abs_micros_le h (by exact_mod_cast htime)

theorem InEnvelope.inInt64_micros (h : base.Positive) {time : Int64}
    (htime : base.InEnvelope time) : InInt64 (base.micros time.toInt) :=
  inInt64_of_abs_le ((htime.abs_micros_le h).trans (by norm_num))

end TimeBase

/-- Both times of a packet lie within `2 ^ 60` microseconds of zero. -/
structure Packet.InEnvelope (base : TimeBase) (packet : Packet) : Prop where
  pts : base.InEnvelope packet.pts
  dts : base.InEnvelope packet.dts

theorem Packet.inEnvelope_iff {base : TimeBase} (h : base.Positive) {packet : Packet} :
    packet.InEnvelope base ↔
      |packet.pts.toInt * base.num.toInt * 1000000| ≤ 2 ^ 60 * base.den.toInt ∧
        |packet.dts.toInt * base.num.toInt * 1000000| ≤ 2 ^ 60 * base.den.toInt := by
  rw [← TimeBase.inEnvelope_iff h, ← TimeBase.inEnvelope_iff h]
  exact ⟨fun hpacket => ⟨hpacket.pts, hpacket.dts⟩, fun hpacket => ⟨hpacket.1, hpacket.2⟩⟩

/-- The age of a packet in the envelope does not overflow. -/
theorem Packet.InEnvelope.age {base : TimeBase} (hbase : base.Coarse) {newest oldest : Packet}
    (hnewest : newest.InEnvelope base) (holdest : oldest.InEnvelope base) :
    InInt64 (newest.pts.toInt - oldest.pts.toInt) := by
  have hnew := abs_le.1 (hnewest.pts.abs_le hbase)
  have hold := abs_le.1 (holdest.pts.abs_le hbase)
  exact inInt64_of_abs_le (abs_le.2 ⟨by omega, by omega⟩)

namespace Clip

/-- The streams have ticks of at least a microsecond, and all their times lie within `2 ^ 60`
microseconds of zero. -/
def InEnvelope (snapshots : List Snapshot) (bases : List TimeBase) : Prop :=
  ∀ pair ∈ snapshots.zip bases, pair.2.Coarse ∧ ∀ packet ∈ pair.1.packets, packet.InEnvelope pair.2

namespace InEnvelope

variable {snapshots : List Snapshot} {bases : List TimeBase} {pair : Snapshot × TimeBase}
  {packet : Packet}

theorem positive (h : InEnvelope snapshots bases) (hpair : pair ∈ snapshots.zip bases) :
    pair.2.Positive := (h pair hpair).1.toPositive

theorem pts (h : InEnvelope snapshots bases) (hpair : pair ∈ snapshots.zip bases)
    (hpacket : packet ∈ pair.1.packets) : pair.2.InEnvelope packet.pts :=
  ((h pair hpair).2 packet hpacket).pts

theorem dts (h : InEnvelope snapshots bases) (hpair : pair ∈ snapshots.zip bases)
    (hpacket : packet ∈ pair.1.packets) : pair.2.InEnvelope packet.dts :=
  ((h pair hpair).2 packet hpacket).dts

/-- A time of a packet in microseconds, as it is counted in 64 bits. -/
theorem abs_toMicros_le (h : InEnvelope snapshots bases) (hpair : pair ∈ snapshots.zip bases)
    (hpacket : packet ∈ pair.1.packets) : |(pair.2.toMicros packet.pts).toInt| ≤ 2 ^ 60 := by
  have htime := h.pts hpair hpacket
  rw [TimeBase.toInt_toMicros (h.positive hpair) (htime.inInt64_micros (h.positive hpair))]
  exact htime.abs_micros_le (h.positive hpair)

theorem abs_start_le (h : InEnvelope snapshots bases) {start : Int64}
    (hstart : start? snapshots bases = some start) : |start.toInt| ≤ 2 ^ 60 := by
  obtain ⟨⟨pair, hpair, time, htime, rfl⟩, -⟩ := start?_eq_some hstart
  obtain ⟨packet, hpacket, rfl⟩ := (Snapshot.minPts_eq_some htime).1
  exact h.abs_toMicros_le hpair hpacket

theorem abs_finish_le (h : InEnvelope snapshots bases) {finish : Int64}
    (hfinish : finish? snapshots bases = some finish) : |finish.toInt| ≤ 2 ^ 60 := by
  obtain ⟨⟨pair, hpair, time, htime, rfl⟩, -⟩ := finish?_eq_some hfinish
  obtain ⟨packet, hpacket, rfl⟩ := (Snapshot.maxPts_eq_some htime).1
  exact h.abs_toMicros_le hpair hpacket

theorem inInt64_ticks (h : InEnvelope snapshots bases) (hpair : pair ∈ snapshots.zip bases)
    {start : Int64} (hstart : start? snapshots bases = some start) :
    InInt64 (pair.2.ticks start.toInt) := by
  have hticks := TimeBase.abs_ticks_mul_tick_le (h.positive hpair) (h.abs_start_le hstart)
  have hcount : |pair.2.ticks start.toInt| ≤ 2 ^ 61 :=
    (h pair hpair).1.abs_le (by exact_mod_cast hticks)
  exact inInt64_of_abs_le (hcount.trans (by norm_num))

/-- A stream is moved back by at most `2 ^ 61` microseconds. -/
theorem abs_shift_mul_tick_le (h : InEnvelope snapshots bases)
    (hpair : pair ∈ snapshots.zip bases) :
    |((shift snapshots bases pair.1 pair.2).toInt : ℚ) * pair.2.tick| ≤ 2 ^ 61 := by
  rcases hstart : start? snapshots bases with _ | start
  · simp [shift, hstart]
  rcases htime : pair.1.minPts with _ | time
  · simp [shift, hstart, htime]
  simp only [shift, hstart, htime, offset]
  split
  · obtain ⟨packet, hpacket, rfl⟩ := (Snapshot.minPts_eq_some htime).1
    have hpts : |(packet.pts.toInt : ℚ) * pair.2.tick| ≤ 2 ^ 60 := h.pts hpair hpacket
    exact hpts.trans (by norm_num)
  · rw [TimeBase.toInt_ofMicros (h.inInt64_ticks hpair hstart)]
    exact TimeBase.abs_ticks_mul_tick_le (h.positive hpair) (h.abs_start_le hstart)

/-- A time that is moved back stays within `2 ^ 62` microseconds of zero. -/
theorem abs_moved_mul_tick_le (h : InEnvelope snapshots bases) (hpair : pair ∈ snapshots.zip bases)
    {time : Int64} (htime : pair.2.InEnvelope time) :
    |((time.toInt - (shift snapshots bases pair.1 pair.2).toInt : Int) : ℚ) * pair.2.tick| ≤
      (2 ^ 62 : Int) := by
  calc |((time.toInt - (shift snapshots bases pair.1 pair.2).toInt : Int) : ℚ) * pair.2.tick|
      = |(time.toInt : ℚ) * pair.2.tick -
          (shift snapshots bases pair.1 pair.2).toInt * pair.2.tick| := by
        rw [Int.cast_sub, sub_mul]
    _ ≤ |(time.toInt : ℚ) * pair.2.tick| +
          |((shift snapshots bases pair.1 pair.2).toInt : ℚ) * pair.2.tick| := abs_sub _ _
    _ ≤ 2 ^ 60 + 2 ^ 61 := add_le_add htime (h.abs_shift_mul_tick_le hpair)
    _ ≤ (2 ^ 62 : Int) := by norm_num

theorem inInt64_moved (h : InEnvelope snapshots bases) (hpair : pair ∈ snapshots.zip bases)
    {time : Int64} (htime : pair.2.InEnvelope time) :
    InInt64 (time.toInt - (shift snapshots bases pair.1 pair.2).toInt) ∧
      InInt64 (pair.2.micros (time.toInt - (shift snapshots bases pair.1 pair.2).toInt)) := by
  have hmoved := h.abs_moved_mul_tick_le hpair htime
  exact ⟨inInt64_of_abs_le ((h pair hpair).1.abs_le hmoved),
    inInt64_of_abs_le (TimeBase.abs_micros_le (h.positive hpair) hmoved)⟩

theorem inRange (h : InEnvelope snapshots bases) : InRange snapshots bases where
  micros _ hpair _ hpacket := (h.pts hpair hpacket).inInt64_micros (h.positive hpair)
  ticks _ hpair _ _ hstart := h.inInt64_ticks hpair hstart
  pts _ hpair _ hpacket := (h.inInt64_moved hpair (h.pts hpair hpacket)).1
  dts _ hpair _ hpacket := (h.inInt64_moved hpair (h.dts hpair hpacket)).1
  decoded _ hpair _ hpacket := (h.inInt64_moved hpair (h.dts hpair hpacket)).2

theorem measures (h : InEnvelope snapshots bases) : Measures snapshots bases where
  micros _ hpair _ hpacket := (h.pts hpair hpacket).inInt64_micros (h.positive hpair)
  moved _ hpair _ hpacket := (h.inInt64_moved hpair (h.pts hpair hpacket)).2
  span start finish hstart hfinish := by
    have hlow := abs_le.1 (h.abs_start_le hstart)
    have hhigh := abs_le.1 (h.abs_finish_le hfinish)
    exact inInt64_of_abs_le (abs_le.2 ⟨by omega, by omega⟩)

/-- **A clip in the envelope is made without overflow.** -/
theorem fits (h : InEnvelope snapshots bases) : Fits snapshots bases :=
  Clip.fits h.inRange h.measures fun _ hpair _ hpacket =>
    (h.dts hpair hpacket).inInt64_micros (h.positive hpair)

end InEnvelope

/-- **Nothing overflows in the envelope.** In every run of calls on a history, no age of a packet
does, and the packets it holds are in the envelope still; and in a clip made of any streams in the
envelope, no difference and no conversion does. -/
theorem noOverflow_inEnvelope :
    (∀ (kind : StreamKind) (slots : Nat) (base : TimeBase) (window : Int64)
      (calls : List HistoryCall), base.Coarse →
        (∀ packet ∈ calls.filterMap HistoryCall.packet?, packet.InEnvelope base) →
        let history := History.withSlots kind slots base window
        history.after? calls = some (HistoryCall.after History.answer calls history) ∧
          ∀ packet ∈ (HistoryCall.after History.answer calls history).snapshot.packets,
            packet.InEnvelope base) ∧
    ∀ (snapshots : List Snapshot) (bases : List TimeBase),
      InEnvelope snapshots bases → Fits snapshots bases := by
  refine ⟨fun kind slots base window calls hbase hcalls => ?_, fun snapshots bases h => h.fits⟩
  obtain ⟨hafter, hpackets⟩ := (History.keeps_withSlots kind slots base window).after?_eq calls
    fun newest hnewest oldest holdest => (hcalls newest hnewest).age hbase (hcalls oldest holdest)
  exact ⟨hafter, fun packet hpacket => hcalls packet (hpackets hpacket)⟩

/-- Calls with packets at both ends of the envelope of microseconds. -/
def edgeCalls : List HistoryCall :=
  let first : Packet := ⟨.empty, -1152921504606846976, -1152921504606846976, true, 0⟩
  let last : Packet := ⟨.empty, 1152921504606846976, 1152921504606846976, true, 0⟩
  [.push first, .append last, .rotate, .push first]

/-- Packets at both ends of the envelope of the longest ticks. -/
def edgeStream : Snapshot :=
  ⟨.audio, [⟨.empty, -536, 536, true, 0⟩, ⟨.empty, 536, -536, true, 0⟩], some 1⟩

/-- A stream with the shortest ticks and one with the longest, each with packets at both ends of
the envelope. -/
theorem noOverflow_inEnvelope_edge :
    let history := History.withSlots .video 8 ⟨1, 1000000⟩ 9223372036854775807
    let snapshots := [(HistoryCall.after History.answer edgeCalls history).snapshot, edgeStream]
    let bases : List TimeBase := [⟨1, 1000000⟩, ⟨2147483647, 1⟩]
    history.after? edgeCalls = some (HistoryCall.after History.answer edgeCalls history) ∧
      InEnvelope snapshots bases ∧ Fits snapshots bases ∧
      span snapshots bases = 2305843009213693952 := by
  intro history snapshots bases
  have hcalls : ∀ packet ∈ edgeCalls.filterMap HistoryCall.packet?,
      packet.InEnvelope ⟨1, 1000000⟩ := by
    simp only [Packet.inEnvelope_iff (show (⟨1, 1000000⟩ : TimeBase).Positive by decide)]
    decide +kernel
  have hhistory := noOverflow_inEnvelope.1 .video 8 ⟨1, 1000000⟩ 9223372036854775807 edgeCalls
    (by decide) hcalls
  have hlong : ∀ packet ∈ edgeStream.packets, packet.InEnvelope ⟨2147483647, 1⟩ := by
    simp only [Packet.inEnvelope_iff (show (⟨2147483647, 1⟩ : TimeBase).Positive by decide)]
    decide +kernel
  have hclip : InEnvelope snapshots bases := by
    simp only [InEnvelope, snapshots, bases, List.zip_cons_cons, List.zip_nil_right,
      List.forall_mem_cons]
    exact ⟨⟨by decide, hhistory.2⟩, ⟨by decide, hlong⟩, by simp⟩
  exact ⟨hhistory.1, hclip, noOverflow_inEnvelope.2 snapshots bases hclip, by decide +kernel⟩

/-- The times of two packets that lie further apart do overflow, and the checks notice it. -/
example : Checked.span [⟨.audio, [⟨.empty, -4611686018427387905, 0, true, 0⟩,
    ⟨.empty, 4611686018427387904, 0, true, 0⟩], some 1⟩] [⟨1, 1000000⟩] = none := by
  decide +kernel

end Clip

end InstantReplay
