import InstantReplay.Wire.Stream
import Mathlib.Data.List.Basic

/-!
# What is received from a stream

A stream is a list of cells: bytes, each with the descriptors attached to it. Every call takes a
chunk off its front and gets the bytes of the chunk and the descriptors attached to them
(`Inbound.exists_take`); how long the chunk is, the system decides. From this it follows what the
calls give that ask for an exact number of bytes (`Inbound.exists_readExact`,
`Inbound.exists_receiveExact`), whichever way the stream is cut, and how they fail at its end
(`StreamEnd.failure`).
-/

namespace InstantReplay

/-- A byte of a stream with the descriptors attached to it. -/
abbrev Cell := UInt8 × List Descriptor

namespace Cell

/-- The bytes of cells. -/
def bytes (cells : List Cell) : List UInt8 := cells.map (·.1)

/-- The descriptors attached to cells. -/
def descriptors (cells : List Cell) : List Descriptor := cells.flatMap (·.2)

/-- Bytes with nothing attached. -/
def plain (bytes : List UInt8) : List Cell := bytes.map (·, [])

/-- Bytes with descriptors attached to the first of them. -/
def attach (bytes : List UInt8) (descriptors : List Descriptor) : List Cell :=
  match bytes with
  | [] => []
  | byte :: rest => (byte, descriptors) :: plain rest

@[simp] theorem bytes_append (front rest : List Cell) :
    bytes (front ++ rest) = bytes front ++ bytes rest := List.map_append

@[simp] theorem descriptors_append (front rest : List Cell) :
    descriptors (front ++ rest) = descriptors front ++ descriptors rest := List.flatMap_append

@[simp] theorem bytes_take (count : Nat) (cells : List Cell) :
    bytes (cells.take count) = (bytes cells).take count := List.map_take

@[simp] theorem bytes_drop (count : Nat) (cells : List Cell) :
    bytes (cells.drop count) = (bytes cells).drop count := List.map_drop

@[simp] theorem length_bytes (cells : List Cell) : (bytes cells).length = cells.length :=
  List.length_map _

@[simp] theorem bytes_plain (content : List UInt8) : bytes (plain content) = content := by
  rw [bytes, plain, List.map_map]
  exact List.map_id content

@[simp] theorem descriptors_plain (content : List UInt8) : descriptors (plain content) = [] := by
  simp [descriptors, plain]

@[simp] theorem bytes_attach (content : List UInt8) (attached : List Descriptor) :
    bytes (attach content attached) = content := by
  cases content with
  | nil => rfl
  | cons byte rest =>
    rw [attach]
    exact congrArg (byte :: ·) (bytes_plain rest)

@[simp] theorem length_attach (content : List UInt8) (attached : List Descriptor) :
    (attach content attached).length = content.length := by
  rw [← length_bytes, bytes_attach]

@[simp] theorem attach_nil (content : List UInt8) : attach content [] = plain content := by
  cases content <;> rfl

theorem plain_append (front rest : List UInt8) : plain (front ++ rest) = plain front ++ plain rest :=
  List.map_append

theorem attach_append {front : List UInt8} (h : front ≠ []) (rest : List UInt8)
    (attached : List Descriptor) :
    attach (front ++ rest) attached = attach front attached ++ plain rest := by
  cases front with
  | nil => exact absurd rfl h
  | cons byte front => rw [List.cons_append, attach, attach, plain_append, List.cons_append]

/-- Whatever begins with the first of the cells has all descriptors of a message. -/
theorem descriptors_of_prefix_attach {chunk : List Cell} {content : List UInt8}
    {attached : List Descriptor} (hne : chunk ≠ []) (h : chunk <+: attach content attached) :
    descriptors chunk = attached := by
  cases content with
  | nil => exact absurd (List.prefix_nil.1 h) hne
  | cons byte rest =>
    obtain ⟨first, chunk, rfl⟩ := List.exists_cons_of_ne_nil hne
    obtain ⟨rfl, hchunk⟩ := List.cons_prefix_cons.1 h
    obtain ⟨later, hlater⟩ := hchunk
    have hplain : descriptors chunk = [] := by
      have hall := descriptors_plain rest
      rw [← hlater, descriptors_append] at hall
      exact (List.append_eq_nil_iff.1 hall).1
    show attached ++ descriptors chunk = attached
    rw [hplain, List.append_nil]

end Cell

namespace Segment

/-- The cells of a segment. -/
def cells (segment : Segment) : List Cell := Cell.attach segment.bytes segment.descriptors

@[simp] theorem bytes_cells (segment : Segment) : Cell.bytes segment.cells = segment.bytes :=
  Cell.bytes_attach _ _

@[simp] theorem length_cells (segment : Segment) : segment.cells.length = segment.bytes.length :=
  Cell.length_attach _ _

theorem descriptors_cells {segment : Segment} (h : segment.bytes ≠ []) :
    Cell.descriptors segment.cells = segment.descriptors :=
  Cell.descriptors_of_prefix_attach (fun hcells => h (by
    rw [← List.length_eq_zero_iff, ← length_cells, hcells, List.length_nil])) (List.prefix_refl _)

end Segment

/-- How a read fails that the end of the stream cuts short. -/
def StreamEnd.failure : StreamEnd → IoError
  | .closed => Inbound.cutShort
  | .reset => .os Errno.connectionReset
  | .silent => .os Errno.tryAgain

namespace Inbound

/-- The cells that nobody has received yet. -/
def cells (inbound : Inbound) : List Cell := inbound.segments.flatMap Segment.cells

/-- Every segment of the stream has a byte. -/
structure Filled (inbound : Inbound) : Prop where
  ne_nil : ∀ segment ∈ inbound.segments, segment.bytes ≠ []

/-- The stream loses no descriptors: there is room for those of each segment, and no call that asks
for them is more than interrupted. -/
structure Reliable (inbound : Inbound) : Prop extends inbound.Filled where
  room : ∀ segment ∈ inbound.segments, segment.descriptors.length ≤ maxDescriptors
  refusals : afterInterruptions inbound.refusals = []
  identified : inbound.identified = false

/-- Calls take `chunk` off the stream. -/
structure Passes (inbound : Inbound) (chunk : List Cell) (later : Inbound) : Prop where
  cells_eq : inbound.cells = chunk ++ later.cells
  ending : later.ending = inbound.ending
  filled : later.Filled
  reliable : inbound.Reliable → later.Reliable

variable {inbound later last : Inbound}

theorem bytes_cells (inbound : Inbound) : Cell.bytes inbound.cells = inbound.unread := by
  rw [cells, unread, Cell.bytes, List.map_flatMap]
  exact List.flatMap_congr fun segment _ => segment.bytes_cells

theorem length_cells (inbound : Inbound) : inbound.cells.length = inbound.unread.length := by
  rw [← bytes_cells, Cell.length_bytes]

theorem Filled.cells_eq_nil (h : inbound.Filled) : inbound.cells = [] ↔ inbound.segments = [] := by
  constructor
  · intro hcells
    cases hsegments : inbound.segments with
    | nil => rfl
    | cons segment rest =>
      have hne := h.ne_nil segment (by rw [hsegments]; exact List.mem_cons_self)
      rw [cells, hsegments, List.flatMap_cons] at hcells
      have hlength := congrArg List.length (List.append_eq_nil_iff.1 hcells).1
      rw [Segment.length_cells] at hlength
      exact absurd (List.length_eq_zero_iff.1 hlength) hne
  · intro hsegments
    rw [cells, hsegments, List.flatMap_nil]

theorem Passes.refl (h : inbound.Filled) : inbound.Passes [] inbound :=
  ⟨rfl, rfl, h, id⟩

theorem Passes.trans {front back : List Cell} (h : inbound.Passes front later)
    (hlast : later.Passes back last) : inbound.Passes (front ++ back) last where
  cells_eq := by rw [h.cells_eq, hlast.cells_eq, List.append_assoc]
  ending := hlast.ending.trans h.ending
  filled := hlast.filled
  reliable hreliable := hlast.reliable (h.reliable hreliable)

/-- The chunk is known by its length. -/
theorem Passes.eq_take {chunk : List Cell} (h : inbound.Passes chunk later) :
    chunk = inbound.cells.take chunk.length ∧ later.cells = inbound.cells.drop chunk.length := by
  rw [h.cells_eq, List.take_left, List.drop_left]
  exact ⟨rfl, rfl⟩

/-- What is left of a stream whose first `count` cells were taken. -/
theorem Passes.cells_drop {count : Nat} (h : inbound.Passes (inbound.cells.take count) later) :
    later.cells = inbound.cells.drop count :=
  List.append_cancel_left (h.cells_eq.symm.trans (List.take_append_drop count _).symm)

theorem Passes.unread_drop {count : Nat} (h : inbound.Passes (inbound.cells.take count) later) :
    later.unread = inbound.unread.drop count := by
  rw [← bytes_cells, h.cells_drop, Cell.bytes_drop, bytes_cells]

/-! ## One call -/

theorem exists_takeFrom {want : Nat} (hwant : 0 < want) {segments : List Segment}
    (hfilled : ∀ segment ∈ segments, segment.bytes ≠ []) :
    ∃ chunk rest, takeFrom want segments = (Cell.bytes chunk, Cell.descriptors chunk, rest) ∧
      segments.flatMap Segment.cells = chunk ++ rest.flatMap Segment.cells ∧
      chunk.length ≤ want ∧ (segments ≠ [] → chunk ≠ []) ∧
      (Cell.descriptors chunk = [] ∨
        ∃ segment ∈ segments, Cell.descriptors chunk = segment.descriptors) ∧
      ∀ segment ∈ rest, segment.bytes ≠ [] ∧ (segment.descriptors = [] ∨ segment ∈ segments) := by
  induction segments generalizing want with
  | nil => exact ⟨[], [], rfl, rfl, Nat.zero_le _, absurd rfl, Or.inl rfl, by simp⟩
  | cons segment segments ih =>
    have hne := hfilled segment List.mem_cons_self
    have hrest : ∀ other ∈ segments, other.bytes ≠ [] := fun other hother =>
      hfilled other (List.mem_cons_of_mem _ hother)
    have hpos := List.length_pos_iff.2 hne
    have hcells : segment.cells ≠ [] := by
      rw [← List.length_pos_iff, Segment.length_cells]
      exact hpos
    rw [takeFrom, List.flatMap_cons]
    by_cases hfits : segment.bytes.length ≤ want
    · rw [if_pos hfits]
      by_cases hgoes : segment.descriptors.isEmpty ∧ segment.bytes.length < want
      · -- The call goes on with the segments behind.
        rw [if_pos hgoes]
        have hplain : Cell.descriptors segment.cells = [] := by
          rw [Segment.descriptors_cells hne]
          exact List.isEmpty_iff.1 hgoes.1
        obtain ⟨chunk, rest, htake, heq, hlength, -, hfrom, hleft⟩ :=
          ih (Nat.sub_pos_of_lt hgoes.2) hrest
        refine ⟨segment.cells ++ chunk, rest, ?_, ?_, ?_, fun _ => ?_, ?_, ?_⟩
        · rw [htake, Cell.bytes_append, Cell.descriptors_append, hplain, Segment.bytes_cells,
            List.nil_append]
        · rw [heq, List.append_assoc]
        · rw [List.length_append, Segment.length_cells]
          omega
        · exact List.append_ne_nil_of_left_ne_nil hcells _
        · rw [Cell.descriptors_append, hplain, List.nil_append]
          refine hfrom.imp_right ?_
          rintro ⟨other, hother, hdescriptors⟩
          exact ⟨other, List.mem_cons_of_mem _ hother, hdescriptors⟩
        · exact fun other hother => ⟨(hleft other hother).1,
            (hleft other hother).2.imp_right (List.mem_cons_of_mem _)⟩
      · rw [if_neg hgoes]
        refine ⟨segment.cells, segments, ?_, rfl, ?_, fun _ => hcells,
          Or.inr ⟨segment, List.mem_cons_self, Segment.descriptors_cells hne⟩, fun other hother =>
            ⟨hrest other hother, Or.inr (List.mem_cons_of_mem _ hother)⟩⟩
        · rw [Segment.bytes_cells, Segment.descriptors_cells hne]
        · rw [Segment.length_cells]
          exact hfits
    · -- The segment is cut, and the rest of it carries nothing.
      rw [if_neg hfits]
      have hfront : segment.bytes.take want ≠ [] := by
        rw [← List.length_pos_iff, List.length_take]
        omega
      have hsplit : segment.cells = Cell.attach (segment.bytes.take want) segment.descriptors ++
          Cell.plain (segment.bytes.drop want) := by
        rw [← Cell.attach_append hfront, List.take_append_drop]
        rfl
      have hattached := Cell.descriptors_of_prefix_attach
        (fun h => hfront (by simpa [Cell.length_attach] using congrArg List.length h))
        (List.prefix_refl (Cell.attach (segment.bytes.take want) segment.descriptors))
      refine ⟨Cell.attach (segment.bytes.take want) segment.descriptors,
        ⟨segment.bytes.drop want, []⟩ :: segments, ?_, ?_, ?_, fun _ h => hfront ?_,
        Or.inr ⟨segment, List.mem_cons_self, hattached⟩, ?_⟩
      · rw [Cell.bytes_attach, hattached]
      · rw [hsplit, List.flatMap_cons, List.append_assoc, Segment.cells, Cell.attach_nil]
      · rw [Cell.length_attach]
        exact List.length_take_le _ _
      · rw [← Cell.bytes_attach (segment.bytes.take want) segment.descriptors, h]
        rfl
      · intro other hother
        rcases List.mem_cons.1 hother with rfl | hother
        · refine ⟨?_, Or.inl rfl⟩
          rw [← List.length_pos_iff, List.length_drop]
          omega
        · exact ⟨hrest other hother, Or.inr (List.mem_cons_of_mem _ hother)⟩

theorem exists_limit (want : Nat) (hsegments : inbound.segments ≠ []) :
    ∃ limit cuts, (0 < want → 0 < limit) ∧ limit ≤ want ∧ inbound.take want =
      (.ok ((takeFrom limit inbound.segments).1, (takeFrom limit inbound.segments).2.1),
        { inbound with segments := (takeFrom limit inbound.segments).2.2, cuts := cuts }) := by
  cases hlist : inbound.segments with
  | nil => exact absurd hlist hsegments
  | cons segment rest =>
    cases hcuts : inbound.cuts with
    | nil => exact ⟨want, [], id, Nat.le_refl want, by simp only [take, hcuts, hlist]⟩
    | cons cut cuts =>
      exact ⟨min want (max cut 1), cuts, by omega, Nat.min_le_left _ _,
        by simp only [take, hcuts, hlist]⟩

/-- **A call takes a chunk off the stream**, and gets its bytes and the descriptors attached to
them. -/
theorem exists_take {want : Nat} (h : inbound.Filled) (hwant : 0 < want)
    (hcells : inbound.cells ≠ []) :
    ∃ chunk later, inbound.take want = (.ok (Cell.bytes chunk, Cell.descriptors chunk), later) ∧
      inbound.Passes chunk later ∧ chunk ≠ [] ∧ chunk.length ≤ want ∧
      (inbound.Reliable → (Cell.descriptors chunk).length ≤ maxDescriptors) := by
  have hsegments : inbound.segments ≠ [] := fun hnil => hcells (h.cells_eq_nil.2 hnil)
  obtain ⟨limit, cuts, hpos, hle, htake⟩ := exists_limit want hsegments
  obtain ⟨chunk, rest, hfront, heq, hlength, hchunk, hfrom, hleft⟩ :=
    exists_takeFrom (hpos hwant) h.ne_nil
  rw [hfront] at htake
  refine ⟨chunk, _, htake, ⟨heq, rfl, ⟨fun segment hsegment => (hleft segment hsegment).1⟩,
    fun hreliable => ⟨⟨fun segment hsegment => (hleft segment hsegment).1⟩, ?_,
      hreliable.refusals, hreliable.identified⟩⟩, hchunk hsegments, Nat.le_trans hlength hle, ?_⟩
  · intro segment hsegment
    rcases (hleft segment hsegment).2 with hnone | hold
    · rw [hnone]
      exact Nat.zero_le _
    · exact hreliable.room segment hold
  · intro hreliable
    rcases hfrom with hnone | ⟨segment, hsegment, hdescriptors⟩
    · rw [hnone]
      exact Nat.zero_le _
    · rw [hdescriptors]
      exact hreliable.room segment hsegment

/-- What a call comes to at the end of the stream. -/
theorem take_of_cells_eq_nil {want : Nat} (h : inbound.Filled) (hwant : 0 < want)
    (hcells : inbound.cells = []) :
    (inbound.ending = .closed → inbound.take want = (.ok ([], []), inbound)) ∧
      (inbound.ending ≠ .closed → ∃ later,
        inbound.take want = (.error inbound.ending.failure, later)) := by
  have hsegments := h.cells_eq_nil.1 hcells
  constructor
  · intro hclosed
    simp only [take, hsegments, hclosed]
  · intro hopen
    cases hending : inbound.ending with
    | closed => exact absurd hending hopen
    | reset =>
      exact ⟨{ inbound with ending := .closed }, by
        simp only [take, hsegments, hending, StreamEnd.failure]⟩
    | silent =>
      exact ⟨inbound, by
        simp only [take, hsegments, hending, if_neg (Nat.ne_of_gt hwant), StreamEnd.failure]⟩

/-! ## Exact numbers of bytes -/

theorem readRounds_succ_of_take {rounds count : Nat} (hcount : 0 < count) {chunk : List Cell}
    {result : Except IoError (List UInt8)}
    (htake : inbound.take count = (.ok (Cell.bytes chunk, Cell.descriptors chunk), later))
    (hchunk : chunk ≠ [])
    (hread : readRounds rounds later (count - chunk.length) = (result, last)) :
    readRounds (rounds + 1) inbound count = (result.map (Cell.bytes chunk ++ ·), last) := by
  obtain ⟨cell, chunk, rfl⟩ := List.exists_cons_of_ne_nil hchunk
  obtain ⟨count, rfl⟩ := Nat.exists_eq_succ_of_ne_zero (Nat.ne_of_gt hcount)
  rw [← Cell.length_bytes] at hread
  rw [Cell.bytes, List.map_cons] at htake hread
  cases result <;> simp only [readRounds, htake, hread, Except.map, Cell.bytes, List.map_cons]

theorem exists_readRounds {rounds count : Nat} (h : inbound.Filled) (hrounds : count ≤ rounds)
    (hcount : count ≤ inbound.cells.length) :
    ∃ chunk later, readRounds rounds inbound count = (.ok (Cell.bytes chunk), later) ∧
      inbound.Passes chunk later ∧ chunk.length = count := by
  induction rounds generalizing inbound count with
  | zero =>
    obtain rfl := Nat.le_zero.1 hrounds
    exact ⟨[], inbound, rfl, .refl h, rfl⟩
  | succ rounds ih =>
    rcases Nat.eq_zero_or_pos count with rfl | hpos
    · exact ⟨[], inbound, rfl, .refl h, rfl⟩
    · obtain ⟨chunk, later, htake, hpasses, hchunk, hlength, -⟩ :=
        exists_take h hpos (List.length_pos_iff.1 (by omega))
      have htotal := congrArg List.length hpasses.cells_eq
      rw [List.length_append] at htotal
      have hsome := List.length_pos_iff.2 hchunk
      obtain ⟨more, last, hread, hlast, hmore⟩ :=
        ih hpasses.filled (show count - chunk.length ≤ rounds by omega) (by omega)
      refine ⟨chunk ++ more, last, ?_, hpasses.trans hlast, ?_⟩
      · rw [readRounds_succ_of_take hpos htake hchunk hread, Except.map, Cell.bytes_append]
      · rw [List.length_append]
        omega

theorem exists_readRounds_error {rounds count : Nat} (h : inbound.Filled)
    (hrounds : count ≤ rounds) (hcount : inbound.cells.length < count) :
    ∃ later, readRounds rounds inbound count = (.error inbound.ending.failure, later) := by
  induction rounds generalizing inbound count with
  | zero => omega
  | succ rounds ih =>
    have hpos : 0 < count := by omega
    by_cases hcells : inbound.cells = []
    · obtain ⟨hclosed, hopen⟩ := take_of_cells_eq_nil h hpos hcells
      obtain ⟨count, rfl⟩ := Nat.exists_eq_succ_of_ne_zero (Nat.ne_of_gt hpos)
      by_cases hending : inbound.ending = .closed
      · exact ⟨inbound, by simp only [readRounds, hclosed hending, hending, StreamEnd.failure]⟩
      · obtain ⟨later, htake⟩ := hopen hending
        exact ⟨later, by simp only [readRounds, htake]⟩
    · obtain ⟨chunk, later, htake, hpasses, hchunk, hlength, -⟩ := exists_take h hpos hcells
      have htotal := congrArg List.length hpasses.cells_eq
      rw [List.length_append] at htotal
      have hsome := List.length_pos_iff.2 hchunk
      obtain ⟨last, hread⟩ :=
        ih hpasses.filled (show count - chunk.length ≤ rounds by omega) (by omega)
      refine ⟨last, ?_⟩
      rw [readRounds_succ_of_take hpos htake hchunk hread, Except.map, hpasses.ending]

/-- **A read gets as many bytes as it asks for**, if they come. -/
theorem exists_readExact (count : Nat) (h : inbound.Filled)
    (hcount : count ≤ inbound.cells.length) :
    ∃ later, inbound.readExact count = (.ok (inbound.unread.take count), later) ∧
      inbound.Passes (inbound.cells.take count) later := by
  obtain ⟨chunk, later, hread, hpasses, hlength⟩ :=
    exists_readRounds h (Nat.le_refl count) hcount
  have hchunk := hpasses.eq_take.1
  rw [hlength] at hchunk
  refine ⟨later, ?_, hchunk ▸ hpasses⟩
  rw [readExact, hread, hchunk, Cell.bytes_take, bytes_cells]

/-- A read fails if the stream ends before. -/
theorem exists_readExact_error (count : Nat) (h : inbound.Filled)
    (hcount : inbound.cells.length < count) :
    ∃ later, inbound.readExact count = (.error inbound.ending.failure, later) :=
  exists_readRounds_error h (Nat.le_refl count) hcount

/-- A call that asks for descriptors, once the interruptions are over. -/
theorem Reliable.calm (h : inbound.Reliable) : Reliable { inbound with refusals := [] } :=
  ⟨⟨h.ne_nil⟩, h.room, rfl, h.identified⟩

theorem Reliable.receive_eq (h : inbound.Reliable) {want : Nat} {content : List UInt8}
    {attached : List Descriptor}
    (htake : take { inbound with refusals := [] } want = (.ok (content, attached), later))
    (hroom : attached.length ≤ maxDescriptors) :
    inbound.receive want = (.ok (content, attached), later) := by
  simp only [receive, h.refusals, htake]
  simp [h.identified, Nat.not_lt.2 hroom]

/-- **A call that asks for descriptors gets those of its chunk.** -/
theorem exists_receive {want : Nat} (h : inbound.Reliable) (hwant : 0 < want)
    (hcells : inbound.cells ≠ []) :
    ∃ chunk later, inbound.receive want = (.ok (Cell.bytes chunk, Cell.descriptors chunk), later) ∧
      inbound.Passes chunk later ∧ chunk ≠ [] ∧ chunk.length ≤ want := by
  obtain ⟨chunk, later, htake, hpasses, hchunk, hlength, hroom⟩ :=
    exists_take h.calm.toFilled hwant hcells
  exact ⟨chunk, later, h.receive_eq htake (hroom h.calm), ⟨hpasses.cells_eq, hpasses.ending,
    hpasses.filled, fun _ => hpasses.reliable h.calm⟩, hchunk, hlength⟩

theorem receive_of_cells_eq_nil {want : Nat} (h : inbound.Reliable) (hwant : 0 < want)
    (hcells : inbound.cells = []) :
    ∃ later, inbound.receive want = (.ok ([], []), later) ∨
      inbound.receive want = (.error inbound.ending.failure, later) := by
  obtain ⟨hclosed, hopen⟩ := take_of_cells_eq_nil h.calm.toFilled hwant hcells
  by_cases hending : inbound.ending = .closed
  · exact ⟨_, Or.inl (h.receive_eq (hclosed hending) (Nat.zero_le _))⟩
  · obtain ⟨later, htake⟩ := hopen hending
    exact ⟨later, Or.inr (by simp only [receive, h.refusals, htake])⟩

/-- After the first call, the rest is read. -/
theorem receiveExact_of_receive {count : Nat} {chunk : List Cell} {middle : Inbound}
    {result : Except IoError (List UInt8)}
    (hreceive : inbound.receive count = (.ok (Cell.bytes chunk, Cell.descriptors chunk), middle))
    (hchunk : chunk ≠ []) (hread : middle.readExact (count - chunk.length) = (result, later)) :
    inbound.receiveExact count =
      (result.map fun more => (Cell.bytes chunk ++ more, Cell.descriptors chunk), later) := by
  have hfull : ¬ ((Cell.bytes chunk).isEmpty ∧ count ≠ 0) := by
    rw [List.isEmpty_iff, ← List.length_eq_zero_iff, Cell.length_bytes, List.length_eq_zero_iff]
    exact fun hempty => hchunk hempty.1
  simp only [receiveExact, hreceive, Cell.length_bytes, hread, if_neg hfull]
  cases result <;> rfl

/-- **A read gets as many bytes as it asks for, and the descriptors of its first chunk.** -/
theorem exists_receiveExact (count : Nat) (h : inbound.Reliable) (hpos : 0 < count)
    (hcount : count ≤ inbound.cells.length) :
    ∃ chunk middle later,
      inbound.receive count = (.ok (Cell.bytes chunk, Cell.descriptors chunk), middle) ∧
      inbound.receiveExact count =
        (.ok (inbound.unread.take count, Cell.descriptors chunk), later) ∧
      inbound.Passes (inbound.cells.take count) later ∧ chunk ≠ [] ∧ chunk.length ≤ count ∧
      chunk <+: inbound.cells.take count := by
  obtain ⟨chunk, middle, hreceive, hpasses, hchunk, hlength⟩ :=
    exists_receive h hpos (List.length_pos_iff.1 (by omega))
  have htotal := congrArg List.length hpasses.cells_eq
  rw [List.length_append] at htotal
  obtain ⟨later, hread, hrest⟩ := exists_readExact (count - chunk.length) hpasses.filled
    (by omega)
  have hcells : inbound.cells.take count = chunk ++ middle.cells.take (count - chunk.length) := by
    rw [hpasses.cells_eq, List.take_append, List.take_of_length_le hlength]
  refine ⟨chunk, middle, later, hreceive, ?_, hcells ▸ hpasses.trans hrest, hchunk, hlength,
    hcells ▸ List.prefix_append _ _⟩
  have hbytes : inbound.unread.take count =
      Cell.bytes chunk ++ middle.unread.take (count - chunk.length) := by
    rw [← bytes_cells, ← Cell.bytes_take, hcells, Cell.bytes_append, Cell.bytes_take, bytes_cells]
  rw [receiveExact_of_receive hreceive hchunk hread, Except.map, hbytes]

/-- Such a read fails if the stream ends before. -/
theorem exists_receiveExact_error (count : Nat) (h : inbound.Reliable)
    (hcount : inbound.cells.length < count) :
    ∃ error later, inbound.receiveExact count = (.error error, later) ∧
      (error = ended ∨ error = inbound.ending.failure) := by
  have hpos : 0 < count := by omega
  by_cases hcells : inbound.cells = []
  · obtain ⟨later, hreceive | hreceive⟩ := receive_of_cells_eq_nil h hpos hcells
    · refine ⟨ended, later, ?_, Or.inl rfl⟩
      simp only [receiveExact, hreceive]
      rw [if_pos ⟨rfl, Nat.ne_of_gt hpos⟩]
    · exact ⟨_, later, by simp only [receiveExact, hreceive], Or.inr rfl⟩
  · obtain ⟨chunk, middle, hreceive, hpasses, hchunk, hlength⟩ := exists_receive h hpos hcells
    have htotal := congrArg List.length hpasses.cells_eq
    rw [List.length_append] at htotal
    obtain ⟨later, hread⟩ := exists_readExact_error (count - chunk.length)
      hpasses.filled (by omega)
    refine ⟨_, later, ?_, Or.inr rfl⟩
    rw [receiveExact_of_receive hreceive hchunk hread, Except.map, hpasses.ending]

end Inbound

end InstantReplay
