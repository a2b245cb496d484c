import InstantReplay.Proofs.History.Commit
import InstantReplay.Proofs.Range

/-!
# A history is a plain list

`History.Keeps` relates a history to its ledger. Every call keeps it and gives the same answer on
both sides, unless it breaks down (`Keeps.answer`).

In a ledger the age of an entry is a difference of integers. A history subtracts in 64 bits. When
the times of any two packets of a run are less than `2 ^ 63` ticks apart, no call breaks down and
the two agree, so that whole runs of calls show the same (`History.trace_withSlots`).
-/

namespace InstantReplay

/-- The ring of a history holds the entries of a ledger. -/
def History.Keeps (history : History) (ledger : Ledger) : Prop := history.ring.Holds ledger

namespace History

variable {history : History} {ledger : Ledger}

/-! ## One call -/

theorem keeps_withSlots (kind : StreamKind) (slots : Nat) (base : TimeBase) (window : Int64) :
    (withSlots kind slots base window).Keeps {} :=
  Ring.holds_empty (Nat.le_max_right slots 2)

theorem Keeps.snapshot_eq (h : history.Keeps ledger) :
    history.snapshot = ledger.snapshot history.kind := by
  simp only [snapshot, Ring.Holds.entries_eq h, Ledger.snapshot]

theorem Keeps.view_eq (h : history.Keeps ledger) : history.view = ledger.view history.kind := by
  have hsize : history.size = ledger.held.length := Ring.Holds.size_eq h
  have hempty : history.isEmpty = ledger.held.isEmpty := by
    rw [isEmpty, hsize]
    cases ledger.held <;> rfl
  simp only [view, Ledger.view, h.snapshot_eq, hsize, hempty, bytes, evicted, h.bytes_eq,
    h.evicted_eq]

@[simp] theorem kind_answer (history : History) (call : HistoryCall) :
    (history.answer call).2.kind = history.kind := by
  cases call <;> rfl

@[simp] theorem window_answer (history : History) (call : HistoryCall) :
    (history.answer call).2.window = history.window := by
  cases call <;> rfl

@[simp] theorem capacity_answer (history : History) (call : HistoryCall) :
    (history.answer call).2.capacity = history.capacity := by
  cases call <;>
    simp [answer, capacity, append, rotate, push, clear, discardThrough]

theorem Keeps.append (h : history.Keeps ledger) (packet : Packet) :
    (history.append packet).Keeps (ledger.stage packet) :=
  Ring.Holds.stage h packet

theorem Keeps.rotate (h : history.Keeps ledger) :
    history.rotate.1 = (ledger.outcome (late history.window) history.capacity).map
        (fun _ => ledger.staged.isSome) ∧
      history.rotate.2.Keeps (ledger.commit (late history.window) history.capacity).2 :=
  Ring.Holds.commit h history.window

theorem Keeps.push (h : history.Keeps ledger) (packet : Packet) :
    (history.push packet).1 =
        (ledger.stage packet).outcome (late history.window) history.capacity ∧
      (history.push packet).2.Keeps
        ((ledger.stage packet).commit (late history.window) history.capacity).2 := by
  have hcommit := (h.append packet).rotate
  rw [show (history.append packet).capacity = history.capacity from
    Ring.capacity_stage history.ring packet] at hcommit
  obtain ⟨houtcome, hkeeps⟩ := hcommit
  refine ⟨?_, hkeeps⟩
  show (history.append packet).rotate.1.map (fun _ => ()) =
    (ledger.stage packet).outcome (late (history.append packet).window) history.capacity
  rw [houtcome]
  rcases (ledger.stage packet).outcome _ _ with _ | _ <;> rfl

theorem Keeps.clear (h : history.Keeps ledger) : history.clear.Keeps ledger.clear :=
  Ring.Holds.clear h

theorem Keeps.discardThrough (h : history.Keeps ledger) (seq : Nat) :
    (history.discardThrough seq).1 = (ledger.discardThrough seq).1 ∧
      (history.discardThrough seq).2.Keeps (ledger.discardThrough seq).2 :=
  Ring.Holds.dropThrough h seq (Nat.le_of_lt (Ring.Holds.held_lt h))

/-- **A call does on a history what it does on its ledger**, and is answered the same unless it
breaks down. -/
theorem Keeps.answer (h : history.Keeps ledger) (call : HistoryCall) :
    ((history.answer call).1 = .overflowed ∨ (history.answer call).1 =
        (ledger.answer history.kind (late history.window) history.capacity call).1) ∧
      (history.answer call).2.Keeps
        (ledger.answer history.kind (late history.window) history.capacity call).2 := by
  cases call with
  | append packet => exact ⟨.inr rfl, h.append packet⟩
  | rotate =>
    refine ⟨?_, h.rotate.2⟩
    rw [History.answer, h.rotate.1, Ledger.answer, Ledger.commit_fst]
    rcases ledger.outcome _ _ with _ | _
    · exact .inl rfl
    · exact .inr rfl
  | push packet =>
    refine ⟨?_, (h.push packet).2⟩
    rw [History.answer]
    rcases (history.push packet).1 with _ | _
    · exact .inl rfl
    · exact .inr rfl
  | clear => exact ⟨.inr rfl, h.clear⟩
  | discardThrough seq =>
    exact ⟨.inr (congrArg HistoryAnswer.number (h.discardThrough seq).1),
      (h.discardThrough seq).2⟩
  | snapshot => exact ⟨.inr (congrArg HistoryAnswer.copied h.snapshot_eq), h⟩
  | size => exact ⟨.inr (congrArg HistoryAnswer.number (Ring.Holds.size_eq h)), h⟩
  | bytes => exact ⟨.inr (congrArg HistoryAnswer.number h.bytes_eq), h⟩

/-! ## Ages as differences of integers -/

theorem late_eq {window : Int64} {newest oldest : Packet}
    (h : InInt64 (newest.pts.toInt - oldest.pts.toInt)) :
    late window newest oldest = Ledger.late window newest oldest := by
  simp only [late, Ledger.late, h.minus?_eq, Option.any_some, gt_iff_lt, Int64.lt_iff_toInt_lt,
    h.toInt_sub]

/-- Nothing breaks down when the ages of all entries fit. -/
theorem outcome_eq_ok {newest : Packet} {held : List NumberedPacket}
    (h : ∀ entry ∈ held, InInt64 (newest.pts.toInt - entry.packet.pts.toInt)) :
    outcome newest held = .ok () := by
  rcases held with _ | ⟨oldest, _ | ⟨second, rest⟩⟩
  · rfl
  · rfl
  · rw [outcome, (h oldest List.mem_cons_self).minus?_eq, Option.isSome_some, if_pos rfl]

end History

/-- The times of any two of the packets are less than `2 ^ 63` ticks apart. -/
def Packet.Close (packets : List Packet) : Prop :=
  ∀ newest ∈ packets, ∀ oldest ∈ packets, InInt64 (newest.pts.toInt - oldest.pts.toInt)

theorem Packet.Close.mono {packets others : List Packet} (h : Close packets)
    (hsubset : others ⊆ packets) : Close others :=
  fun newest hnewest oldest holdest => h newest (hsubset hnewest) oldest (hsubset holdest)

namespace Ledger

/-- The packets in a ledger, the waiting one included. -/
def packets (ledger : Ledger) : List Packet :=
  ledger.held.map (·.packet) ++ ledger.staged.toList

/-- Two rules that agree on the packets of a ledger commit alike. -/
theorem commit_congr {late late' : Packet → Packet → Bool} {ledger : Ledger}
    (h : ∀ newest ∈ ledger.packets, ∀ oldest ∈ ledger.packets,
      late newest oldest = late' newest oldest) (slots : Nat) :
    ledger.commit late slots = ledger.commit late' slots := by
  rcases hstaged : ledger.staged with _ | packet
  · simp only [commit, hstaged]
  · have hshed : shed (late packet) (makeRoom slots (ledger.grown packet)) =
        shed (late' packet) (makeRoom slots (ledger.grown packet)) := by
      refine shed_congr fun entry hentry => h packet ?_ entry.packet ?_
      · simp [packets, hstaged]
      · have hgrown := (makeRoom_suffix slots (ledger.grown packet)).subset hentry
        rcases List.mem_append.1 hgrown with hheld | hnew
        · exact List.mem_append_left _ (List.mem_map_of_mem hheld)
        · rw [List.mem_singleton.1 hnew]
          simp [packets, hstaged]
    simp only [commit, hstaged, hshed]

theorem packets_commit_subset (late : Packet → Packet → Bool) (slots : Nat) (ledger : Ledger) :
    (ledger.commit late slots).2.packets ⊆ ledger.packets := by
  intro packet hpacket
  rcases hstaged : ledger.staged with _ | waiting
  · simpa [commit, hstaged] using hpacket
  · simp only [commit, hstaged, packets, Option.toList_none, List.append_nil] at hpacket
    obtain ⟨entry, hentry, rfl⟩ := List.mem_map.1 hpacket
    have hgrown := (makeRoom_suffix slots (ledger.grown waiting)).subset
      ((shed_suffix _ _).subset hentry)
    rcases List.mem_append.1 hgrown with hheld | hnew
    · exact List.mem_append_left _ (List.mem_map_of_mem hheld)
    · rw [List.mem_singleton.1 hnew]
      simp [packets, hstaged]

/-- A call brings no packets into a ledger but its own. -/
theorem packets_answer_subset (kind : StreamKind) (late : Packet → Packet → Bool) (slots : Nat)
    (ledger : Ledger) (call : HistoryCall) :
    (ledger.answer kind late slots call).2.packets ⊆ ledger.packets ++ call.packet?.toList := by
  have hstage (packet : Packet) :
      (ledger.stage packet).packets ⊆ ledger.packets ++ [packet] := by
    intro other hother
    simp only [packets, stage, Option.toList_some, List.mem_append] at hother ⊢
    tauto
  cases call with
  | append packet => exact hstage packet
  | rotate =>
    exact List.Subset.trans (packets_commit_subset late slots ledger)
      (List.subset_append_left _ _)
  | push packet => exact List.Subset.trans (packets_commit_subset late slots _) (hstage packet)
  | clear => exact List.nil_subset _
  | discardThrough seq =>
    intro packet hpacket
    refine List.mem_append_left _ ?_
    rcases List.mem_append.1 hpacket with hheld | hstaged
    · exact List.mem_append_left _
        (List.map_subset _ (List.dropWhile_suffix _).subset hheld)
    · exact List.mem_append_right _ hstaged
  | snapshot => exact List.subset_append_left _ _
  | size => exact List.subset_append_left _ _
  | bytes => exact List.subset_append_left _ _

/-- Two rules that agree on the packets of a ledger and of a call answer the call alike. -/
theorem answer_congr {late late' : Packet → Packet → Bool} {ledger : Ledger} (call : HistoryCall)
    (h : ∀ newest ∈ ledger.packets ++ call.packet?.toList,
      ∀ oldest ∈ ledger.packets ++ call.packet?.toList, late newest oldest = late' newest oldest)
    (kind : StreamKind) (slots : Nat) :
    ledger.answer kind late slots call = ledger.answer kind late' slots call := by
  cases call with
  | rotate =>
    simp only [answer, commit_congr fun newest hnewest oldest holdest =>
      h newest (List.mem_append_left _ hnewest) oldest (List.mem_append_left _ holdest)]
  | push packet =>
    have hstaged : ∀ other ∈ (ledger.stage packet).packets,
        other ∈ ledger.packets ++ [packet] := by
      intro other hother
      exact packets_answer_subset kind late slots ledger (.append packet) hother
    simp only [answer, commit_congr fun newest hnewest oldest holdest =>
      h newest (hstaged newest hnewest) oldest (hstaged oldest holdest)]
  | _ => rfl

theorem filterMap_packet?_cons (call : HistoryCall) (calls : List HistoryCall) :
    (call :: calls).filterMap HistoryCall.packet? =
      call.packet?.toList ++ calls.filterMap HistoryCall.packet? := by
  cases hpacket : call.packet? <;> simp [hpacket]

/-- The packets of the first call of a run are packets of the run. -/
theorem packets_append_subset (ledger : Ledger) (call : HistoryCall) (calls : List HistoryCall) :
    ledger.packets ++ call.packet?.toList ⊆
      ledger.packets ++ (call :: calls).filterMap HistoryCall.packet? := by
  rw [filterMap_packet?_cons, ← List.append_assoc]
  exact List.subset_append_left _ _

/-- In a run of calls, the packets after the first call are those before it or brought by calls. -/
theorem packets_answer_append_subset (kind : StreamKind) (late : Packet → Packet → Bool)
    (slots : Nat) (ledger : Ledger) (call : HistoryCall) (calls : List HistoryCall) :
    (ledger.answer kind late slots call).2.packets ++ calls.filterMap HistoryCall.packet? ⊆
      ledger.packets ++ (call :: calls).filterMap HistoryCall.packet? := by
  rw [filterMap_packet?_cons, ← List.append_assoc]
  exact List.append_subset.2 ⟨List.Subset.trans (packets_answer_subset kind late slots ledger call)
    (List.subset_append_left _ _), List.subset_append_right _ _⟩

/-- No commit breaks down when the packets of a ledger are close. -/
theorem outcome_eq_ok {ledger : Ledger} (h : Packet.Close ledger.packets)
    (late : Packet → Packet → Bool) (slots : Nat) : ledger.outcome late slots = .ok () := by
  rcases hstaged : ledger.staged with _ | packet
  · rw [outcome, hstaged]
  · rw [outcome, hstaged]
    refine History.outcome_eq_ok fun entry hentry => h packet ?_ entry.packet ?_
    · simp [packets, hstaged]
    · exact packets_commit_subset late slots ledger
        (List.mem_append_left _ (List.mem_map_of_mem hentry))

end Ledger

namespace History

variable {history : History} {ledger : Ledger}

/-- **No call breaks down** when all packets are close. -/
theorem Keeps.answer_ne_overflowed (h : history.Keeps ledger) (call : HistoryCall)
    (hclose : Packet.Close (ledger.packets ++ call.packet?.toList)) :
    (history.answer call).1 ≠ .overflowed := by
  cases call with
  | rotate =>
    have houtcome := Ledger.outcome_eq_ok (hclose.mono (List.subset_append_left _ _))
      (late history.window) history.capacity
    rw [History.answer, h.rotate.1, houtcome]
    exact nofun
  | push packet =>
    have hstaged : (ledger.stage packet).packets ⊆ ledger.packets ++ [packet] :=
      Ledger.packets_answer_subset history.kind (late history.window) history.capacity ledger
        (.append packet)
    have houtcome := Ledger.outcome_eq_ok (hclose.mono hstaged) (late history.window)
      history.capacity
    rw [History.answer, (h.push packet).1, houtcome]
    exact nofun
  | _ => exact nofun

/-- Runs of calls show the same on a history and on its ledger, whose entries are let go by
differences of integers. -/
theorem Keeps.trace_eq (h : history.Keeps ledger) (calls : List HistoryCall)
    (hclose : Packet.Close (ledger.packets ++ calls.filterMap HistoryCall.packet?)) :
    HistoryCall.trace History.answer History.view calls history =
      HistoryCall.trace
        (Ledger.answer history.kind (Ledger.late history.window) history.capacity)
        (Ledger.view history.kind) calls ledger := by
  induction calls generalizing history ledger with
  | nil => rfl
  | cons call calls ih =>
    have hsubset := Ledger.packets_answer_append_subset history.kind (late history.window)
      history.capacity ledger call calls
    obtain ⟨hsame, hkeeps⟩ := h.answer call
    have hview := hkeeps.view_eq
    have hrest := ih hkeeps (hclose.mono hsubset)
    have hcall := hclose.mono (Ledger.packets_append_subset ledger call calls)
    have hanswer := hsame.resolve_left (h.answer_ne_overflowed call hcall)
    have hlate : ∀ newest ∈ ledger.packets ++ call.packet?.toList,
        ∀ oldest ∈ ledger.packets ++ call.packet?.toList,
          late history.window newest oldest = Ledger.late history.window newest oldest :=
      fun newest hnewest oldest holdest => late_eq (hcall newest hnewest oldest holdest)
    have hrule := Ledger.answer_congr call hlate history.kind history.capacity
    rw [kind_answer] at hview
    rw [kind_answer, window_answer, capacity_answer] at hrest
    rw [HistoryCall.trace, HistoryCall.trace, hanswer, hview, hrest, hrule]

/-- **A history is a plain list.** Whatever the number of slots, the window and the calls, every
answer and all that can be seen after it are those of the ledger, whose entries are let go by
differences of integers. The times of the packets of the run are less than `2 ^ 63` ticks apart. -/
theorem trace_withSlots (kind : StreamKind) (slots : Nat) (base : TimeBase)
    (window : Int64) (calls : List HistoryCall)
    (hspan : ∀ newest ∈ calls.filterMap HistoryCall.packet?,
      ∀ oldest ∈ calls.filterMap HistoryCall.packet?,
        InInt64 (newest.pts.toInt - oldest.pts.toInt)) :
    HistoryCall.trace History.answer History.view calls
        (History.withSlots kind slots base window) =
      HistoryCall.trace (Ledger.answer kind (Ledger.late window) (max slots 2))
        (Ledger.view kind) calls {} := by
  have hcapacity : (withSlots kind slots base window).capacity = max slots 2 := by
    simp [withSlots, capacity, Ring.capacity, Ring.empty]
  rw [(keeps_withSlots kind slots base window).trace_eq calls hspan, hcapacity]
  rfl

/-! ## Runs that do not break down -/

/-- `answer`, unless the call breaks down. -/
def answer? (history : History) (call : HistoryCall) : Option (HistoryAnswer × History) :=
  if (history.answer call).1 = .overflowed then none else some (history.answer call)

/-- The history after calls made in turn, unless one of them breaks down. -/
def after? (calls : List HistoryCall) (history : History) : Option History :=
  calls.foldlM (fun history call => (history.answer? call).map (·.2)) history

/-- **No call of a run breaks down** whose packets are close, and no other packets are in the history
afterwards. -/
theorem Keeps.after?_eq (h : history.Keeps ledger) (calls : List HistoryCall)
    (hclose : Packet.Close (ledger.packets ++ calls.filterMap HistoryCall.packet?)) :
    history.after? calls = some (HistoryCall.after History.answer calls history) ∧
      (HistoryCall.after History.answer calls history).snapshot.packets ⊆
        ledger.packets ++ calls.filterMap HistoryCall.packet? := by
  induction calls generalizing history ledger with
  | nil =>
    refine ⟨rfl, ?_⟩
    show history.snapshot.packets ⊆ _
    rw [h.snapshot_eq, Ledger.packets, List.append_assoc]
    exact List.subset_append_left _ _
  | cons call calls ih =>
    have hsubset := Ledger.packets_answer_append_subset history.kind (late history.window)
      history.capacity ledger call calls
    obtain ⟨hrest, hpackets⟩ := ih (h.answer call).2 (hclose.mono hsubset)
    have hanswer : history.answer? call = some (history.answer call) :=
      if_neg (h.answer_ne_overflowed call
        (hclose.mono (Ledger.packets_append_subset ledger call calls)))
    rw [after?] at hrest
    rw [after?, List.foldlM_cons, hanswer, Option.map_some, Option.bind_eq_bind, Option.bind_some]
    exact ⟨hrest, List.Subset.trans hpackets hsubset⟩

end History

/-- A run over the end of three slots: a packet waits while another is discarded, one is too old
when the next is committed, and a clear falls between a packet and its commit. -/
def HistoryCall.mixedRun : List HistoryCall :=
  let packet (pts : Int64) : Packet := ⟨⟨#[7, 7]⟩, pts, pts, true, 0⟩
  [.push (packet 0), .push (packet 3), .append (packet 9), .discardThrough 0, .rotate,
    .push (packet 12), .append (packet 13), .clear, .rotate, .push (packet 14)]

theorem History.trace_mixedRun :
    (∀ newest ∈ HistoryCall.mixedRun.filterMap HistoryCall.packet?,
      ∀ oldest ∈ HistoryCall.mixedRun.filterMap HistoryCall.packet?,
        InInt64 (newest.pts.toInt - oldest.pts.toInt)) ∧
    HistoryCall.trace History.answer History.view HistoryCall.mixedRun
        (History.withSlots .video 3 ⟨1, 30⟩ 5) =
      HistoryCall.trace (Ledger.answer .video (Ledger.late 5) 3) (Ledger.view .video)
        HistoryCall.mixedRun {} ∧
    (HistoryCall.trace History.answer History.view HistoryCall.mixedRun
        (History.withSlots .video 3 ⟨1, 30⟩ 5)).map
          (fun seen => (seen.2.snapshot.packets.map (·.pts.toInt), seen.2.evicted)) =
      [([0], 0), ([0, 3], 0), ([0, 3], 0), ([3], 0), ([9], 1), ([9, 12], 1), ([9, 12], 1), ([], 1),
        ([], 1), ([14], 1)] :=
  ⟨by decide +kernel, History.trace_withSlots .video 3 ⟨1, 30⟩ 5 HistoryCall.mixedRun
    (by decide +kernel), by decide +kernel⟩

end InstantReplay
