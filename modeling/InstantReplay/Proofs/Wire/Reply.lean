import InstantReplay.Proofs.Wire.DeviceParams

/-!
# How a reply is taken

The other end may send anything, cut it anywhere and break off at any byte. A stream that ends
before the length of a reply counts as a refusal, a reply as it should be is received, and anything
else is a fault of the protocol (`DeviceParams.Classifies`). The failures all end the session.

`DeviceParams.receive?` makes a buffer for every read and has room for so many bytes in each. It
never needs more than the longest document, and for a length that is not accepted no more than the
four bytes that announce it.
-/

namespace InstantReplay.DeviceParams

variable {inbound later : Inbound} {attached : List Descriptor} {params : DeviceParams}
  {device : Descriptor}

/-! ## The failures -/

theorem ofJson_cases (document : List UInt8) :
    (∃ params, ofJson document = .ok params) ∨
      ∃ text, ofJson document = .error (.protocol text) := by
  rw [ofJson]
  split
  · exact Or.inl ⟨_, rfl⟩
  · exact Or.inr ⟨_, rfl⟩

theorem opened_cases (attached : List Descriptor) (document : List UInt8) :
    (∃ params device, opened attached document = .ok (params, device)) ∨
      ∃ text, opened attached document = .error (.protocol text) := by
  rcases attached with _ | ⟨device, _ | ⟨other, attached⟩⟩
  · exact Or.inr ⟨_, rfl⟩
  · rcases ofJson_cases document with ⟨params, hjson⟩ | ⟨text, hjson⟩
    · exact Or.inl ⟨params, device, by rw [opened, hjson, Except.map]⟩
    · exact Or.inr ⟨text, by rw [opened, hjson, Except.map]⟩
  · exact Or.inr ⟨_, rfl⟩

/-- Every failure ends the session, whichever stream it comes from. -/
theorem endsSession_of_receive {failure : Failure}
    (h : receive inbound = (.error failure, later)) : failure.endsSession := by
  rcases hlength : inbound.receiveExact 4 with ⟨error | ⟨header, attached⟩, middle⟩
  · simp only [receive, hlength, Prod.mk.injEq, Except.error.injEq] at h
    rw [← h.1]
    split <;> rfl
  by_cases hsize : Words.ofBytes header = 0 ∨ maxParamsSize < Words.ofBytes header
  · simp only [receive, hlength, if_pos hsize, Prod.mk.injEq, Except.error.injEq] at h
    rw [← h.1]
    rfl
  rcases hread : middle.readExact (Words.ofBytes header) with ⟨error | document, last⟩
  · rw [receive_of_length hlength hsize hread, Except.mapError, Except.bind] at h
    rcases Failure.ofRead_cases error with ⟨text, hcause⟩ | ⟨other, hcause⟩ <;>
      rw [hcause, Prod.mk.injEq, Except.error.injEq] at h <;> rw [← h.1] <;> rfl
  · rw [receive_of_length hlength hsize hread, Except.mapError, Except.bind] at h
    rcases opened_cases attached document with ⟨params, device, hopened⟩ | ⟨text, hopened⟩
    · simp [hopened] at h
    · rw [hopened, Prod.mk.injEq, Except.error.injEq] at h
      rw [← h.1]
      rfl

/-! ## The buffers -/

/-- Receives like `receive`, into buffers of at most `room` bytes each, if these are enough. -/
def receive? (room : Nat) (inbound : Inbound) :
    Option (Except Failure (DeviceParams × Descriptor) × Inbound) := do
  guard (4 ≤ room)
  match inbound.receiveExact 4 with
  | (.error error, rest) =>
    return (.error (if Failure.isDisconnect error then refused else .io error), rest)
  | (.ok (header, attached), rest) =>
    let size := Words.ofBytes header
    if size = 0 ∨ maxParamsSize < size then
      return (.error (.protocol s!"invalid codec params size {size}"), rest)
    else
      guard (size ≤ room)
      let (result, rest) := rest.readExact size
      return ((result.mapError .ofRead).bind (opened attached), rest)

theorem receive?_eq {room : Nat} (hroom : 4 ≤ room)
    (hfits : ∀ header attached rest, inbound.receiveExact 4 = (.ok (header, attached), rest) →
      Words.ofBytes header ≤ maxParamsSize → Words.ofBytes header ≤ room) :
    receive? room inbound = some (receive inbound) := by
  have hguard : guard (4 ≤ room) = some () := if_pos hroom
  rcases hlength : inbound.receiveExact 4 with ⟨error | ⟨header, attached⟩, middle⟩
  · simp only [receive?, receive, hguard, hlength, Option.bind_eq_bind, Option.bind_some]
    rfl
  by_cases hsize : Words.ofBytes header = 0 ∨ maxParamsSize < Words.ofBytes header
  · simp only [receive?, receive, hguard, hlength, if_pos hsize, Option.bind_eq_bind,
      Option.bind_some]
    rfl
  have hdocument : guard (Words.ofBytes header ≤ room) = some () :=
    if_pos (hfits header attached middle hlength (by omega))
  rcases hread : middle.readExact (Words.ofBytes header) with ⟨result, last⟩
  rw [receive_of_length hlength hsize hread]
  simp only [receive?, hguard, hlength, if_neg hsize, hdocument, hread, Option.bind_eq_bind,
    Option.bind_some]
  rfl

/-! ## What a stream comes to -/

/-- What is received from a stream that ends and begins with `attached`. -/
structure Classifies (inbound : Inbound) (attached : List Descriptor) : Prop where
  /-- The service is unavailable if and only if the stream ends before the length is there. -/
  unavailable : (∃ text, (receive inbound).1 = .error (.serviceUnavailable text)) ↔
    inbound.unread.length < 4
  /-- Parameters are received if and only if the stream begins with a reply. -/
  replied : ∀ params device,
    (receive inbound).1 = .ok (params, device) ↔ IsReply inbound attached params device
  /-- Anything else is a fault. -/
  faulty : 4 ≤ inbound.unread.length → (∀ params device, ¬ IsReply inbound attached params device) →
    ∃ text, (receive inbound).1 = .error (.protocol text)
  /-- For a length that is not accepted there is no buffer, and nothing is read behind it. -/
  spares : 4 ≤ inbound.unread.length →
    ¬ (1 ≤ announced inbound ∧ announced inbound ≤ maxParamsSize) →
      receive? 4 inbound = some (receive inbound) ∧
        (receive inbound).2.unread = inbound.unread.drop 4

/-- A stream that ends within the length. -/
theorem exists_receive_unavailable (h : inbound.Reliable) (hending : inbound.ending ≠ .silent)
    (hshort : inbound.unread.length < 4) : ∃ later, receive inbound = (.error refused, later) := by
  obtain ⟨error, later, hlength, herror⟩ :=
    Inbound.exists_receiveExact_error 4 h (by rwa [Inbound.length_cells])
  have hgone : Failure.isDisconnect error = true := by
    rcases herror with rfl | rfl
    · rfl
    · exact Failure.isDisconnect_failure hending
  exact ⟨later, by simp only [receive, hlength, if_pos hgone]⟩

/-- A stream with a length that is not accepted. -/
theorem exists_receive_unaccepted (h : inbound.Reliable) (hheads : Heads inbound attached)
    (harrived : 4 ≤ inbound.unread.length)
    (hsize : announced inbound = 0 ∨ maxParamsSize < announced inbound) :
    ∃ later, receive inbound =
        (.error (.protocol s!"invalid codec params size {announced inbound}"), later) ∧
      later.unread = inbound.unread.drop 4 := by
  obtain ⟨middle, hlength, hpasses⟩ := exists_receive_length h hheads harrived
  rw [announced] at hsize ⊢
  exact ⟨middle, by simp only [receive, hlength, if_pos hsize], hpasses.unread_drop⟩

/-- Behind a length that is accepted there is a reply or a fault. -/
theorem exists_receive_accepted (h : inbound.Reliable) (hending : inbound.ending ≠ .silent)
    (hheads : Heads inbound attached) (harrived : 4 ≤ inbound.unread.length)
    (hsize : ¬ (announced inbound = 0 ∨ maxParamsSize < announced inbound)) :
    ∃ later, (∃ params device, receive inbound = (.ok (params, device), later) ∧
        IsReply inbound attached params device) ∨
      ∃ text, receive inbound = (.error (.protocol text), later) := by
  obtain ⟨middle, hlength, hpasses⟩ := exists_receive_length h hheads harrived
  have hunread := hpasses.unread_drop
  have hbehind : middle.cells.length = inbound.unread.length - 4 := by
    rw [Inbound.length_cells, hunread, List.length_drop]
  by_cases hcomplete : 4 + announced inbound ≤ inbound.unread.length
  · obtain ⟨later, hread, -⟩ :=
      Inbound.exists_readExact (announced inbound) hpasses.filled (by omega)
    have hresult := receive_of_length hlength hsize hread
    rw [hunread, ← document, Except.mapError, Except.bind] at hresult
    refine ⟨later, ?_⟩
    rcases opened_cases attached (document inbound) with ⟨params, device, hopened⟩ | ⟨text, hopened⟩
    · obtain ⟨hattached, hjson⟩ := opened_eq_ok_iff.1 hopened
      exact Or.inl ⟨params, device, by rw [hresult, hopened],
        ⟨harrived, by omega, by omega, hcomplete, hattached, hjson⟩⟩
    · exact Or.inr ⟨text, by rw [hresult, hopened]⟩
  · obtain ⟨later, hread⟩ :=
      Inbound.exists_readExact_error (announced inbound) hpasses.filled (by omega)
    have hresult := receive_of_length hlength hsize hread
    rw [hpasses.ending, Except.mapError, Except.bind, Failure.ofRead_failure hending] at hresult
    exact ⟨later, Or.inr ⟨_, hresult⟩⟩

/-- What can come of a stream that ends. -/
theorem receive_cases (h : inbound.Reliable) (hending : inbound.ending ≠ .silent)
    (hheads : Heads inbound attached) :
    (inbound.unread.length < 4 ∧ (receive inbound).1 = .error refused) ∨
      4 ≤ inbound.unread.length ∧
        ((∃ params device, (receive inbound).1 = .ok (params, device) ∧
            IsReply inbound attached params device) ∨
          ∃ text, (receive inbound).1 = .error (.protocol text)) := by
  by_cases harrived : 4 ≤ inbound.unread.length
  · refine Or.inr ⟨harrived, ?_⟩
    by_cases hsize : announced inbound = 0 ∨ maxParamsSize < announced inbound
    · obtain ⟨later, hreceive, -⟩ := exists_receive_unaccepted h hheads harrived hsize
      exact Or.inr ⟨_, by rw [hreceive]⟩
    · obtain ⟨later, ⟨params, device, hreceive, hreply⟩ | ⟨text, hreceive⟩⟩ :=
        exists_receive_accepted h hending hheads harrived hsize
      · exact Or.inl ⟨params, device, by rw [hreceive], hreply⟩
      · exact Or.inr ⟨text, by rw [hreceive]⟩
  · have hshort := Nat.not_le.1 harrived
    obtain ⟨later, hreceive⟩ := exists_receive_unavailable h hending hshort
    exact Or.inl ⟨hshort, by rw [hreceive]⟩

theorem classifies (h : inbound.Reliable) (hending : inbound.ending ≠ .silent)
    (hheads : Heads inbound attached) : Classifies inbound attached where
  unavailable := by
    rcases receive_cases h hending hheads with
      ⟨hshort, hreceive⟩ | ⟨harrived, ⟨params, device, hreceive, -⟩ | ⟨text, hreceive⟩⟩
    · exact iff_of_true ⟨_, hreceive⟩ hshort
    · exact iff_of_false (by simp [hreceive]) (Nat.not_lt.2 harrived)
    · exact iff_of_false (by simp [hreceive]) (Nat.not_lt.2 harrived)
  replied params device := by
    constructor
    · intro hok
      rcases receive_cases h hending hheads with
        ⟨-, hreceive⟩ | ⟨-, ⟨other, otherDevice, hreceive, hreply⟩ | ⟨text, hreceive⟩⟩
      · simp [hreceive] at hok
      · rw [hreceive, Except.ok.injEq, Prod.mk.injEq] at hok
        exact hok.1 ▸ hok.2 ▸ hreply
      · simp [hreceive] at hok
    · intro hreply
      obtain ⟨later, hreceive, -⟩ := exists_receive_reply h hheads hreply
      rw [hreceive]
  faulty harrived hnone := by
    rcases receive_cases h hending hheads with
      ⟨hshort, -⟩ | ⟨-, ⟨params, device, -, hreply⟩ | hfault⟩
    · exact absurd hshort (Nat.not_lt.2 harrived)
    · exact absurd hreply (hnone params device)
    · exact hfault
  spares harrived hsize := by
    obtain ⟨later, hreceive, hunread⟩ := exists_receive_unaccepted h hheads harrived (by omega)
    obtain ⟨middle, hlength, -⟩ := exists_receive_length h hheads harrived
    refine ⟨receive?_eq (Nat.le_refl 4) ?_, by rw [hreceive, hunread]⟩
    intro header other rest hother hle
    rw [hlength, Prod.mk.injEq, Except.ok.injEq, Prod.mk.injEq] at hother
    rw [← hother.1.1, ← announced] at hle ⊢
    omega

/-- **A reply is classified correctly on every stream that ends**, whatever it holds, whatever is
attached to its first byte, and whichever way it is cut. On any stream at all, every failure ends
the session and no buffer is longer than the longest document. -/
theorem classifiesReplies :
    (∀ inbound later failure, receive inbound = (.error failure, later) → failure.endsSession) ∧
    (∀ inbound, receive? maxParamsSize inbound = some (receive inbound)) ∧
    ∀ (inbound : Inbound) (attached : List Descriptor), inbound.Reliable →
      inbound.ending ≠ .silent →
        inbound.cells.take 4 = Cell.attach (inbound.unread.take 4) attached →
          Classifies inbound attached :=
  ⟨fun _ _ _ => endsSession_of_receive,
    fun _ => receive?_eq (by decide) fun _ _ _ _ hle => hle,
    fun _ _ h hending hheads => classifies h hending hheads⟩

/-- Fifteen bytes of parameters: an array with the values `"a"`, 1, 1, 1, 0 and 1. -/
def sampleReply : List UInt8 :=
  [15, 0, 0, 0, 91, 34, 97, 34, 44, 49, 44, 49, 44, 49, 44, 48, 44, 49, 93]

/-- A reply in pieces before a reset, one with two descriptors, a length that is cut off and one
that is not accepted. -/
theorem classifiesReplies_pieces :
    let whole : Inbound :=
      { segments := [⟨sampleReply.take 6, [⟨⟨#[7]⟩⟩]⟩, ⟨sampleReply.drop 6, []⟩],
        ending := .reset, cuts := [2, 1, 1, 5] }
    let crowded : Inbound := { segments := [⟨sampleReply, [⟨⟨#[7]⟩⟩, ⟨⟨#[8]⟩⟩]⟩] }
    let cut : Inbound := { segments := [⟨[15, 0, 0], [⟨⟨#[7]⟩⟩]⟩], ending := .reset }
    let oversized : Inbound := { segments := [⟨[1, 0, 1, 0, 91], [⟨⟨#[7]⟩⟩]⟩] }
    (receive whole).1 = .ok (⟨"a", 1, 1, ⟨1⟩, 0, 1⟩, ⟨⟨#[7]⟩⟩) ∧
      (∃ text, (receive crowded).1 = .error (.protocol text)) ∧
      (∃ text, (receive cut).1 = .error (.serviceUnavailable text)) ∧
      receive? 4 oversized = some (receive oversized) ∧
      (receive oversized).2.unread = [91] := by
  intro whole crowded cut oversized
  have hwhole := classifiesReplies.2.2 whole [⟨⟨#[7]⟩⟩] ⟨⟨by decide⟩, by decide, rfl, rfl⟩
    (by decide) (by decide)
  have hcrowded := classifiesReplies.2.2 crowded [⟨⟨#[7]⟩⟩, ⟨⟨#[8]⟩⟩]
    ⟨⟨by decide⟩, by decide, rfl, rfl⟩ (by decide) (by decide)
  have hcut := classifiesReplies.2.2 cut [⟨⟨#[7]⟩⟩] ⟨⟨by decide⟩, by decide, rfl, rfl⟩
    (by decide) (by decide)
  have hoversized := classifiesReplies.2.2 oversized [⟨⟨#[7]⟩⟩] ⟨⟨by decide⟩, by decide, rfl, rfl⟩
    (by decide) (by decide)
  have hspares := hoversized.spares (by decide) (by decide)
  exact ⟨(hwhole.replied _ _).2 ⟨by decide, by decide, by decide, by decide, rfl, rfl⟩,
    hcrowded.faulty (by decide) fun _ _ hreply => absurd hreply.attached_eq (by simp),
    hcut.unavailable.2 (by decide), hspares.1, hspares.2⟩

end InstantReplay.DeviceParams
