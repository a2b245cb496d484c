import InstantReplay.Proofs.Text.Utf8
import InstantReplay.Proofs.Wire.Receiving
import InstantReplay.Proofs.Wire.Words
import InstantReplay.Wire.Request

/-!
# Requests on a stream

A request is read exactly if the stream begins with its bytes, and these are what is taken off the
stream (`CaptureRequest.exists_receive`, `CaptureRequest.isPrefix_of_receive`). What follows them is
left, whichever way the stream is cut. A stream that begins with no request and ends is at fault
(`CaptureRequest.readExactly`).
-/

namespace InstantReplay

namespace Failure

theorem isDisconnect_failure {ending : StreamEnd} (h : ending ≠ .silent) :
    isDisconnect ending.failure = true := by
  cases ending with
  | closed => rfl
  | reset => rfl
  | silent => exact absurd rfl h

theorem ofRead_cases (error : IoError) :
    (∃ text, ofRead error = .protocol text) ∨ ∃ error', ofRead error = .io error' := by
  rw [ofRead]
  split
  · exact Or.inl ⟨_, rfl⟩
  · exact Or.inr ⟨_, rfl⟩

theorem ofRead_failure {ending : StreamEnd} (h : ending ≠ .silent) :
    ofRead ending.failure = .protocol "connection closed unexpectedly" :=
  if_pos (isDisconnect_failure h)

end Failure

namespace CaptureRequest

variable {inbound later : Inbound} {request : CaptureRequest} {device : String}
  {framerate : Int32}

theorem make_eq_ok_iff : make device framerate = .ok request ↔
    request.device = device ∧ request.framerate = framerate := by
  rw [make]
  constructor
  · intro h
    split at h
    · split at h
      · obtain rfl := Except.ok.inj h
        exact ⟨rfl, rfl⟩
      · cases h
    · cases h
  · rintro ⟨rfl, rfl⟩
    rw [dif_pos request.device_length, dif_pos request.framerate_pos]

/-- The requests are those for a name of 1 to 255 bytes and a positive rate. -/
theorem exists_make_iff : (∃ request, make device framerate = .ok request) ↔
    (1 ≤ device.utf8ByteSize ∧ device.utf8ByteSize ≤ maxDeviceName) ∧ 0 < framerate := by
  constructor
  · rintro ⟨request, hrequest⟩
    obtain ⟨rfl, rfl⟩ := make_eq_ok_iff.1 hrequest
    exact ⟨request.device_length, request.framerate_pos⟩
  · rintro ⟨hlength, hrate⟩
    exact ⟨⟨device, framerate, hlength, hrate⟩, make_eq_ok_iff.2 ⟨rfl, rfl⟩⟩

theorem make_cases (device : String) (framerate : Int32) :
    (∃ request, make device framerate = .ok request) ∨
      ∃ text, make device framerate = .error (.protocol text) := by
  rw [make]
  split
  · split
    · exact Or.inl ⟨_, rfl⟩
    · exact Or.inr ⟨_, rfl⟩
  · exact Or.inr ⟨_, rfl⟩

theorem toNat_length (request : CaptureRequest) :
    (UInt8.ofNat request.device.utf8ByteSize).toNat = request.device.utf8ByteSize :=
  UInt8.toNat_ofNat_of_lt' (Nat.lt_of_le_of_lt request.device_length.2 (by decide))

/-- What a request comes to once its first five bytes are there. -/
theorem exists_receive_header (h : inbound.Filled) {word behind : List UInt8} {byte : UInt8}
    (hword : word.length = 4) (hunread : inbound.unread = word ++ byte :: behind) :
    (behind.length < byte.toNat ∧ ∃ later,
        receive inbound = (.error (.ofRead inbound.ending.failure), later)) ∨
      (byte.toNat ≤ behind.length ∧ ∃ later,
        receive inbound = (match String.fromUTF8? ⟨(behind.take byte.toNat).toArray⟩ with
          | none => .error (.protocol "device name is not valid UTF-8")
          | some device => make device (Words.ofBytes32 word).toInt32, later) ∧
        inbound.Passes (inbound.cells.take (5 + byte.toNat)) later) := by
  have hlength : inbound.cells.length = 5 + behind.length := by
    rw [Inbound.length_cells, hunread, List.length_append, List.length_cons, hword]
    omega
  obtain ⟨middle, hheader, hpasses⟩ := Inbound.exists_readExact 5 h (by omega)
  have hsplit : inbound.unread = (word ++ [byte]) ++ behind := by simp [hunread]
  have hfive : (word ++ [byte]).length = 5 := by simp [hword]
  have hname : middle.unread = behind := by
    rw [hpasses.unread_drop, hsplit, List.drop_left' hfive]
  have htake : inbound.unread.take 5 = word ++ [byte] := by
    rw [hsplit, List.take_left' hfive]
  have hsize : Words.ofBytes ((word ++ [byte]).drop 4) = byte.toNat := by
    rw [List.drop_left' hword]
    simp [Words.ofBytes]
  have hrate : (word ++ [byte]).take 4 = word := List.take_left' hword
  rw [htake] at hheader
  have hcells : middle.cells.length = behind.length := by
    rw [Inbound.length_cells, hname]
  by_cases hshort : behind.length < byte.toNat
  · obtain ⟨later, hread⟩ :=
      Inbound.exists_readExact_error byte.toNat hpasses.filled (by omega)
    refine Or.inl ⟨hshort, later, ?_⟩
    simp only [receive, hheader, hsize, hread, hpasses.ending]
  · obtain ⟨later, hread, hlater⟩ :=
      Inbound.exists_readExact byte.toNat hpasses.filled (by omega)
    rw [hname] at hread
    refine Or.inr ⟨Nat.not_lt.1 hshort, later, ?_, ?_⟩
    · simp only [receive, hheader, hsize, hread, hrate]
      cases String.fromUTF8? ⟨(behind.take byte.toNat).toArray⟩ <;> rfl
    · rw [List.take_add]
      exact hpasses.trans (hpasses.cells_drop ▸ hlater)

/-- **A request in front of a stream is read**, and only it. -/
theorem exists_receive (h : inbound.Filled) (hfront : request.toBytes <+: inbound.unread) :
    ∃ later, receive inbound = (.ok request, later) ∧
      inbound.Passes (inbound.cells.take request.toBytes.length) later := by
  obtain ⟨behind, hbehind⟩ := hfront
  have hunread : inbound.unread = Words.bytes32 request.framerate.toUInt32 ++
      UInt8.ofNat request.device.utf8ByteSize :: (request.device.toUTF8.toList ++ behind) := by
    rw [← hbehind, toBytes, List.append_assoc, List.cons_append]
  have hname : request.device.toUTF8.toList.length = request.device.utf8ByteSize :=
    Utf8.length_toUTF8 _
  have hlength : request.toBytes.length =
      5 + (UInt8.ofNat request.device.utf8ByteSize).toNat := by
    rw [toBytes, List.length_append, List.length_cons, Words.length_bytes32, hname, toNat_length]
    omega
  rcases exists_receive_header h (Words.length_bytes32 _) hunread with
    ⟨hshort, -⟩ | ⟨-, later, hreceive, hpasses⟩
  · rw [toNat_length, List.length_append, hname] at hshort
    omega
  · have htext : String.fromUTF8?
        ⟨((request.device.toUTF8.toList ++ behind).take
          (UInt8.ofNat request.device.utf8ByteSize).toNat).toArray⟩ = some request.device := by
      rw [Utf8.fromUTF8?_eq_some_iff, toNat_length, List.take_left' hname]
    have hmake : make request.device request.framerate = .ok request :=
      make_eq_ok_iff.2 ⟨rfl, rfl⟩
    rw [htext, Words.ofBytes32_bytes32, Int32.toInt32_toUInt32] at hreceive
    dsimp only at hreceive
    rw [hmake] at hreceive
    rw [hlength]
    exact ⟨later, hreceive, hpasses⟩

/-- A stream too short for the first five bytes. -/
theorem exists_receive_short (h : inbound.Filled) (hshort : ¬ 5 ≤ inbound.unread.length) :
    ∃ later, receive inbound = (.error (.ofRead inbound.ending.failure), later) := by
  rw [← Inbound.length_cells] at hshort
  obtain ⟨later, hread⟩ := Inbound.exists_readExact_error 5 h (Nat.not_le.1 hshort)
  exact ⟨later, by simp only [receive, hread]⟩

theorem exists_header {content : List UInt8} (h : 5 ≤ content.length) :
    ∃ word byte behind, content = word ++ byte :: behind ∧ word.length = 4 := by
  have hword : (content.take 4).length = 4 := by
    rw [List.length_take]
    omega
  refine ⟨content.take 4, content[4], content.drop 5, ?_, hword⟩
  rw [← List.drop_eq_getElem_cons, List.take_append_drop]

/-- A request that was read was in front of the stream. -/
theorem isPrefix_of_receive (h : inbound.Filled) (hreceive : receive inbound = (.ok request, later)) :
    request.toBytes <+: inbound.unread := by
  by_cases hlength : 5 ≤ inbound.unread.length
  · obtain ⟨word, byte, behind, hunread, hword⟩ := exists_header hlength
    rcases exists_receive_header h hword hunread with
      ⟨-, last, herror⟩ | ⟨hbehind, last, hresult, -⟩
    · rw [herror] at hreceive
      cases hreceive
    · rw [hreceive] at hresult
      cases htext : String.fromUTF8? ⟨(behind.take byte.toNat).toArray⟩ with
      | none =>
        rw [htext] at hresult
        cases hresult
      | some device =>
        rw [htext] at hresult
        obtain ⟨hdevice, hrate⟩ := make_eq_ok_iff.1 (Prod.mk.inj hresult).1.symm
        have hname := Utf8.fromUTF8?_eq_some_iff.1 htext
        have hsize := congrArg List.length hname
        rw [List.length_take, Nat.min_eq_left hbehind, Utf8.length_toUTF8] at hsize
        have hbytes : request.toBytes = word ++ byte :: behind.take byte.toNat := by
          rw [toBytes, hrate, hdevice, UInt32.toUInt32_toInt32, Words.bytes32_ofBytes32 hword,
            ← hsize, UInt8.ofNat_toNat, hname]
        rw [hbytes, hunread]
        exact (List.prefix_append_right_inj word).2
          (List.cons_prefix_cons.2 ⟨rfl, List.take_prefix _ _⟩)
  · obtain ⟨last, herror⟩ := exists_receive_short h hlength
    rw [herror] at hreceive
    cases hreceive

/-- What can come of reading a request. -/
theorem receive_cases (h : inbound.Filled) :
    ∃ later, (∃ request, receive inbound = (.ok request, later)) ∨
      (∃ text, receive inbound = (.error (.protocol text), later)) ∨
      receive inbound = (.error (.ofRead inbound.ending.failure), later) := by
  by_cases hlength : 5 ≤ inbound.unread.length
  · obtain ⟨word, byte, behind, hunread, hword⟩ := exists_header hlength
    rcases exists_receive_header h hword hunread with
      ⟨-, later, herror⟩ | ⟨-, later, hresult, -⟩
    · exact ⟨later, Or.inr (Or.inr herror)⟩
    · refine ⟨later, ?_⟩
      cases htext : String.fromUTF8? ⟨(behind.take byte.toNat).toArray⟩ with
      | none =>
        rw [htext] at hresult
        exact Or.inr (Or.inl ⟨_, hresult⟩)
      | some device =>
        rw [htext] at hresult
        rcases make_cases device (Words.ofBytes32 word).toInt32 with
          ⟨request, hmake⟩ | ⟨text, hmake⟩
        · exact Or.inl ⟨request, by rw [hresult, ← hmake]⟩
        · exact Or.inr (Or.inl ⟨text, by rw [hresult, ← hmake]⟩)
  · obtain ⟨later, herror⟩ := exists_receive_short h hlength
    exact ⟨later, Or.inr (Or.inr herror)⟩

/-- Exactly the requests are read off a stream. -/
structure ReadsExactly (inbound : Inbound) : Prop where
  /-- A request is read if and only if the stream begins with its bytes, and it is one that `make`
  accepts. -/
  accepts : ∀ request, (receive inbound).1 = .ok request ↔
    make request.device request.framerate = .ok request ∧ request.toBytes <+: inbound.unread
  /-- No byte is taken but those of the request. -/
  takes : ∀ request later, receive inbound = (.ok request, later) →
    inbound.unread = request.toBytes ++ later.unread
  /-- A stream that begins with no request is at fault, once it has ended. -/
  rejects : inbound.ending ≠ .silent →
    (∀ device framerate request, make device framerate = .ok request →
      ¬ request.toBytes <+: inbound.unread) →
    ∃ text, (receive inbound).1 = .error (.protocol text)

/-- **Exactly the requests are read off a stream**, whatever it holds and whichever way it is cut.
A request is for a name of 1 to 255 bytes and a positive rate. -/
theorem readExactly :
    (∀ device framerate, (∃ request, make device framerate = .ok request) ↔
      (1 ≤ device.utf8ByteSize ∧ device.utf8ByteSize ≤ 255) ∧ 0 < framerate) ∧
    ∀ inbound : Inbound, inbound.Filled → ReadsExactly inbound := by
  refine ⟨fun device framerate => exists_make_iff, fun inbound h => ⟨?_, ?_, ?_⟩⟩
  · intro request
    constructor
    · intro hreceive
      exact ⟨make_eq_ok_iff.2 ⟨rfl, rfl⟩, isPrefix_of_receive h (Prod.ext hreceive rfl)⟩
    · rintro ⟨-, hfront⟩
      obtain ⟨later, hreceive, -⟩ := exists_receive h hfront
      rw [hreceive]
  · intro request later hreceive
    obtain ⟨last, hlast, hpasses⟩ := exists_receive h (isPrefix_of_receive h hreceive)
    obtain rfl : last = later := (Prod.mk.inj (hlast.symm.trans hreceive)).2
    obtain ⟨behind, hbehind⟩ := isPrefix_of_receive h hreceive
    rw [hpasses.unread_drop, ← hbehind, List.drop_left]
  · intro hending hnone
    obtain ⟨later, ⟨request, hreceive⟩ | ⟨text, herror⟩ | herror⟩ := receive_cases h
    · exact absurd (isPrefix_of_receive h hreceive)
        (hnone _ _ request (make_eq_ok_iff.2 ⟨rfl, rfl⟩))
    · exact ⟨text, by rw [herror]⟩
    · rw [Failure.ofRead_failure hending] at herror
      exact ⟨_, by rw [herror]⟩

/-- A request in pieces, with three bytes behind it, and one that is cut off after three bytes. -/
theorem readExactly_pieces :
    let request : CaptureRequest := ⟨"card0", 60, by decide, by decide⟩
    let pieces : Inbound :=
      { segments := [⟨[60, 0, 0], []⟩, ⟨[0, 5, 99, 97, 114], []⟩, ⟨[100, 48, 7, 8, 9], []⟩],
        cuts := [2, 1, 3] }
    let cut : Inbound := { segments := [⟨[60, 0, 0], []⟩] }
    ((receive pieces).1 = .ok request ∧
        pieces.unread = request.toBytes ++ (receive pieces).2.unread) ∧
      ∃ text, (receive cut).1 = .error (.protocol text) := by
  intro request pieces cut
  have hread := readExactly.2 pieces ⟨by decide⟩
  have hreceive : (receive pieces).1 = .ok request :=
    (hread.accepts request).2 ⟨make_eq_ok_iff.2 ⟨rfl, rfl⟩, [7, 8, 9], by decide +kernel⟩
  refine ⟨⟨hreceive, hread.takes request _ (Prod.ext hreceive rfl)⟩,
    (readExactly.2 cut ⟨by decide⟩).rejects (by decide) ?_⟩
  intro device framerate other _ hfront
  have hlength := hfront.length_le
  have hcut : cut.unread.length = 3 := by decide
  rw [hcut, toBytes, List.length_append, List.length_cons, Words.length_bytes32] at hlength
  omega

end CaptureRequest

end InstantReplay
