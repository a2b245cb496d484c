import InstantReplay.Proofs.Json.Value
import InstantReplay.Proofs.Wire.Request
import InstantReplay.Proofs.Wire.Sending
import InstantReplay.Proofs.Wire.Words
import InstantReplay.Wire.DeviceParams

/-!
# Device parameters on a stream

Parameters are read back from their document, whatever the name of the device
(`DeviceParams.ofJson_toJson`). A reply in front of a stream is received with the descriptor that
came with its length (`DeviceParams.exists_receive_reply`); so parameters that were sent are
received again, whichever way either end cuts the message (`DeviceParams.exists_receive_cells`).
-/

namespace InstantReplay.DeviceParams

open JsonText JsonValue

/-! ## The document -/

/-- The fields of the document. -/
def entries (params : DeviceParams) : List (String × List UInt8 × JsonValue) := [
  ("device", write params.device, .string (charsOf params.device)),
  ("width", ascii (toString params.width.toNat), .number ⟨false, params.width.toNat, true⟩),
  ("height", ascii (toString params.height.toNat), .number ⟨false, params.height.toNat, true⟩),
  ("fourcc", ascii (toString params.pixels.code.toNat),
    .number ⟨false, params.pixels.code.toNat, true⟩),
  ("modifier", ascii (toString params.modifier.toNat),
    .number ⟨false, params.modifier.toNat, true⟩),
  ("framerate", ascii (toString params.framerate.toInt),
    .number ⟨decide (params.framerate.toInt < 0), params.framerate.toInt.natAbs, true⟩)]

theorem toJson_eq (params : DeviceParams) :
    params.toJson = 123 :: List.intercalate [44] (params.entries.map fieldBytes) ++ [125] := rfl

theorem length_toJson_pos (params : DeviceParams) : 0 < params.toJson.length := by
  rw [toJson_eq, List.length_append, List.length_singleton]
  exact Nat.succ_pos _

/-- A document is no shorter than the name in it. -/
theorem utf8ByteSize_le_length_toJson (params : DeviceParams) :
    params.device.utf8ByteSize ≤ params.toJson.length := by
  have hname := utf8ByteSize_le_length_write params.device
  simp only [toJson, field, List.intercalate, List.intersperse, List.flatten_cons,
    List.length_append, List.length_cons]
  omega

theorem reads_entries (params : DeviceParams) :
    ∀ entry ∈ params.entries, Reads entry.2.1 entry.2.2 := by
  simp only [entries, List.forall_mem_cons]
  exact ⟨reads_write _, reads_nat _, reads_nat _, reads_nat _, reads_nat _, reads_int _, by simp⟩

theorem named?_map (fields : List (String × List UInt8 × JsonValue)) :
    named? (fields.map fieldValue) = some (fields.map fun field => (field.1, field.2.2)) := by
  induction fields with
  | nil => rfl
  | cons field fields ih =>
    simp only [List.map_cons, fieldValue, named?, unescape?_charsOf, Option.bind_eq_bind,
      Option.bind_some] at ih ⊢
    rw [ih]
    rfl

theorem word32?_number (word : UInt32) :
    (JsonValue.number ⟨false, word.toNat, true⟩).word32? = some word := by
  have hword := word.toNat_lt
  have hint : (JsonValue.number ⟨false, word.toNat, true⟩).int? 0 4294967296 =
      some (word.toNat : Int) := by
    simp [int?]
    omega
  rw [word32?, hint, Option.map_some, Int.toNat_natCast, UInt32.ofNat_toNat]

theorem word64?_number (word : UInt64) :
    (JsonValue.number ⟨false, word.toNat, true⟩).word64? = some word := by
  have hword := word.toNat_lt
  have hint : (JsonValue.number ⟨false, word.toNat, true⟩).int? 0 18446744073709551616 =
      some (word.toNat : Int) := by
    simp [int?]
    omega
  rw [word64?, hint, Option.map_some, Int.toNat_natCast, UInt64.ofNat_toNat]

theorem int32?_number (word : Int32) :
    (JsonValue.number ⟨decide (word.toInt < 0), word.toInt.natAbs, true⟩).int32? = some word := by
  have hlow : -2147483648 ≤ word.toInt := word.minValue_le_toInt
  have hhigh : word.toInt < 2147483648 := word.toInt_lt
  have hzero : ¬ (decide (word.toInt < 0) = true ∧ word.toInt.natAbs = 0) := by
    rw [decide_eq_true_iff]
    omega
  have hvalue : (if decide (word.toInt < 0) = true then -(word.toInt.natAbs : Int)
      else word.toInt.natAbs) = word.toInt := by
    split <;> rename_i hsign <;> rw [decide_eq_true_iff] at hsign <;> omega
  have hint : (JsonValue.number ⟨decide (word.toInt < 0), word.toInt.natAbs, true⟩).int?
      (-2147483648) 2147483648 = some word.toInt := by
    simp only [int?, if_neg hzero, hvalue, if_pos (And.intro hlow hhigh)]
  rw [int32?, hint, Option.map_some, Int32.ofInt_toInt]

theorem ofValues?_entries (params : DeviceParams) :
    ofValues? (.string (charsOf params.device)) (.number ⟨false, params.width.toNat, true⟩)
      (.number ⟨false, params.height.toNat, true⟩)
      (.number ⟨false, params.pixels.code.toNat, true⟩)
      (.number ⟨false, params.modifier.toNat, true⟩)
      (.number ⟨decide (params.framerate.toInt < 0), params.framerate.toInt.natAbs, true⟩) =
        some params := by
  simp only [ofValues?, text?, unescape?_charsOf, word32?_number, word64?_number, int32?_number,
    Option.bind_eq_bind, Option.bind_some]
  rfl

/-- An object with just the six fields is read from their values. -/
theorem ofValue?_object {fields : List (List JsonChar × JsonValue)}
    {device width height pixels modifier framerate : JsonValue}
    (h : named? fields = some [("device", device), ("width", width), ("height", height),
      ("fourcc", pixels), ("modifier", modifier), ("framerate", framerate)]) :
    ofValue? (.object fields) = ofValues? device width height pixels modifier framerate := by
  rw [ofValue?, h]
  simp [unique?]

theorem ofJson_of_parse? {document : List UInt8} {value : JsonValue} {params : DeviceParams}
    (hparse : parse? document = some value) (hvalue : ofValue? value = some params) :
    ofJson document = .ok params := by
  rw [ofJson, hparse, Option.bind_eq_bind, Option.bind_some, hvalue]

/-- **Parameters are read back from their document.** -/
theorem ofJson_toJson (params : DeviceParams) : ofJson params.toJson = .ok params := by
  have hparse : parse? params.toJson = some (.object (params.entries.map fieldValue)) := by
    rw [toJson_eq]
    exact parse?_object (List.cons_ne_nil _ _) params.reads_entries
  refine ofJson_of_parse? hparse ?_
  rw [ofValue?_object (named?_map params.entries), ofValues?_entries]

/-! ## The reply -/

/-- The length that the first four bytes announce. -/
def announced (inbound : Inbound) : Nat := Words.ofBytes (inbound.unread.take 4)

/-- As many bytes behind the length as it announces. -/
def document (inbound : Inbound) : List UInt8 := (inbound.unread.drop 4).take (announced inbound)

/-- A stream begins with parameters, and `attached` is the descriptor of the device. -/
structure IsReply (inbound : Inbound) (attached : List Descriptor) (params : DeviceParams)
    (device : Descriptor) : Prop where
  arrived : 4 ≤ inbound.unread.length
  announced_pos : 1 ≤ announced inbound
  announced_le : announced inbound ≤ maxParamsSize
  complete : 4 + announced inbound ≤ inbound.unread.length
  attached_eq : attached = [device]
  document_eq : ofJson (document inbound) = .ok params

variable {params : DeviceParams} {device : Descriptor} {inbound later : Inbound}
  {attached : List Descriptor}

/-- Nothing but `attached` comes with the length. -/
def Heads (inbound : Inbound) (attached : List Descriptor) : Prop :=
  inbound.cells.take 4 = Cell.attach (inbound.unread.take 4) attached

/-- The length arrives with what is attached to it. -/
theorem exists_receive_length (h : inbound.Reliable) (hheads : Heads inbound attached)
    (harrived : 4 ≤ inbound.unread.length) :
    ∃ middle, inbound.receiveExact 4 = (.ok (inbound.unread.take 4, attached), middle) ∧
      inbound.Passes (inbound.cells.take 4) middle := by
  have hcells : 4 ≤ inbound.cells.length := by rwa [Inbound.length_cells]
  obtain ⟨chunk, -, middle, -, hexact, hpasses, hchunk, -, hbegins⟩ :=
    Inbound.exists_receiveExact 4 h (by decide) hcells
  rw [hheads] at hbegins
  rw [Cell.descriptors_of_prefix_attach hchunk hbegins] at hexact
  exact ⟨middle, hexact, hpasses⟩

/-- What a document comes to with what was attached to its length. -/
def opened (attached : List Descriptor) (document : List UInt8) :
    Except Failure (DeviceParams × Descriptor) :=
  match attached with
  | [device] => (ofJson document).map (·, device)
  | _ => .error (.protocol s!"expected exactly one device fd, got {attached.length}")

theorem opened_eq_ok_iff {document : List UInt8} : opened attached document = .ok (params, device) ↔
    attached = [device] ∧ ofJson document = .ok params := by
  rcases attached with _ | ⟨first, _ | ⟨second, attached⟩⟩
  · simp [opened]
  · rw [opened]
    cases ofJson document with
    | error failure => simp [Except.map]
    | ok other => simp [Except.map, and_comm]
  · simp [opened]

/-- What is received behind a length that is accepted. -/
theorem receive_of_length {header : List UInt8} {middle : Inbound}
    {result : Except IoError (List UInt8)}
    (hlength : inbound.receiveExact 4 = (.ok (header, attached), middle))
    (hsize : ¬ (Words.ofBytes header = 0 ∨ maxParamsSize < Words.ofBytes header))
    (hread : middle.readExact (Words.ofBytes header) = (result, later)) :
    receive inbound = ((result.mapError Failure.ofRead).bind (opened attached), later) := by
  simp only [receive, hlength, if_neg hsize, hread]
  cases result with
  | error error => rfl
  | ok document =>
    rcases attached with _ | ⟨device, _ | ⟨other, attached⟩⟩
    · rfl
    · simp only [Except.mapError, Except.bind, opened]
      cases ofJson document <;> rfl
    · rfl

/-- **A reply in front of a stream is received**, and only it. -/
theorem exists_receive_reply (h : inbound.Reliable) (hheads : Heads inbound attached)
    (hreply : IsReply inbound attached params device) :
    ∃ later, receive inbound = (.ok (params, device), later) ∧
      inbound.Passes (inbound.cells.take (4 + announced inbound)) later := by
  obtain ⟨middle, hlength, hpasses⟩ := exists_receive_length h hheads hreply.arrived
  have hunread := hpasses.unread_drop
  have hcomplete := hreply.complete
  obtain ⟨later, hread, hlater⟩ := Inbound.exists_readExact (announced inbound) hpasses.filled (by
    rw [Inbound.length_cells, hunread, List.length_drop]
    omega)
  have hsize : ¬ (announced inbound = 0 ∨ maxParamsSize < announced inbound) :=
    not_or.2 ⟨Nat.pos_iff_ne_zero.1 hreply.announced_pos, Nat.not_lt.2 hreply.announced_le⟩
  have hresult := receive_of_length hlength hsize hread
  rw [hunread, ← document, Except.mapError, Except.bind,
    opened_eq_ok_iff.2 ⟨hreply.attached_eq, hreply.document_eq⟩] at hresult
  refine ⟨later, hresult, ?_⟩
  rw [List.take_add]
  exact hpasses.trans (hpasses.cells_drop ▸ hlater)

/-! ## The message -/

/-- The cells of a message. -/
def cells (params : DeviceParams) (device : Descriptor) : List Cell :=
  Cell.attach (Words.bytes32 (UInt32.ofNat params.toJson.length) ++ params.toJson) [device]

variable {outbound sent : Outbound} {behind : List Cell}

theorem toBytes_of_le (h : params.toJson.length ≤ maxParamsSize) : params.toBytes =
    .ok (Words.bytes32 (UInt32.ofNat params.toJson.length) ++ params.toJson) :=
  if_neg (Nat.not_lt.2 h)

/-- **Parameters that are accepted add their cells.** -/
theorem adds_send (h : outbound.Steady) (hsent : params.send device outbound = (.ok (), sent)) :
    outbound.Adds (params.cells device) sent ∧ params.toJson.length ≤ maxParamsSize := by
  by_cases hsize : params.toJson.length ≤ maxParamsSize
  · rcases hattach : outbound.send
        (Words.bytes32 (UInt32.ofNat params.toJson.length) ++ params.toJson) [device] with
      ⟨error | ⟨⟩, last⟩
    · simp [send, toBytes_of_le hsize, hattach] at hsent
    · simp only [send, toBytes_of_le hsize, hattach, Prod.mk.injEq, true_and] at hsent
      exact ⟨Outbound.adds_send h (hsent ▸ hattach), hsize⟩
  · simp [send, toBytes, Nat.not_le.1 hsize] at hsent

theorem cells_eq (params : DeviceParams) (device : Descriptor) : params.cells device =
    Cell.attach (Words.bytes32 (UInt32.ofNat params.toJson.length)) [device] ++
      Cell.plain params.toJson := by
  refine Cell.attach_append (fun hnil => ?_) _ _
  have hlength := Words.length_bytes32 (UInt32.ofNat params.toJson.length)
  rw [hnil] at hlength
  exact absurd hlength (by decide)

theorem ofBytes_header (h : params.toJson.length ≤ maxParamsSize) :
    Words.ofBytes (Words.bytes32 (UInt32.ofNat params.toJson.length)) = params.toJson.length := by
  rw [Words.bytes32, Words.ofBytes_bytes,
    UInt32.toNat_ofNat_of_lt' (Nat.lt_of_le_of_lt h (by decide)),
    Nat.mod_eq_of_lt (Nat.lt_of_le_of_lt h (by decide))]

/-- **Parameters that were sent are received** with their descriptor, whichever way the stream is
cut. -/
theorem exists_receive_cells (h : inbound.Reliable)
    (hsize : params.toJson.length ≤ maxParamsSize)
    (hcells : inbound.cells = params.cells device ++ behind) :
    ∃ later, receive inbound = (.ok (params, device), later) ∧
      inbound.Passes (params.cells device) later := by
  have hheader := Words.length_bytes32 (UInt32.ofNat params.toJson.length)
  have hunread : inbound.unread = Words.bytes32 (UInt32.ofNat params.toJson.length) ++
      (params.toJson ++ Cell.bytes behind) := by
    rw [← Inbound.bytes_cells, hcells, Cell.bytes_append, cells, Cell.bytes_attach,
      List.append_assoc]
  have hannounced : announced inbound = params.toJson.length := by
    rw [announced, hunread, List.take_left' hheader, ofBytes_header hsize]
  have hdocument : document inbound = params.toJson := by
    rw [document, hannounced, hunread, List.drop_left' hheader, List.take_left]
  have hheads : Heads inbound [device] := by
    rw [Heads, hcells, cells_eq, List.append_assoc, hunread, List.take_left' hheader,
      List.take_left' (by rw [Cell.length_attach, hheader])]
  have htotal : 4 + params.toJson.length ≤ inbound.unread.length := by
    rw [hunread, List.length_append, List.length_append, hheader]
    omega
  obtain ⟨later, hreceive, hpasses⟩ := exists_receive_reply h hheads
    { arrived := by omega
      announced_pos := hannounced ▸ params.length_toJson_pos
      announced_le := hannounced ▸ hsize
      complete := hannounced ▸ htotal
      attached_eq := rfl
      document_eq := hdocument ▸ params.ofJson_toJson }
  refine ⟨later, hreceive, ?_⟩
  have hlength : (params.cells device).length = 4 + announced inbound := by
    rw [cells, Cell.length_attach, List.length_append, hheader, hannounced]
  rwa [← hlength, hcells, List.take_left] at hpasses

end InstantReplay.DeviceParams
