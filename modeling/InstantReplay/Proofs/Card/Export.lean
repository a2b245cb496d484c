import InstantReplay.Card.Session
import InstantReplay.Card.Tables
import InstantReplay.Proofs.Act
import InstantReplay.Proofs.Events
import InstantReplay.Proofs.Wire.Reach
import InstantReplay.Proofs.Wire.Session

/-!
# Exported framebuffers

A framebuffer is exported handle by handle, each handle once, until one is refused
(`Card.exists_exportAll`). The planes of the frame that is made of it refer to the objects by their
places among the handles (`Card.exists_layout`). So planes share an object exactly if they share a
handle (`Card.Exported`), and there are not more objects than planes. This is all that the channel
asks of a frame, so what a session captures is never turned down on its account
(`Card.exists_exports`).
-/

namespace InstantReplay

namespace Framebuffer

variable {buffer : Framebuffer}

/-! ## Handles -/

theorem distinctFrom_eq (seen handles : List UInt32) :
    distinctFrom seen handles = (handles.filter (· ∉ seen)).eraseDups := by
  induction handles generalizing seen with
  | nil => rfl
  | cons handle rest ih =>
    rw [distinctFrom]
    by_cases hseen : handle ∈ seen
    · rw [if_pos hseen, ih, List.filter_cons_of_neg (by simp [hseen])]
    · rw [if_neg hseen, ih, List.filter_cons_of_pos (by simp [hseen]), List.eraseDups_cons,
        List.filter_filter]
      congr 3
      funext other
      by_cases hother : other = handle <;> simp [hother]

/-- The distinct handles are those that are left when the duplicates are removed. -/
theorem distinct_eq (handles : List UInt32) : distinct handles = handles.eraseDups := by
  rw [distinct, distinctFrom_eq]
  simp

theorem mem_distinct {handle : UInt32} {handles : List UInt32} :
    handle ∈ distinct handles ↔ handle ∈ handles := by
  rw [distinct_eq, List.mem_eraseDups]

theorem length_distinctFrom_le (seen handles : List UInt32) :
    (distinctFrom seen handles).length ≤ handles.length := by
  induction handles generalizing seen with
  | nil => exact Nat.le_refl _
  | cons handle rest ih =>
    rw [distinctFrom]
    by_cases hseen : handle ∈ seen
    · rw [if_pos hseen]
      exact Nat.le_succ_of_le (ih _)
    · rw [if_neg hseen]
      exact Nat.succ_le_succ (ih _)

theorem planeCount_le (buffer : Framebuffer) : buffer.planeCount ≤ maxPlanes :=
  Nat.le_trans (List.takeWhile_prefix _).length_le (Nat.le_of_eq (Vector.length_toList))

theorem leading_ne_nil (h : buffer.handles[0]? ≠ some 0) : leading buffer.handles ≠ [] := by
  have hlength : buffer.handles.toList.length = 3 + 1 := Vector.length_toList
  obtain ⟨first, rest, hlist⟩ := List.exists_cons_of_length_eq_add_one hlength
  rw [← Vector.getElem?_toList, hlist, List.getElem?_cons_zero] at h
  rw [leading, hlist, List.takeWhile_cons_of_pos (by simpa using h)]
  exact List.cons_ne_nil _ _

theorem getElem?_handles {place : Nat} {handle : UInt32}
    (h : (leading buffer.handles)[place]? = some handle) :
    buffer.handles[place]? = some handle := by
  rw [← Vector.getElem?_toList]
  obtain ⟨hplace, rfl⟩ := List.getElem?_eq_some_iff.1 h
  exact List.prefix_iff_getElem?.1 (List.takeWhile_prefix _) place hplace

end Framebuffer

/-- A frame that is sent whenever the socket works. -/
structure Frame.Accepted (frame : Frame) : Prop where
  record : ∃ record, FrameRecord.ofFrame frame = .ok record
  objects_le : frame.objects.length ≤ maxDescriptors
  /-- Only a call of the system may fail. -/
  refusals : ∀ {pts outbound failure later},
    FrameMessage.send pts (some frame) outbound = (.error failure, later) → failure.OfSystem
  works : ∀ {pts outbound}, outbound.Working →
    ∃ later, FrameMessage.send pts (some frame) outbound = (.ok (), later)

theorem Frame.Sendable.accepted {frame : Frame} (h : frame.Sendable) : frame.Accepted where
  record := ⟨_, h.ofFrame_eq⟩
  objects_le := h.objects_le
  refusals hsend := by
    by_contra hcause
    obtain ⟨picture, hpicture, -, hunsendable, -⟩ := FrameMessage.cells_of_turnedDown hsend hcause
    obtain rfl := Option.some.inj hpicture
    exact hunsendable h
  works hworking := by
    obtain ⟨later, hsend, -⟩ := FrameMessage.exists_send hworking
      (Or.inr fun picture hpicture => Option.some.inj hpicture ▸ h)
    exact ⟨later, hsend⟩

/-! ## Exports -/

/-- An export of a handle and its outcome. -/
structure Export where
  handle : UInt32
  outcome : Except Failure Descriptor

namespace Card

open Framebuffer (leading distinct mem_distinct length_distinctFrom_le getElem?_handles)

variable {κ : Type} {driver : CardDriver κ} {card : Card} {buffer : Framebuffer}

/-- The export is made in this state of the kernel. -/
def Exports (card : Card) (driver : CardDriver κ) (kernel : κ) (event : Export) (later : κ) :
    Prop :=
  (card.exportHandle driver event.handle).runOn kernel = (event.outcome, later, [])

/-- The exports of handles in turn, up to the first one that fails. -/
structure Refused (handles : List UInt32) (exports : List Export) (failure : Failure) : Prop where
  handles : exports.map (·.handle) <+: handles
  first : ∃ before handle, exports = before ++ [⟨handle, .error failure⟩] ∧
    ∀ event ∈ before, ∃ descriptor, event.outcome = .ok descriptor

theorem Refused.cons {handles : List UInt32} {exports : List Export} {failure : Failure}
    (h : Refused handles exports failure) (handle : UInt32) (descriptor : Descriptor) :
    Refused (handle :: handles) (⟨handle, .ok descriptor⟩ :: exports) failure := by
  obtain ⟨before, last, rfl, hbefore⟩ := h.first
  exact ⟨List.cons_prefix_cons.2 ⟨rfl, h.handles⟩, _ :: before, last, rfl,
    List.forall_mem_cons.2 ⟨⟨descriptor, rfl⟩, hbefore⟩⟩

/-- What the answer to an export means. -/
def exported : Except IoError (Option Descriptor) → Except Failure Descriptor
  | .ok (some descriptor) => .ok descriptor
  | .ok none => .error (.capture "PRIME export returned no fd")
  | .error error => .error (.io error)

theorem run_exportHandle (card : Card) (driver : CardDriver κ) (handle : UInt32) (kernel : κ)
    (log : List LogLine) : (card.exportHandle driver handle).run.run ⟨kernel, log⟩ =
      (exported (driver.ask card.path (.exportHandle handle) kernel).1,
        ⟨(driver.ask card.path (.exportHandle handle) kernel).2, log⟩) := by
  rw [exportHandle, CardDriver.request, Act.run_bind, Act.run_bind_ok (Act.run_step _ _)]
  rcases (driver.ask card.path (.exportHandle handle) kernel).1 with error | _ | descriptor <;> rfl

theorem exists_exportHandle (card : Card) (driver : CardDriver κ) (handle : UInt32)
    (scene : Scene κ) : ∃ outcome later,
      (card.exportHandle driver handle).run.run scene = (outcome, ⟨later, scene.log⟩) ∧
      card.Exports driver scene.state ⟨handle, outcome⟩ later := by
  refine ⟨_, _, run_exportHandle card driver handle scene.state scene.log, ?_⟩
  show (card.exportHandle driver handle).runOn scene.state = _
  rw [Act.runOn, run_exportHandle]

/-- Handles are exported in turn until one is refused. -/
theorem exists_exportAll (card : Card) (driver : CardDriver κ) (handles : List UInt32)
    (scene : Scene κ) : ∃ exports result later,
      (card.exportAll driver handles).run.run scene = (result, ⟨later, scene.log⟩) ∧
      Trail (card.Exports driver) scene.state exports later ∧
      ((∃ failure, result = .error failure ∧ Refused handles exports failure) ∨
        ∃ objects, result = .ok objects ∧ exports.map (·.handle) = handles ∧
          exports.map (·.outcome) = objects.map .ok) := by
  induction handles generalizing scene with
  | nil => exact ⟨[], .ok [], scene.state, rfl, .nil _, Or.inr ⟨[], rfl, rfl, rfl⟩⟩
  | cons handle rest ih =>
    obtain ⟨outcome, middle, hexport, hmove⟩ := exists_exportHandle card driver handle scene
    rw [exportAll]
    cases outcome with
    | error failure =>
      rw [Act.run_bind_error hexport]
      exact ⟨[⟨handle, .error failure⟩], _, _, rfl, .single hmove, Or.inl ⟨failure, rfl,
        ⟨List.cons_prefix_cons.2 ⟨rfl, List.nil_prefix⟩, [], handle, rfl, nofun⟩⟩⟩
    | ok descriptor =>
      rw [Act.run_bind_ok hexport]
      obtain ⟨exports, result, later, hrest, htrail, hresult⟩ := ih ⟨middle, scene.log⟩
      rcases hresult with ⟨failure, rfl, hrefused⟩ | ⟨objects, rfl, hhandles, houtcomes⟩
      · rw [Act.run_bind_error hrest]
        exact ⟨_, _, _, rfl, .cons hmove htrail,
          Or.inl ⟨failure, rfl, hrefused.cons handle descriptor⟩⟩
      · rw [Act.run_bind_ok hrest]
        exact ⟨_, _, _, rfl, .cons hmove htrail, Or.inr ⟨_, rfl, congrArg (handle :: ·) hhandles,
          congrArg (Except.ok descriptor :: ·) houtcomes⟩⟩

/-! ## Planes -/

/-- The layout of the plane at a place. -/
theorem exists_layout {objects : List UInt32} {place : Nat} {plane : PlaneLayout}
    (h : (layouts buffer objects)[place]? = some plane) : ∃ handle,
      (leading buffer.handles)[place]? = some handle ∧
      plane =
        ⟨UInt32.ofNat (objects.idxOf handle), plane.stride, plane.offset, buffer.pixels.code⟩ ∧
      buffer.pitches[place]? = some plane.stride ∧ buffer.offsets[place]? = some plane.offset := by
  rw [layouts, List.getElem?_map, Option.map_eq_some_iff] at h
  obtain ⟨⟨handle, pitch, offset⟩, hzip, rfl⟩ := h
  obtain ⟨hhandle, hzip⟩ := List.getElem?_zip_eq_some.1 hzip
  obtain ⟨hpitch, hoffset⟩ := List.getElem?_zip_eq_some.1 hzip
  rw [Vector.getElem?_toList] at hpitch hoffset
  exact ⟨handle, hhandle, rfl, hpitch, hoffset⟩

theorem length_layouts (buffer : Framebuffer) (objects : List UInt32) :
    (layouts buffer objects).length = buffer.planeCount := by
  have hle := buffer.planeCount_le
  rw [Framebuffer.planeCount, maxPlanes] at hle
  simp only [layouts, List.length_map, List.length_zip, Vector.length_toList, Nat.min_self]
  exact Nat.min_eq_left hle

/-! ## Frames -/

/-- The frame that is made of a framebuffer by exports that all succeed. -/
structure Exported (buffer : Framebuffer) (exports : List Export) (frame : Frame) : Prop where
  format : frame.format = ⟨buffer.width, buffer.height, buffer.pixels, buffer.modifier⟩
  shared : frame.isShared
  /-- Each handle is exported once, where it stands first, -/
  handles : exports.map (·.handle) = (leading buffer.handles).eraseDups
  /-- and gives the object at the same place. -/
  objects : exports.map (·.outcome) = frame.objects.map .ok
  planes : frame.planes.length = buffer.planeCount
  /-- A plane lies in the object of its handle. -/
  layout : ∀ (place : Nat) (plane : PlaneLayout), frame.planes[place]? = some plane →
    buffer.pitches[place]? = some plane.stride ∧ buffer.offsets[place]? = some plane.offset ∧
    plane.format = buffer.pixels.code ∧
    (exports[plane.object.toNat]?).map (·.handle) = buffer.handles[place]?
  /-- Two planes lie in one object exactly if they have one handle. -/
  share : ∀ (place other : Nat) (first second : PlaneLayout), frame.planes[place]? = some first →
    frame.planes[other]? = some second →
    (first.object = second.object ↔ buffer.handles[place]? = buffer.handles[other]?)

theorem toNat_idxOf {handle : UInt32} (h : handle ∈ leading buffer.handles) :
    (UInt32.ofNat ((distinct (leading buffer.handles)).idxOf handle)).toNat =
      (distinct (leading buffer.handles)).idxOf handle := by
  have hlt := List.idxOf_lt_length_iff.2 (mem_distinct.2 h)
  have hle := length_distinctFrom_le [] (leading buffer.handles)
  refine UInt32.toNat_ofNat_of_lt' (Nat.lt_of_lt_of_le hlt ?_)
  exact Nat.le_trans hle (Nat.le_trans buffer.planeCount_le (by decide))

theorem exported_layouts {exports : List Export} {objects : List Descriptor}
    (hhandles : exports.map (·.handle) = distinct (leading buffer.handles))
    (hobjects : exports.map (·.outcome) = objects.map .ok) :
    Exported buffer exports
      { format := ⟨buffer.width, buffer.height, buffer.pixels, buffer.modifier⟩
        pixels := .shared (layouts buffer
          (distinct (leading buffer.handles))) objects
        pts := 0 } where
  format := rfl
  shared := rfl
  handles := by rw [hhandles, Framebuffer.distinct_eq]
  objects := hobjects
  planes := length_layouts _ _
  layout place plane h := by
    obtain ⟨handle, hhandle, hplane, hpitch, hoffset⟩ := exists_layout h
    have hmem := List.mem_of_getElem? hhandle
    refine ⟨hpitch, hoffset, by rw [hplane], ?_⟩
    rw [hplane, toNat_idxOf hmem, ← List.getElem?_map, hhandles,
      List.getElem?_idxOf (mem_distinct.2 hmem), getElem?_handles hhandle]
  share place other first second hfirst hsecond := by
    obtain ⟨handle, hhandle, hplane, -⟩ := exists_layout hfirst
    obtain ⟨handle', hhandle', hplane', -⟩ := exists_layout hsecond
    have hmem := List.mem_of_getElem? hhandle
    have hmem' := List.mem_of_getElem? hhandle'
    rw [getElem?_handles hhandle, getElem?_handles hhandle', Option.some_inj,
      ← List.idxOf_inj (mem_distinct.2 hmem), ← toNat_idxOf hmem, ← toNat_idxOf hmem',
      UInt32.toNat_inj, hplane, hplane']

/-- Such a frame has one to four planes, and not more objects than planes. -/
theorem Exported.sendable {exports : List Export} {frame : Frame}
    (h : Exported buffer exports frame) (hfirst : buffer.handles[0]? ≠ some 0) :
    frame.Sendable := by
  have hlength : frame.objects.length = exports.length := by
    rw [← List.length_map (f := Except.ok), ← h.objects, List.length_map]
  have hobjects : frame.objects.length ≤ maxPlanes := by
    rw [hlength, ← List.length_map (f := Export.handle), h.handles, ← Framebuffer.distinct_eq]
    exact Nat.le_trans (length_distinctFrom_le _ _) buffer.planeCount_le
  refine ⟨h.shared, ?_, ?_, fun plane hplane => ?_, Nat.le_trans hobjects (by decide)⟩
  · rw [← List.length_pos_iff, h.planes]
    exact List.length_pos_iff.2 (Framebuffer.leading_ne_nil hfirst)
  · rw [h.planes]
    exact buffer.planeCount_le
  · obtain ⟨place, hplace, rfl⟩ := List.mem_iff_getElem.1 hplane
    obtain ⟨-, -, -, hobject⟩ := h.layout place _ (List.getElem?_eq_getElem hplace)
    have hlt : place < 4 := Nat.lt_of_lt_of_le hplace (h.planes ▸ buffer.planeCount_le)
    rw [Vector.getElem?_eq_getElem hlt, Option.map_eq_some_iff] at hobject
    obtain ⟨event, hevent, -⟩ := hobject
    rw [hlength]
    exact (List.getElem?_eq_some_iff.1 hevent).1

/-- A framebuffer is exported: a handle is refused, or a frame is made of it that can be sent. -/
theorem exists_exportFrame (card : Card) (driver : CardDriver κ)
    (hfirst : buffer.handles[0]? ≠ some 0) (scene : Scene κ) : ∃ exports result later,
      (card.exportFrame driver buffer).run.run scene = (result, ⟨later, scene.log⟩) ∧
      Trail (card.Exports driver) scene.state exports later ∧
      ((∃ failure, result = .error failure ∧
          Refused (leading buffer.handles).eraseDups exports failure) ∨
        ∃ frame, result = .ok frame ∧ Exported buffer exports frame ∧ frame.Accepted) := by
  rw [exportFrame]
  obtain ⟨exports, result, later, hrun, htrail, hresult⟩ := exists_exportAll card driver
    (distinct (leading buffer.handles)) scene
  rcases hresult with ⟨failure, rfl, hrefused⟩ | ⟨objects, rfl, hhandles, hobjects⟩
  · rw [Act.run_bind_error hrun, ← Framebuffer.distinct_eq]
    exact ⟨exports, _, later, rfl, htrail, Or.inl ⟨failure, rfl, hrefused⟩⟩
  · rw [Act.run_bind_ok hrun]
    have hexported := exported_layouts hhandles hobjects
    exact ⟨exports, _, later, rfl, htrail,
      Or.inr ⟨_, rfl, hexported, (hexported.sendable hfirst).accepted⟩⟩

/-- A framebuffer whose handles can be seen has a first one. -/
theorem handles_ne_zero {id : UInt32} {scene later : Scene κ}
    (h : (card.framebuffer driver id).run.run scene = (.ok buffer, later)) :
    buffer.handles[0]? ≠ some 0 := by
  obtain ⟨reply, middle, -, h⟩ := Act.exists_of_run_bind_ok h
  split at h
  · cases h
  · rename_i hzero
    cases h
    rw [Vector.getElem?_eq_getElem (by decide)]
    exact fun hsome => hzero (Option.some.inj hsome)

end Card

/-- The frames that a session captures can be sent. -/
theorem PlaneSession.accepted_of_capture {κ : Type} {driver : CardDriver κ}
    {session : PlaneSession} {scene later : Scene κ} {frame : Frame}
    (h : (session.capture driver).run.run scene = (.ok (some frame), later)) : frame.Accepted := by
  obtain ⟨state, seen, -, h⟩ := Act.exists_of_run_bind_ok h
  by_cases hnone : state.framebuffer = 0
  · rw [if_pos hnone] at h
    cases h
  rw [if_neg hnone] at h
  obtain ⟨buffer, described, hbuffer, h⟩ := Act.exists_of_run_bind_ok h
  obtain ⟨exports, result, kernel, hexport, -, hresult⟩ :=
    Card.exists_exportFrame session.card driver (Card.handles_ne_zero hbuffer) described
  rw [Act.run_bind_ok (Act.run_attempt _ _), hexport] at h
  obtain ⟨⟨⟩, released, -, h⟩ := Act.exists_of_run_bind_ok h
  obtain ⟨got, last, hgot, h⟩ := Act.exists_of_run_bind_ok h
  rw [Act.run_ofExcept] at hgot
  cases hgot
  cases h
  rcases hresult with ⟨failure, herror, -⟩ | ⟨frame, hframe, -, haccepted⟩
  · cases herror
  · cases hframe
    exact haccepted

/-- **Whatever is exported can be sent.** A framebuffer that has a first handle is exported handle
by handle, up to the first one that is refused, or a frame is made of it that the channel accepts;
so it accepts all that sessions capture. -/
theorem Card.exists_exports {κ : Type} (driver : CardDriver κ) (card : Card) {buffer : Framebuffer}
    (hfirst : buffer.handles[0]? ≠ some 0) (kernel : κ) :
    (∃ exports result later, (card.exportFrame driver buffer).runOn kernel = (result, later, []) ∧
      Trail (card.Exports driver) kernel exports later ∧
      ((∃ failure, result = .error failure ∧
          Refused (Framebuffer.leading buffer.handles).eraseDups exports failure) ∨
        ∃ frame, result = .ok frame ∧ Exported buffer exports frame ∧ frame.Accepted)) ∧
    ∀ (session : PlaneSession) (kernel later : κ) (frame : Frame) (lines : List LogLine),
      (session.capture driver).runOn kernel = (.ok (some frame), later, lines) →
      frame.Accepted := by
  constructor
  · obtain ⟨exports, result, later, hrun, hexports⟩ := exists_exportFrame card driver hfirst
      ⟨kernel, []⟩
    exact ⟨exports, result, later, by rw [Act.runOn, hrun], hexports⟩
  · intro session kernel later frame lines h
    rcases hrun : (session.capture driver).run.run { state := kernel } with ⟨result, last⟩
    rw [Act.runOn, hrun] at h
    cases h
    exact PlaneSession.accepted_of_capture hrun

/-- A picture of three planes, the last of them in the object of the first one. -/
def BufferReply.folded : BufferReply where
  width := 64
  height := 64
  pixels := .nv12
  flags := 0
  handles := #v[7, 5, 7, 0]
  pitches := #v[64, 64, 32, 0]
  offsets := #v[0, 4096, 8192, 0]
  modifiers := #v[0, 0, 0, 0]

/-- A kernel with one card, which shows this picture. -/
def CardWorld.folded : CardWorld :=
  { files := ⟨[(["dev", "dri"], .directory), (["dev"], .directory)], []⟩ : CardWorld }.put "card0"
    (.card { planes := [⟨⟨1, 1, 3⟩, none⟩], buffers := [⟨3, .folded, none⟩] })

/-- A session on its plane. -/
def PlaneSession.folded : PlaneSession :=
  ⟨⟨"/dev/dri/card0"⟩, 1, ⟨"card0", 64, 64, .nv12, .linear, 60⟩⟩

/-- The third plane shares the first object, and what the session captures can be sent. -/
theorem Card.exists_exports_folded :
    (Framebuffer.ofReply .folded).handles[0]? ≠ some 0 ∧
    (∃ exports result later, ((Card.mk "/dev/dri/card0").exportFrame CardWorld.driver
        (.ofReply .folded)).runOn .folded = (result, later, []) ∧
      Trail ((Card.mk "/dev/dri/card0").Exports CardWorld.driver) .folded exports later ∧
      ((∃ failure, result = .error failure ∧ Refused [7, 5] exports failure) ∨
        ∃ frame, result = .ok frame ∧ Exported (.ofReply .folded) exports frame ∧
          frame.Accepted)) ∧
    (((Card.mk "/dev/dri/card0").exportFrame CardWorld.driver (.ofReply .folded)).runOn
      .folded).1.toOption.map (·.planes.map (·.object)) = some [0, 1, 0] ∧
    ∃ frame, (PlaneSession.folded.capture CardWorld.driver).runOn .folded =
        (.ok (some frame), ((PlaneSession.folded.capture CardWorld.driver).runOn .folded).2) ∧
      frame.Accepted := by
  have hfirst : (Framebuffer.ofReply .folded).handles[0]? ≠ some 0 := by decide
  obtain ⟨hexports, hcaptures⟩ :=
    exists_exports CardWorld.driver ⟨"/dev/dri/card0"⟩ hfirst .folded
  refine ⟨hfirst, hexports, by decide +kernel, ?_⟩
  have hcaptured : ((PlaneSession.folded.capture CardWorld.driver).runOn
      .folded).1.toOption.join.isSome = true := by decide +kernel
  rcases hrun : (PlaneSession.folded.capture CardWorld.driver).runOn .folded with
    ⟨failure | _ | frame, later, lines⟩
  · rw [hrun] at hcaptured
    cases hcaptured
  · rw [hrun] at hcaptured
    cases hcaptured
  · exact ⟨frame, rfl, hcaptures _ _ _ _ _ hrun⟩

end InstantReplay
