import InstantReplay.Proofs.Card.Selection

/-!
# Handles are given back

Whoever has a framebuffer described owes the kernel the release of its handles. Opening a session
and capturing pay at once: behind every description stand the exports of its handles, if there are
any, and then the release of each handle (`CardCall.Settled`), however the kernel answers. So there
are as many releases of a handle as descriptions that report it
(`CardCall.Settled.countP_releases`, `PlaneSession.exists_settled`).
-/

namespace InstantReplay

variable {κ α β : Type}

namespace CardCall

variable {call : CardCall} {calls front back : List CardCall}

/-- The call has nothing to do with handles. -/
structure Plain (call : CardCall) : Prop where
  reported : call.reported = []
  not_export : ∀ handle, call.request ≠ .exportHandle handle
  not_release : ∀ handle, call.request ≠ .releaseHandle handle

/-- Calls in which the handles of every framebuffer that is described are given back. -/
inductive Settled : List CardCall → Prop
  | nil : Settled []
  /-- A call that has nothing to do with handles. -/
  | plain {call : CardCall} {rest : List CardCall} (hplain : call.Plain) (hrest : Settled rest) :
    Settled (call :: rest)
  /-- The description of a framebuffer, exports of its handles, and then each handle's release. -/
  | framebuffer {call : CardCall} {exports releases rest : List CardCall}
      (hreported : call.reported ≠ [])
      (hexports : ∀ other ∈ exports, ∃ handle ∈ call.reported,
        other.request = .exportHandle handle)
      (hreleases : ReleaseOnce releases call.reported) (hrest : Settled rest) :
    Settled (call :: (exports ++ releases ++ rest))

theorem Settled.append (hfront : Settled front) (hback : Settled back) :
    Settled (front ++ back) := by
  induction hfront with
  | nil => exact hback
  | plain hplain _ ih => exact .plain hplain ih
  | framebuffer hreported hexports hreleases _ ih =>
    rw [List.cons_append, List.append_assoc]
    exact .framebuffer hreported hexports hreleases ih

/-! ## As many releases as descriptions -/

theorem countP_of_releaseOnce {handles : List UInt32} (h : ReleaseOnce calls handles)
    (handle : UInt32) : calls.countP (·.request = .releaseHandle handle) =
      if handle ∈ handles then 1 else 0 := by
  have hcount : calls.countP (·.request = .releaseHandle handle) =
      (calls.map (·.request)).count (.releaseHandle handle) := by
    rw [List.count, List.countP_map]
    congr 1
  rw [hcount]
  split
  · rename_i hhandle
    exact List.count_eq_one_of_mem h.nodup ((h.mem_iff _).2 ⟨handle, hhandle, rfl⟩)
  · rename_i hhandle
    refine List.count_eq_zero_of_not_mem fun hmem => ?_
    obtain ⟨other, hother, hrequest⟩ := (h.mem_iff _).1 hmem
    cases hrequest
    exact hhandle hother

/-- A handle is released once for each description that reports it. -/
theorem Settled.countP_releases (h : Settled calls) (handle : UInt32) :
    calls.countP (·.request = .releaseHandle handle) = calls.countP (handle ∈ ·.reported) := by
  induction h with
  | nil => rfl
  | plain hplain _ ih =>
    rw [List.countP_cons, List.countP_cons, ih]
    simp [hplain.reported, hplain.not_release handle]
  | @framebuffer call exports releases rest hreported hexports hreleases _ ih =>
    have hcall : call.request ≠ .releaseHandle handle := by
      intro hrequest
      exact hreported (reported_of_ne (by simp [hrequest]))
    have hexport : exports.countP (·.request = .releaseHandle handle) = 0 := by
      rw [List.countP_eq_zero]
      intro other hother
      obtain ⟨exported, -, hrequest⟩ := hexports other hother
      simp [hrequest]
    have hsilent : ∀ other ∈ exports ++ releases, other.reported = [] := by
      intro other hother
      apply reported_of_ne
      intro id hframebuffer
      rcases List.mem_append.1 hother with hother | hother
      · obtain ⟨exported, -, hrequest⟩ := hexports other hother
        simp [hrequest] at hframebuffer
      · obtain ⟨released, -, hrequest⟩ :=
          (hreleases.mem_iff _).1 (List.mem_map_of_mem hother)
        simp [hrequest] at hframebuffer
    have hnone : (exports ++ releases).countP (handle ∈ ·.reported) = 0 := by
      rw [List.countP_eq_zero]
      intro other hother
      simp [hsilent other hother]
    rw [List.countP_append] at hnone
    simp only [List.countP_cons, List.countP_append, hexport, hnone, ih,
      countP_of_releaseOnce hreleases]
    simp [hcall, Nat.add_comm]

/-! ## Calls that settle -/

theorem plain_of_planes {room : Nat} (h : call.request = .planes room) : call.Plain where
  reported := reported_of_ne (by simp [h])
  not_export := by simp [h]
  not_release := by simp [h]

theorem plain_of_plane {id : UInt32} (h : call.request = .plane id) : call.Plain where
  reported := reported_of_ne (by simp [h])
  not_export := by simp [h]
  not_release := by simp [h]

theorem plain_of_framebuffer {id : UInt32} (h : call.request = .framebuffer id)
    (hreported : call.reported = []) : call.Plain where
  reported := hreported
  not_export := by simp [h]
  not_release := by simp [h]

theorem Plain.settled (h : call.Plain) : Settled [call] := .plain h .nil

/-- A description, with the exports and the releases behind it. -/
theorem settled_framebuffer (exports : List CardCall) {releases : List CardCall}
    (hreported : call.reported ≠ [])
    (hexports : ∀ other ∈ exports, ∃ handle ∈ call.reported, other.request = .exportHandle handle)
    (hreleases : ReleaseOnce releases call.reported) :
    Settled (call :: (exports ++ releases)) := by
  have h := Settled.framebuffer hreported hexports hreleases .nil
  rwa [List.append_nil] at h

theorem Is.reported_ne_nil {id : UInt32} {reply : BufferReply}
    (h : call.Is (.framebuffer id) (.ok reply)) (hfirst : reply.handles[0]? ≠ some 0) :
    call.reported ≠ [] := by
  have hleading : Framebuffer.leading (Framebuffer.ofReply reply).handles ≠ [] :=
    Framebuffer.leading_ne_nil hfirst
  obtain ⟨handle, hhandle⟩ := List.exists_mem_of_ne_nil _ hleading
  rw [h.reported_seen hfirst]
  apply List.ne_nil_of_mem
  exact Card.mem_of_leading hhandle

end CardCall

namespace PlaneSession

open CardCall

theorem LooksAt.settled {id : UInt32} {calls : List CardCall} {candidate : Option Candidate}
    (h : LooksAt id calls candidate) : Settled calls := by
  cases h with
  | unanswered hplane => exact (plain_of_plane hplane.request_eq).settled
  | dark hplane _ => exact (plain_of_plane hplane.request_eq).settled
  | undescribed hplane _ _ hother =>
    exact .plain (plain_of_plane hplane.request_eq)
      (plain_of_framebuffer hother.request_eq hother.reported_error).settled
  | hidden hplane _ _ hother hfirst =>
    exact .plain (plain_of_plane hplane.request_eq)
      (plain_of_framebuffer hother.request_eq (hother.reported_hidden hfirst)).settled
  | usable hplane _ _ hother hfirst hreleases =>
    exact .plain (plain_of_plane hplane.request_eq)
      (settled_framebuffer [] (hother.reported_ne_nil hfirst) nofun hreleases)

theorem settled_looks (looks : List Look) : Settled (looks.flatMap (·.calls)) := by
  induction looks with
  | nil => exact .nil
  | cons look looks ih => exact look.looksAt.settled.append ih

end PlaneSession

/-! ## Actions that settle -/

namespace Card

open CardCall

variable (card : Card) (driver : CardDriver κ)

/-- Actions in turn settle if each of them does. -/
theorem Makes.bind_settled {card : Card} {action : Act (κ × List CardAttempt) α}
    {next : α → Act (κ × List CardAttempt) β}
    (h : card.Makes action fun _ calls => Settled calls)
    (hnext : ∀ value, card.Makes (next value) fun _ calls => Settled calls) :
    card.Makes (action >>= next) fun _ calls => Settled calls := by
  apply h.bind
  · exact fun _ _ hfront => hfront
  · intro value front hfront
    apply (hnext value).mono
    exact fun _ _ hback => hfront.append hback

theorem makes_settled_plane (id : UInt32) :
    card.Makes (card.plane driver.recorded id) fun _ calls => Settled calls := by
  apply (card.makes_request driver (.plane id)).mono
  rintro result calls ⟨call, answer, rfl, hcall, -⟩
  exact (plain_of_plane hcall.request_eq).settled

theorem makes_settled_planeIds :
    card.Makes (card.planeIds driver.recorded) fun _ calls => Settled calls := by
  have hplanes : ∀ room, card.Makes (driver.recorded.request card.path (.planes room))
      fun _ calls => Settled calls := by
    intro room
    apply (card.makes_request driver (.planes room)).mono
    rintro result calls ⟨call, answer, rfl, hcall, -⟩
    exact (plain_of_planes hcall.request_eq).settled
  apply (hplanes 0).bind_settled
  intro first
  split
  · exact makes_pure .nil
  · exact (hplanes first.count).bind_settled fun found => makes_pure .nil

/-- The exports of a framebuffer's handles, and then the release of each of them. -/
def GivesBack (buffer : Framebuffer) (calls : List CardCall) : Prop :=
  ∃ exports releases, calls = exports ++ releases ∧
    (∀ call ∈ exports, ∃ handle ∈ buffer.handles.toList.filter (· ≠ 0),
      call.request = .exportHandle handle) ∧
    ReleaseOnce releases (buffer.handles.toList.filter (· ≠ 0))

/-- A description settles with what gives the handles back. -/
theorem makes_settled_framebuffer (id : UInt32) {next : Framebuffer → Act (κ × List CardAttempt) β}
    (hnext : ∀ buffer, card.Makes (next buffer) fun _ calls => GivesBack buffer calls) :
    card.Makes (card.framebuffer driver.recorded id >>= next) fun _ calls => Settled calls := by
  apply (card.makes_framebuffer driver id).bind
  · rintro failure calls ⟨call, answer, rfl, hcall, hresult⟩
    apply Plain.settled
    cases answer with
    | error code => exact plain_of_framebuffer hcall.request_eq hcall.reported_error
    | ok reply =>
      rw [described] at hresult
      split at hresult
      · rename_i hfirst
        exact plain_of_framebuffer hcall.request_eq (hcall.reported_hidden hfirst)
      · cases hresult
  · rintro buffer front ⟨call, answer, rfl, hcall, hresult⟩
    cases answer with
    | error code => cases hresult
    | ok reply =>
      rw [described] at hresult
      split at hresult
      · cases hresult
      · rename_i hfirst
        cases hresult
        have hreported : call.reported =
            (Framebuffer.ofReply reply).handles.toList.filter (· ≠ 0) := hcall.reported_seen hfirst
        apply (hnext _).mono
        rintro result back ⟨exports, releases, rfl, hexports, hreleases⟩
        rw [← hreported] at hexports hreleases
        exact settled_framebuffer exports (hcall.reported_ne_nil hfirst) hexports hreleases

end Card

namespace PlaneSession

open CardCall

variable (card : Card) (driver : CardDriver κ)

theorem makes_settled_planeFor (name : DeviceName) (planes : List UInt32) :
    card.Makes (planeFor driver.recorded card name planes) fun _ calls => Settled calls := by
  unfold planeFor
  cases name.plane with
  | none =>
    apply (makes_pick card driver planes).mono
    rintro result calls ⟨looks, -, rfl, -⟩
    exact settled_looks looks
  | some id =>
    dsimp only
    split
    · exact Card.makes_pure .nil
    · exact Card.makes_throw .nil

theorem makes_settled_openPlane (host : String) (framerate : Int32) (plane : UInt32) :
    card.Makes (openPlane driver.recorded card host framerate plane) fun _ calls =>
      Settled calls := by
  apply (card.makes_settled_plane driver plane).bind_settled
  intro state
  split
  · exact Card.makes_throw .nil
  · apply card.makes_settled_framebuffer driver state.framebuffer
    intro buffer
    apply (card.makes_release driver buffer).bind_ok
    intro value releases hreleases
    apply (card.makes_note _).bind_ok
    rintro value front rfl
    apply Card.makes_pure
    rw [List.append_nil, List.append_nil]
    exact ⟨[], releases, rfl, nofun, hreleases⟩

theorem makes_settled_openOn (name : DeviceName) (framerate : Int32) :
    card.Makes (openOn driver.recorded card name framerate) fun _ calls => Settled calls := by
  rw [openOn_eq]
  apply (card.makes_settled_planeIds driver).bind_settled
  intro planes
  apply (makes_settled_planeFor card driver name planes).bind_settled
  exact makes_settled_openPlane card driver name.card framerate

theorem makes_settled_capture (session : PlaneSession) :
    session.card.Makes (session.capture driver.recorded) fun _ calls => Settled calls := by
  apply (session.card.makes_settled_plane driver session.plane).bind_settled
  intro state
  split
  · exact Card.makes_pure .nil
  · apply session.card.makes_settled_framebuffer driver state.framebuffer
    intro buffer
    apply (session.card.makes_exportFrame driver buffer).attempt.bind_ok
    intro frame exports hexports
    apply (session.card.makes_release driver buffer).bind_ok
    intro value releases hreleases
    -- What the export came to is passed on only now, behind the releases.
    apply (session.card.makes_ofExcept _).bind
    · rintro failure calls rfl
      exact ⟨exports, releases, by rw [List.append_nil], hexports, hreleases⟩
    · rintro picture front rfl
      exact Card.makes_pure ⟨exports, releases, by simp, hexports, hreleases⟩

/-- **Every handle is released exactly once.** Whatever the kernel answers, and whatever comes of
it, opening a session on a card and capturing make calls that settle: behind each framebuffer that
is described stand the exports of its handles and then the release of each of its handles, and no
handle is released besides. So a handle is released as often as it was reported. -/
theorem exists_settled (driver : CardDriver κ) (kernel : κ) :
    (∀ (card : Card) (name : DeviceName) (framerate : Int32), ∃ calls,
      card.Asks (fun _ driver => openOn driver card name framerate) driver kernel calls ∧
      Settled calls ∧ ∀ handle, calls.countP (·.request = .releaseHandle handle) =
        calls.countP (handle ∈ ·.reported)) ∧
    ∀ session : PlaneSession, ∃ calls,
      session.card.Asks (fun _ driver => session.capture driver) driver kernel calls ∧
      Settled calls ∧ ∀ handle, calls.countP (·.request = .releaseHandle handle) =
        calls.countP (handle ∈ ·.reported) := by
  constructor
  · intro card name framerate
    obtain ⟨calls, hasks, hsettled⟩ :=
      Card.exists_asks (fun _ driver => openOn driver card name framerate)
        (makes_settled_openOn card driver name framerate)
        (mirrors_openOn driver card name framerate) kernel
    exact ⟨calls, hasks, hsettled, hsettled.countP_releases⟩
  · intro session
    obtain ⟨calls, hasks, hsettled⟩ :=
      Card.exists_asks (fun _ driver => session.capture driver)
        (makes_settled_capture driver session) (mirrors_capture driver session) kernel
    exact ⟨calls, hasks, hsettled, hsettled.countP_releases⟩

end PlaneSession

end InstantReplay
