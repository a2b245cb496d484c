import InstantReplay.Proofs.Card.Export
import InstantReplay.Proofs.Card.Record
import Mathlib.Data.List.Nodup
import Mathlib.Data.List.TakeWhile

/-!
# The calls made about a card

Which calls an action makes, whatever the kernel answers, is put together from the calls of its
parts (`Card.Makes`). A look at a plane asks what it shows and, if it shows something on a display,
what its framebuffer is like (`PlaneSession.LooksAt`); the framebuffer is released at once.
-/

namespace InstantReplay

variable {κ α β : Type}

/-! ## Calls -/

namespace CardCall

variable {call : CardCall} {calls : List CardCall} {request : CardRequest}

/-- The call is this request, and it was answered so. -/
def Is (call : CardCall) (request : CardRequest) (answer : Except Errno request.Reply) : Prop :=
  ∃ interruptions transient, call = ⟨request, interruptions, answer, transient⟩

theorem Is.request_eq {answer : Except Errno request.Reply} (h : call.Is request answer) :
    call.request = request := by
  obtain ⟨interruptions, transient, rfl⟩ := h
  rfl

/-- The handles of the framebuffer that a call describes. There are none if it describes none, or
one whose handles cannot be seen. -/
def reported : CardCall → List UInt32
  | ⟨.framebuffer _, _, .ok reply, _⟩ =>
    if reply.handles[0]? = some 0 then [] else reply.handles.toList.filter (· ≠ 0)
  | _ => []

theorem reported_of_ne (h : ∀ id, call.request ≠ .framebuffer id) : call.reported = [] := by
  unfold reported
  split
  · exact absurd rfl (h _)
  · rfl

theorem Is.reported_error {id : UInt32} {code : Errno}
    (h : call.Is (.framebuffer id) (.error code)) : call.reported = [] := by
  obtain ⟨interruptions, transient, rfl⟩ := h
  rfl

theorem Is.reported_hidden {id : UInt32} {reply : BufferReply}
    (h : call.Is (.framebuffer id) (.ok reply)) (hfirst : reply.handles[0]? = some 0) :
    call.reported = [] := by
  obtain ⟨interruptions, transient, rfl⟩ := h
  exact if_pos hfirst

theorem Is.reported_seen {id : UInt32} {reply : BufferReply}
    (h : call.Is (.framebuffer id) (.ok reply)) (hfirst : reply.handles[0]? ≠ some 0) :
    call.reported = reply.handles.toList.filter (· ≠ 0) := by
  obtain ⟨interruptions, transient, rfl⟩ := h
  exact if_neg hfirst

/-- The calls are the releases of these handles, each released once. -/
structure ReleaseOnce (calls : List CardCall) (handles : List UInt32) : Prop where
  nodup : (calls.map (·.request)).Nodup
  mem_iff : ∀ request, request ∈ calls.map (·.request) ↔
    ∃ handle ∈ handles, request = .releaseHandle handle

end CardCall

/-! ## What an action asks -/

namespace Card

/-- Whatever the kernel answers, the action makes calls about the card that are as they should be
when it comes to this result. -/
def Makes (card : Card) (action : Act (κ × List CardAttempt) α)
    (good : Except Failure α → List CardCall → Prop) : Prop :=
  ∀ scene, ∃ calls, (action.run.run scene).2.state.2 =
      scene.state.2 ++ calls.flatMap (CardCall.attempts card.path) ∧
    good (action.run.run scene).1 calls

variable {card : Card} {good : Except Failure α → List CardCall → Prop}

theorem makes_nothing {action : Act (κ × List CardAttempt) α} {result : Except Failure α}
    (hrun : ∀ scene, (action.run.run scene).1 = result ∧
      (action.run.run scene).2.state = scene.state) (h : good result []) :
    card.Makes action good := by
  intro scene
  obtain ⟨hresult, hstate⟩ := hrun scene
  exact ⟨[], by rw [hstate]; simp, hresult ▸ h⟩

theorem makes_pure {value : α} (h : good (.ok value) []) :
    card.Makes (pure value : Act (κ × List CardAttempt) α) good :=
  makes_nothing (fun _ => ⟨rfl, rfl⟩) h

theorem makes_throw {failure : Failure} (h : good (.error failure) []) :
    card.Makes (throw failure : Act (κ × List CardAttempt) α) good :=
  makes_nothing (fun _ => ⟨rfl, rfl⟩) h

theorem makes_note (card : Card) (line : LogLine) :
    card.Makes (Act.note line : Act (κ × List CardAttempt) Unit) fun result calls =>
      ∃ value, result = .ok value ∧ calls = [] :=
  makes_nothing (fun _ => ⟨rfl, rfl⟩) ⟨(), rfl, rfl⟩

theorem makes_ofExcept (card : Card) (result : Except Failure α) :
    card.Makes (Act.ofExcept result : Act (κ × List CardAttempt) α) fun _ calls => calls = [] :=
  makes_nothing (fun scene => by rw [Act.run_ofExcept]; exact ⟨rfl, rfl⟩) rfl

variable {action : Act (κ × List CardAttempt) α}

theorem Makes.mono {better : Except Failure α → List CardCall → Prop} (h : card.Makes action good)
    (hbetter : ∀ result calls, good result calls → better result calls) :
    card.Makes action better := by
  intro scene
  obtain ⟨calls, hrecord, hgood⟩ := h scene
  exact ⟨calls, hrecord, hbetter _ _ hgood⟩

/-- Actions in turn make the calls of the first one and then those of the second one. -/
theorem Makes.bind {next : α → Act (κ × List CardAttempt) β}
    {whole : Except Failure β → List CardCall → Prop} (h : card.Makes action good)
    (herror : ∀ failure calls, good (.error failure) calls → whole (.error failure) calls)
    (hnext : ∀ value front, good (.ok value) front →
      card.Makes (next value) fun result back => whole result (front ++ back)) :
    card.Makes (action >>= next) whole := by
  intro scene
  obtain ⟨front, hrecord, hgood⟩ := h scene
  rw [Act.run_bind]
  rcases hrun : action.run.run scene with ⟨failure | value, middle⟩
  · rw [hrun] at hrecord hgood
    exact ⟨front, hrecord, herror failure front hgood⟩
  · rw [hrun] at hrecord hgood
    obtain ⟨back, hback, hwhole⟩ := hnext value front hgood middle
    refine ⟨front ++ back, ?_, hwhole⟩
    simp only at hrecord
    rw [hback, hrecord, List.flatMap_append, List.append_assoc]

/-- Actions in turn, when the first one never fails. -/
theorem Makes.bind_ok {next : α → Act (κ × List CardAttempt) β}
    {whole : Except Failure β → List CardCall → Prop} {first : α → List CardCall → Prop}
    (h : card.Makes action fun result calls => ∃ value, result = .ok value ∧ first value calls)
    (hnext : ∀ value front, first value front →
      card.Makes (next value) fun result back => whole result (front ++ back)) :
    card.Makes (action >>= next) whole := by
  apply h.bind
  · rintro failure calls ⟨value, hvalue, -⟩
    cases hvalue
  · rintro value front ⟨other, hvalue, hfirst⟩
    cases hvalue
    exact hnext value front hfirst

theorem Makes.attempt (h : card.Makes action good) :
    card.Makes action.attempt fun result calls => ∃ value, result = .ok value ∧ good value calls := by
  intro scene
  obtain ⟨calls, hrecord, hgood⟩ := h scene
  rw [Act.run_attempt]
  exact ⟨calls, hrecord, _, rfl, hgood⟩

/-! ## The calls of each action -/

variable (card) (driver : CardDriver κ)

theorem makes_ask (request : CardRequest) :
    card.Makes (Act.step (driver.recorded.ask card.path request)) fun result calls =>
      ∃ value, result = .ok value ∧
        ∃ call answer, calls = [call] ∧ call.Is request answer ∧
          value = CardDriver.understood answer := by
  intro scene
  obtain ⟨interruptions, answer, transient, -, hrecorded⟩ :=
    driver.exists_ask_recorded card.path request scene.state
  rw [Act.run_step, hrecorded]
  exact ⟨[⟨request, interruptions, answer, transient⟩], by simp, _, rfl, _, answer, rfl,
    ⟨interruptions, transient, rfl⟩, rfl⟩

/-- What the answer to a request is taken for. -/
def asked : Except Errno α → Except Failure α
  | .ok reply => .ok reply
  | .error code => .error (.io (.os code))

theorem makes_request (request : CardRequest) :
    card.Makes (driver.recorded.request card.path request) fun result calls =>
      ∃ call answer, calls = [call] ∧ call.Is request answer ∧ result = asked answer := by
  apply (card.makes_ask driver request).bind_ok
  rintro value front ⟨call, answer, rfl, hcall, rfl⟩
  cases answer with
  | error code => exact makes_throw ⟨call, .error code, rfl, hcall, rfl⟩
  | ok reply => exact makes_pure ⟨call, .ok reply, rfl, hcall, rfl⟩

/-- What the description of a framebuffer is taken for. -/
def described : Except Errno BufferReply → Except Failure Framebuffer
  | .error code => .error (.io (.os code))
  | .ok reply => if reply.handles[0]? = some 0 then .error noHandles else .ok (.ofReply reply)

theorem makes_framebuffer (id : UInt32) :
    card.Makes (card.framebuffer driver.recorded id) fun result calls =>
      ∃ call answer, calls = [call] ∧ call.Is (.framebuffer id) answer ∧
        result = described answer := by
  apply (card.makes_request driver (.framebuffer id)).bind
  · rintro failure calls ⟨call, answer, rfl, hcall, hresult⟩
    refine ⟨call, answer, rfl, hcall, ?_⟩
    cases answer with
    | error code => cases hresult; rfl
    | ok reply => cases hresult
  · rintro reply front ⟨call, answer, rfl, hcall, hresult⟩
    cases answer with
    | error code => cases hresult
    | ok found =>
      cases hresult
      have hfirst : reply.handles[0]? = some reply.handles[0] :=
        Vector.getElem?_eq_getElem (by decide)
      split
      · rename_i hzero
        exact makes_throw ⟨call, .ok reply, rfl, hcall, (if_pos (by rw [hfirst, hzero])).symm⟩
      · rename_i hzero
        refine makes_pure ⟨call, .ok reply, rfl, hcall, (if_neg ?_).symm⟩
        rw [hfirst]
        exact fun hsome => hzero (Option.some.inj hsome)

theorem makes_releaseHandle (handle : UInt32) :
    card.Makes (card.releaseHandle driver.recorded handle) fun result calls =>
      ∃ value, result = .ok value ∧ calls.map (·.request) = [.releaseHandle handle] := by
  apply (card.makes_ask driver (.releaseHandle handle)).bind_ok
  rintro value front ⟨call, answer, rfl, hcall, rfl⟩
  cases answer with
  | error code =>
    apply (card.makes_note _).mono
    rintro result calls ⟨value, hresult, rfl⟩
    exact ⟨value, hresult, by simp [hcall.request_eq]⟩
  | ok reply => exact makes_pure ⟨(), rfl, by simp [hcall.request_eq]⟩

theorem makes_releaseAll (handles : List UInt32) :
    card.Makes (card.releaseAll driver.recorded handles) fun result calls =>
      ∃ value, result = .ok value ∧ calls.map (·.request) = handles.map .releaseHandle := by
  induction handles with
  | nil => exact makes_pure ⟨(), rfl, rfl⟩
  | cons handle rest ih =>
    apply (card.makes_releaseHandle driver handle).bind_ok
    intro value front hfront
    apply ih.mono
    rintro result calls ⟨value, hresult, hcalls⟩
    exact ⟨value, hresult, by rw [List.map_append, hfront, hcalls]; rfl⟩

theorem nodup_distinctFrom (seen handles : List UInt32) :
    (Framebuffer.distinctFrom seen handles).Nodup := by
  induction handles generalizing seen with
  | nil => exact List.nodup_nil
  | cons handle rest ih =>
    rw [Framebuffer.distinctFrom]
    split
    · exact ih seen
    · refine List.nodup_cons.2 ⟨?_, ih _⟩
      rw [Framebuffer.distinctFrom_eq]
      simp

/-- The handles of a framebuffer are released, each once. -/
theorem makes_release (buffer : Framebuffer) :
    card.Makes (card.release driver.recorded buffer) fun result calls =>
      ∃ value, result = .ok value ∧
        CardCall.ReleaseOnce calls (buffer.handles.toList.filter (· ≠ 0)) := by
  apply (card.makes_releaseAll driver buffer.owned).mono
  rintro result calls ⟨value, hresult, hcalls⟩
  refine ⟨value, hresult, ?_, ?_⟩
  · have hinjective : Function.Injective CardRequest.releaseHandle := by
      intro first second h
      exact CardRequest.releaseHandle.inj h
    rw [hcalls]
    exact List.Nodup.map hinjective (nodup_distinctFrom [] _)
  · intro request
    rw [hcalls, List.mem_map, Framebuffer.owned]
    constructor
    · rintro ⟨handle, hhandle, rfl⟩
      exact ⟨handle, Framebuffer.mem_distinct.1 hhandle, rfl⟩
    · rintro ⟨handle, hhandle, rfl⟩
      exact ⟨handle, Framebuffer.mem_distinct.2 hhandle, rfl⟩

theorem makes_exportHandle (handle : UInt32) :
    card.Makes (card.exportHandle driver.recorded handle) fun _ calls =>
      ∀ call ∈ calls, call.request = .exportHandle handle := by
  apply (card.makes_request driver (.exportHandle handle)).bind
  · rintro failure calls ⟨call, answer, rfl, hcall, -⟩
    exact List.forall_mem_singleton.2 hcall.request_eq
  · rintro descriptor front ⟨call, answer, rfl, hcall, -⟩
    cases descriptor with
    | none => exact makes_throw (List.forall_mem_singleton.2 hcall.request_eq)
    | some descriptor => exact makes_pure (List.forall_mem_singleton.2 hcall.request_eq)

theorem makes_exportAll (handles : List UInt32) :
    card.Makes (card.exportAll driver.recorded handles) fun _ calls =>
      ∀ call ∈ calls, ∃ handle ∈ handles, call.request = .exportHandle handle := by
  induction handles with
  | nil => exact makes_pure nofun
  | cons handle rest ih =>
    apply (card.makes_exportHandle driver handle).bind
    · exact fun _ calls hcalls call hcall => ⟨handle, List.mem_cons_self, hcalls call hcall⟩
    · intro descriptor front hfront
      have hwhole : ∀ back : List CardCall,
          (∀ call ∈ back, ∃ other ∈ rest, call.request = .exportHandle other) →
          ∀ call ∈ front ++ back, ∃ other ∈ handle :: rest, call.request = .exportHandle other := by
        intro back hback call hcall
        rcases List.mem_append.1 hcall with hcall | hcall
        · exact ⟨handle, List.mem_cons_self, hfront call hcall⟩
        · obtain ⟨other, hother, hrequest⟩ := hback call hcall
          exact ⟨other, List.mem_cons_of_mem _ hother, hrequest⟩
      apply ih.bind
      · exact fun _ => hwhole
      · intro descriptors back hback
        apply makes_pure
        rw [List.append_nil]
        exact hwhole back hback

theorem mem_of_leading {buffer : Framebuffer} {handle : UInt32}
    (h : handle ∈ Framebuffer.leading buffer.handles) :
    handle ∈ buffer.handles.toList.filter (· ≠ 0) := by
  have hused := List.mem_takeWhile_imp h
  exact List.mem_filter.2 ⟨(List.takeWhile_prefix _).subset h, hused⟩

/-- Only handles of the framebuffer are exported. -/
theorem makes_exportFrame (buffer : Framebuffer) :
    card.Makes (card.exportFrame driver.recorded buffer) fun _ calls =>
      ∀ call ∈ calls, ∃ handle ∈ buffer.handles.toList.filter (· ≠ 0),
        call.request = .exportHandle handle := by
  have hwhole : ∀ calls : List CardCall,
      (∀ call ∈ calls, ∃ handle ∈ Framebuffer.distinct (Framebuffer.leading buffer.handles),
        call.request = .exportHandle handle) →
      ∀ call ∈ calls, ∃ handle ∈ buffer.handles.toList.filter (· ≠ 0),
        call.request = .exportHandle handle := by
    intro calls hcalls call hcall
    obtain ⟨handle, hhandle, hrequest⟩ := hcalls call hcall
    exact ⟨handle, mem_of_leading (Framebuffer.mem_distinct.1 hhandle), hrequest⟩
  apply (card.makes_exportAll driver _).bind
  · exact fun _ => hwhole
  · intro objects front hfront
    apply makes_pure
    rw [List.append_nil]
    exact hwhole front hfront

end Card

/-! ## Runs -/

/-- Run on this kernel, the action makes these calls about the card. They are what a record shows,
and that there is a record makes no difference. -/
structure Card.Asks (card : Card) (action : (κ : Type) → CardDriver κ → Act κ α)
    (driver : CardDriver κ) (kernel : κ) (calls : List CardCall) : Prop where
  record : ((action _ driver.recorded).runOn (kernel, [])).2.1.2 =
    calls.flatMap (CardCall.attempts card.path)
  same : (action _ driver).runOn kernel =
    (((action _ driver.recorded).runOn (kernel, [])).1,
      ((action _ driver.recorded).runOn (kernel, [])).2.1.1,
      ((action _ driver.recorded).runOn (kernel, [])).2.2)

theorem Card.exists_asks {card : Card} (action : (κ : Type) → CardDriver κ → Act κ α)
    {driver : CardDriver κ} {good : Except Failure α → List CardCall → Prop}
    (hmakes : card.Makes (action _ driver.recorded) good)
    (hmirrors : Act.Mirrors Prod.fst (action _ driver.recorded) (action _ driver)) (kernel : κ) :
    ∃ calls, card.Asks action driver kernel calls ∧ good ((action _ driver).runOn kernel).1 calls := by
  obtain ⟨calls, hrecord, hgood⟩ := hmakes ⟨(kernel, []), []⟩
  have hsame := hmirrors.runOn_eq (kernel, [])
  refine ⟨calls, ⟨hrecord, hsame⟩, ?_⟩
  rw [hsame]
  exact hgood

/-! ## Looks at planes -/

namespace PlaneSession

/-- The calls of a look at a plane, and what is found: the plane, if it shows a framebuffer on a
display and the handles of this framebuffer can be seen. -/
inductive LooksAt (id : UInt32) : List CardCall → Option Candidate → Prop
  /-- The kernel does not say what the plane shows. -/
  | unanswered {call : CardCall} {code : Errno} (hplane : call.Is (.plane id) (.error code)) :
    LooksAt id [call] none
  /-- The plane shows nothing, or on no display. -/
  | dark {call : CardCall} {state : PlaneState} (hplane : call.Is (.plane id) (.ok state))
      (hdark : state.framebuffer = 0 ∨ state.display = 0) : LooksAt id [call] none
  /-- The kernel does not describe the framebuffer. -/
  | undescribed {call other : CardCall} {state : PlaneState} {code : Errno}
      (hplane : call.Is (.plane id) (.ok state)) (hframebuffer : state.framebuffer ≠ 0)
      (hdisplay : state.display ≠ 0)
      (hother : other.Is (.framebuffer state.framebuffer) (.error code)) :
    LooksAt id [call, other] none
  /-- The kernel hides the handles of the framebuffer. -/
  | hidden {call other : CardCall} {state : PlaneState} {reply : BufferReply}
      (hplane : call.Is (.plane id) (.ok state)) (hframebuffer : state.framebuffer ≠ 0)
      (hdisplay : state.display ≠ 0)
      (hother : other.Is (.framebuffer state.framebuffer) (.ok reply))
      (hfirst : reply.handles[0]? = some 0) : LooksAt id [call, other] none
  /-- The plane can be captured. -/
  | usable {call other : CardCall} {state : PlaneState} {reply : BufferReply}
      {releases : List CardCall} (hplane : call.Is (.plane id) (.ok state))
      (hframebuffer : state.framebuffer ≠ 0) (hdisplay : state.display ≠ 0)
      (hother : other.Is (.framebuffer state.framebuffer) (.ok reply))
      (hfirst : reply.handles[0]? ≠ some 0) (hreleases : CardCall.ReleaseOnce releases other.reported) :
    LooksAt id (call :: other :: releases) (some ⟨id, reply.width.toNat * reply.height.toNat⟩)

variable (card : Card) (driver : CardDriver κ)

theorem makes_inspect (id : UInt32) :
    card.Makes (inspect driver.recorded card id) fun result calls =>
      ∃ candidate, result = .ok candidate ∧ LooksAt id calls candidate := by
  apply (card.makes_request driver (.plane id)).attempt.bind_ok
  rintro shown front ⟨call, answer, rfl, hplane, rfl⟩
  cases answer with
  | error code =>
    apply (card.makes_note _).bind_ok
    rintro value front rfl
    exact Card.makes_pure ⟨none, rfl, .unanswered hplane⟩
  | ok state =>
    dsimp only [Card.asked]
    split
    · rename_i hdark
      exact Card.makes_pure ⟨none, rfl, .dark hplane hdark⟩
    · rename_i hshown
      rw [not_or] at hshown
      apply (card.makes_framebuffer driver state.framebuffer).attempt.bind_ok
      rintro description middle ⟨other, answer, rfl, hother, rfl⟩
      cases answer with
      | error code =>
        apply (card.makes_note _).bind_ok
        rintro value front rfl
        exact Card.makes_pure ⟨none, rfl, .undescribed hplane hshown.1 hshown.2 hother⟩
      | ok reply =>
        by_cases hfirst : reply.handles[0]? = some 0
        · rw [Card.described, if_pos hfirst]
          apply (card.makes_note _).bind_ok
          rintro value front rfl
          exact Card.makes_pure ⟨none, rfl, .hidden hplane hshown.1 hshown.2 hother hfirst⟩
        · rw [Card.described, if_neg hfirst]
          apply (card.makes_release driver (.ofReply reply)).bind_ok
          intro value releases hreleases
          have hreported : other.reported = (Framebuffer.ofReply reply).handles.toList.filter (· ≠ 0) :=
            hother.reported_seen hfirst
          rw [← hreported] at hreleases
          apply Card.makes_pure
          rw [List.append_nil]
          exact ⟨_, rfl, .usable hplane hshown.1 hshown.2 hother hfirst hreleases⟩

/-- A look at a plane. -/
structure Look where
  plane : UInt32
  calls : List CardCall
  /-- The plane, if it can be captured. -/
  candidate : Option Candidate
  looksAt : LooksAt plane calls candidate

theorem makes_pickFrom (best : Option Candidate) (planes : List UInt32) :
    card.Makes (pickFrom driver.recorded card best planes) fun result calls =>
      ∃ value, result = .ok value ∧ ∃ looks : List Look, looks.map (·.plane) = planes ∧
        calls = looks.flatMap (·.calls) ∧ value = (looks.map (·.candidate)).foldl better best := by
  induction planes generalizing best with
  | nil => exact Card.makes_pure ⟨best, rfl, [], rfl, rfl, rfl⟩
  | cons id rest ih =>
    apply (makes_inspect card driver id).bind_ok
    intro candidate front hlook
    apply (ih (better best candidate)).mono
    rintro result calls ⟨value, hresult, looks, hplanes, rfl, hvalue⟩
    exact ⟨value, hresult, ⟨id, front, candidate, hlook⟩ :: looks, by simp [hplanes], by simp, hvalue⟩

end PlaneSession

end InstantReplay
