import InstantReplay.Card.Session
import InstantReplay.Proofs.Act

/-!
# A record of what a kernel is asked

Every kernel can keep a record of the attempts that it answers (`CardDriver.recorded`). What is done
with a card comes to the same with the record as without (`PlaneSession.mirrors_openOn`,
`PlaneSession.mirrors_capture`, `PlaneSession.mirrors_pick`), so the record shows what is asked of
any kernel. A request that is attempted again after each interruption is one call in it
(`CardDriver.exists_ask_recorded`).
-/

namespace InstantReplay

/-! ## Opening a session in two parts -/

namespace PlaneSession

variable {κ : Type} (driver : CardDriver κ) (card : Card)

/-- The plane that a name asks for, among those that there are. -/
def planeFor (name : DeviceName) (planes : List UInt32) : Act κ UInt32 :=
  match name.plane with
  | some id =>
    if id ∈ planes then pure id
    else
      let number := id.toNat
      let host := name.card
      throw (.capture s!"No plane {number} on {host}")
  | none => pick driver card planes

/-- Opens a session on a plane. -/
def openPlane (host : String) (framerate : Int32) (plane : UInt32) : Act κ PlaneSession := do
  let state ← card.plane driver plane
  if state.framebuffer = 0 then
    let number := plane.toNat
    throw (.capture s!"Plane {number} on {host} is not scanning out")
  else
    let buffer ← card.framebuffer driver state.framebuffer
    card.release driver buffer
    let params : DeviceParams :=
      { device := DeviceName.text ⟨host, some plane⟩
        width := buffer.width
        height := buffer.height
        pixels := buffer.pixels
        modifier := buffer.modifier
        framerate := clampRate framerate }
    Act.note (openedNote params)
    return ⟨card, plane, params⟩

theorem openOn_eq (name : DeviceName) (framerate : Int32) :
    openOn driver card name framerate =
      card.planeIds driver >>= fun planes =>
        planeFor driver card name planes >>= openPlane driver card name.card framerate := by
  unfold openOn planeFor
  congr 1
  funext planes
  cases name.plane with
  | none => rfl
  | some id =>
    dsimp only
    split <;> rfl

end PlaneSession

/-! ## Actions on a part of the state -/

/-- A scene with only a part of its state. -/
def Scene.only {σ τ : Type} (part : σ → τ) (scene : Scene σ) : Scene τ :=
  ⟨part scene.state, scene.log⟩

namespace Act

variable {σ τ α β : Type} {part : σ → τ}

/-- The second action does to a part of the state what the first one does, comes to the same and
notes the same. -/
def Mirrors (part : σ → τ) (action : Act σ α) (other : Act τ α) : Prop :=
  ∀ scene : Scene σ, other.run.run (scene.only part) =
    ((action.run.run scene).1, (action.run.run scene).2.only part)

theorem mirrors_pure (value : α) : Mirrors part (pure value) (pure value) := fun _ => rfl

theorem mirrors_throw (failure : Failure) :
    Mirrors part (throw failure : Act σ α) (throw failure) := fun _ => rfl

theorem mirrors_note (line : LogLine) : Mirrors part (note line) (note line) := fun _ => rfl

theorem mirrors_step {f : σ → α × σ} {g : τ → α × τ}
    (h : ∀ state, g (part state) = ((f state).1, part (f state).2)) :
    Mirrors part (step f) (step g) := by
  intro scene
  rw [run_step, run_step]
  simp only [Scene.only, h]

theorem mirrors_ofExcept (result : Except Failure α) :
    Mirrors part (ofExcept result) (ofExcept result) := by
  cases result with
  | error failure => exact mirrors_throw failure
  | ok value => exact mirrors_pure value

theorem Mirrors.bind {action : Act σ α} {other : Act τ α} {next : α → Act σ β}
    {others : α → Act τ β} (h : Mirrors part action other)
    (hnext : ∀ value, Mirrors part (next value) (others value)) :
    Mirrors part (action >>= next) (other >>= others) := by
  intro scene
  rw [run_bind, run_bind, h scene]
  rcases action.run.run scene with ⟨failure | value, later⟩
  · rfl
  · exact hnext value later

theorem Mirrors.attempt {action : Act σ α} {other : Act τ α} (h : Mirrors part action other) :
    Mirrors part action.attempt other.attempt := by
  intro scene
  rw [run_attempt, run_attempt, h scene]

theorem Mirrors.runOn_eq {action : Act σ α} {other : Act τ α} (h : Mirrors part action other)
    (state : σ) : other.runOn (part state) =
      ((action.runOn state).1, part (action.runOn state).2.1, (action.runOn state).2.2) := by
  have hrun := h ⟨state, []⟩
  rw [runOn, runOn]
  exact congrArg (fun done => (done.1, done.2.state, done.2.log)) hrun

end Act

/-! ## The record -/

/-- One attempt of a request about a card, and the kernel's answer. -/
structure CardAttempt where
  card : String
  request : CardRequest
  answer : Except Errno request.Reply

/-- A request that is attempted until it is not interrupted. -/
structure CardCall where
  request : CardRequest
  /-- What the interrupted attempts failed with. -/
  interruptions : List Errno
  /-- The answer to the last attempt. -/
  answer : Except Errno request.Reply
  transient : ∀ code ∈ interruptions, CardDriver.isTransient code

/-- The attempts of a call about a card. -/
def CardCall.attempts (card : String) (call : CardCall) : List CardAttempt :=
  call.interruptions.map (⟨card, call.request, .error ·⟩) ++ [⟨card, call.request, call.answer⟩]

namespace CardDriver

variable {κ : Type}

/-- The kernel with a record of all that it is asked about cards. -/
def recorded (driver : CardDriver κ) : CardDriver (κ × List CardAttempt) where
  openNode path state :=
    let (answer, kernel) := driver.openNode path state.1
    (answer, kernel, state.2)
  answer card request state :=
    let (answer, kernel) := driver.answer card request state.1
    (answer, kernel, state.2 ++ [⟨card, request, answer⟩])
  patience state := driver.patience state.1

variable (driver : CardDriver κ) (card : String) (request : CardRequest)

/-- The attempts at a request are recorded as one call. -/
theorem exists_askRounds_recorded (rounds : Nat) (state : κ × List CardAttempt) :
    ∃ interruptions transient,
      driver.recorded.askRounds card request rounds state =
        ((driver.askRounds card request rounds state.1).1,
          (driver.askRounds card request rounds state.1).2,
          state.2 ++ CardCall.attempts card ⟨request, interruptions,
            (driver.askRounds card request rounds state.1).1, transient⟩) := by
  induction rounds generalizing state with
  | zero => exact ⟨[], nofun, rfl⟩
  | succ rounds ih =>
    rcases hanswer : driver.answer card request state.1 with ⟨code | reply, kernel⟩
    · have hrecorded : driver.recorded.answer card request state =
          (.error code, kernel, state.2 ++ [⟨card, request, .error code⟩]) := by
        simp only [recorded, hanswer]
      by_cases hcode : isTransient code
      · -- The interruption stands in the record before the attempts that follow it.
        obtain ⟨interruptions, transient, hrest⟩ :=
          ih (kernel, state.2 ++ [⟨card, request, .error code⟩])
        refine ⟨code :: interruptions, List.forall_mem_cons.2 ⟨hcode, transient⟩, ?_⟩
        simp only [askRounds, hanswer, hrecorded, hcode, if_true, hrest, CardCall.attempts,
          List.map_cons, List.append_assoc, List.cons_append, List.nil_append]
      · refine ⟨[], nofun, ?_⟩
        simp only [askRounds, hanswer, hrecorded, hcode, if_false, CardCall.attempts,
          List.map_nil, List.nil_append, Bool.false_eq_true]
    · have hrecorded : driver.recorded.answer card request state =
          (.ok reply, kernel, state.2 ++ [⟨card, request, .ok reply⟩]) := by
        simp only [recorded, hanswer]
      refine ⟨[], nofun, ?_⟩
      simp only [askRounds, hanswer, hrecorded, CardCall.attempts, List.map_nil, List.nil_append]

/-- What the program takes the answer of the kernel for. -/
def understood {α : Type} : Except Errno α → Except IoError α
  | .ok reply => .ok reply
  | .error code => .error (.os code)

theorem ask_eq (state : κ) : driver.ask card request state =
    (understood (driver.askRounds card request (driver.patience state) state).1,
      (driver.askRounds card request (driver.patience state) state).2) := by
  rw [ask]
  rcases driver.askRounds card request (driver.patience state) state with ⟨code | reply, later⟩ <;>
    rfl

/-- A request is one call in the record, and the answer to this call is what it comes to. -/
theorem exists_ask_recorded (state : κ × List CardAttempt) :
    ∃ interruptions answer transient,
      (driver.ask card request state.1).1 = understood answer ∧
      driver.recorded.ask card request state =
        (understood answer, (driver.ask card request state.1).2,
          state.2 ++ CardCall.attempts card ⟨request, interruptions, answer, transient⟩) := by
  obtain ⟨interruptions, transient, hrounds⟩ :=
    exists_askRounds_recorded driver card request (driver.patience state.1) state
  refine ⟨interruptions, _, transient, by rw [ask_eq], ?_⟩
  rw [ask_eq, ask_eq]
  exact congrArg (fun done => (understood done.1, done.2)) hrounds

end CardDriver

/-! ## The same with a record -/

section mirrors

open Act

variable {κ : Type} (driver : CardDriver κ) (card : Card)

theorem CardDriver.mirrors_ask (path : String) (request : CardRequest) :
    Mirrors Prod.fst (step (driver.recorded.ask path request)) (step (driver.ask path request)) := by
  apply mirrors_step
  intro state
  obtain ⟨interruptions, answer, transient, hanswer, hrecorded⟩ :=
    exists_ask_recorded driver path request state
  rw [hrecorded]
  exact Prod.ext hanswer rfl

theorem CardDriver.mirrors_request (path : String) (request : CardRequest) :
    Mirrors Prod.fst (driver.recorded.request path request) (driver.request path request) := by
  apply (driver.mirrors_ask path request).bind
  intro result
  cases result with
  | error error => exact mirrors_throw _
  | ok reply => exact mirrors_pure reply

namespace Card

theorem mirrors_planeIds :
    Mirrors Prod.fst (card.planeIds driver.recorded) (card.planeIds driver) := by
  apply (driver.mirrors_request card.path (.planes 0)).bind
  intro first
  split
  · exact mirrors_pure _
  · exact (driver.mirrors_request card.path (.planes first.count)).bind fun _ => mirrors_pure _

theorem mirrors_plane (id : UInt32) :
    Mirrors Prod.fst (card.plane driver.recorded id) (card.plane driver id) :=
  driver.mirrors_request card.path (.plane id)

theorem mirrors_framebuffer (id : UInt32) :
    Mirrors Prod.fst (card.framebuffer driver.recorded id) (card.framebuffer driver id) := by
  apply (driver.mirrors_request card.path (.framebuffer id)).bind
  intro reply
  split
  · exact mirrors_throw _
  · exact mirrors_pure _

theorem mirrors_exportHandle (handle : UInt32) :
    Mirrors Prod.fst (card.exportHandle driver.recorded handle)
      (card.exportHandle driver handle) := by
  apply (driver.mirrors_request card.path (.exportHandle handle)).bind
  intro descriptor
  cases descriptor with
  | none => exact mirrors_throw _
  | some descriptor => exact mirrors_pure descriptor

theorem mirrors_releaseHandle (handle : UInt32) :
    Mirrors Prod.fst (card.releaseHandle driver.recorded handle)
      (card.releaseHandle driver handle) := by
  apply (driver.mirrors_ask card.path (.releaseHandle handle)).bind
  intro result
  cases result with
  | error error => exact mirrors_note _
  | ok reply => exact mirrors_pure ()

theorem mirrors_releaseAll (handles : List UInt32) :
    Mirrors Prod.fst (card.releaseAll driver.recorded handles) (card.releaseAll driver handles) := by
  induction handles with
  | nil => exact mirrors_pure ()
  | cons handle rest ih => exact (card.mirrors_releaseHandle driver handle).bind fun _ => ih

theorem mirrors_exportAll (handles : List UInt32) :
    Mirrors Prod.fst (card.exportAll driver.recorded handles) (card.exportAll driver handles) := by
  induction handles with
  | nil => exact mirrors_pure []
  | cons handle rest ih =>
    apply (card.mirrors_exportHandle driver handle).bind
    intro descriptor
    exact ih.bind fun _ => mirrors_pure _

theorem mirrors_exportFrame (buffer : Framebuffer) :
    Mirrors Prod.fst (card.exportFrame driver.recorded buffer) (card.exportFrame driver buffer) :=
  (card.mirrors_exportAll driver _).bind fun _ => mirrors_pure _

end Card

namespace PlaneSession

theorem mirrors_inspect (id : UInt32) :
    Mirrors Prod.fst (inspect driver.recorded card id) (inspect driver card id) := by
  apply (card.mirrors_plane driver id).attempt.bind
  intro shown
  cases shown with
  | error failure => exact (mirrors_note _).bind fun _ => mirrors_pure none
  | ok state =>
    dsimp only
    split
    · exact mirrors_pure none
    · apply (card.mirrors_framebuffer driver state.framebuffer).attempt.bind
      intro described
      cases described with
      | error failure => exact (mirrors_note _).bind fun _ => mirrors_pure none
      | ok buffer =>
        exact (card.mirrors_releaseAll driver buffer.owned).bind fun _ => mirrors_pure _

theorem mirrors_pickFrom (best : Option Candidate) (planes : List UInt32) :
    Mirrors Prod.fst (pickFrom driver.recorded card best planes)
      (pickFrom driver card best planes) := by
  induction planes generalizing best with
  | nil => exact mirrors_pure best
  | cons id rest ih => exact (mirrors_inspect driver card id).bind fun _ => ih _

theorem mirrors_pick (planes : List UInt32) :
    Mirrors Prod.fst (pick driver.recorded card planes) (pick driver card planes) := by
  apply (mirrors_pickFrom driver card none planes).bind
  intro best
  cases best with
  | none => exact mirrors_throw _
  | some best => exact mirrors_pure best.plane

theorem mirrors_planeFor (name : DeviceName) (planes : List UInt32) :
    Mirrors Prod.fst (planeFor driver.recorded card name planes)
      (planeFor driver card name planes) := by
  unfold planeFor
  cases name.plane with
  | none => exact mirrors_pick driver card planes
  | some id =>
    dsimp only
    split
    · exact mirrors_pure id
    · exact mirrors_throw _

theorem mirrors_openPlane (host : String) (framerate : Int32) (plane : UInt32) :
    Mirrors Prod.fst (openPlane driver.recorded card host framerate plane)
      (openPlane driver card host framerate plane) := by
  apply (card.mirrors_plane driver plane).bind
  intro state
  split
  · exact mirrors_throw _
  · apply (card.mirrors_framebuffer driver state.framebuffer).bind
    intro buffer
    apply (card.mirrors_releaseAll driver buffer.owned).bind
    intro _
    exact (mirrors_note _).bind fun _ => mirrors_pure _

theorem mirrors_openOn (name : DeviceName) (framerate : Int32) :
    Mirrors Prod.fst (openOn driver.recorded card name framerate)
      (openOn driver card name framerate) := by
  rw [openOn_eq, openOn_eq]
  apply (card.mirrors_planeIds driver).bind
  intro planes
  apply (mirrors_planeFor driver card name planes).bind
  intro plane
  exact mirrors_openPlane driver card name.card framerate plane

theorem mirrors_capture (session : PlaneSession) :
    Mirrors Prod.fst (session.capture driver.recorded) (session.capture driver) := by
  apply (session.card.mirrors_plane driver session.plane).bind
  intro state
  split
  · exact mirrors_pure none
  · apply (session.card.mirrors_framebuffer driver state.framebuffer).bind
    intro buffer
    apply (session.card.mirrors_exportFrame driver buffer).attempt.bind
    intro frame
    apply (session.card.mirrors_releaseAll driver buffer.owned).bind
    intro _
    exact (mirrors_ofExcept frame).bind fun _ => mirrors_pure _

end PlaneSession

end mirrors

end InstantReplay
