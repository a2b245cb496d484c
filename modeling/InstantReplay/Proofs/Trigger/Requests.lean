import InstantReplay.Proofs.Act
import InstantReplay.Proofs.Files.Tree
import InstantReplay.Trigger.Socket

/-!
# What a socket trigger counts as a request

A trigger that lives keeps count of the connections to its socket, and each of them completes one
wait. Who asks for a save connects, but so does another recorder that finds out whether somebody
listens at the path before it binds its own socket. That recorder is turned down and the trigger's
file stays, but its connection waits with the others, and completes a wait as a request does
(`SocketTrigger.answerAll_eq`).
-/

namespace InstantReplay

namespace SocketHost

variable {host : SocketHost} {number : Nat} {socket : ListeningSocket}

/-- The number of connections that wait at a socket. -/
def pending (host : SocketHost) (number : Nat) : Nat :=
  ((host.socket? number).map (·.waiting)).getD 0

theorem pending_of_socket? (h : host.socket? number = some socket) :
    host.pending number = socket.waiting := by
  simp [pending, h]

theorem socket?_update {f : ListeningSocket → ListeningSocket}
    (h : host.socket? number = some socket) (hopen : (f socket).isOpen = socket.isOpen) :
    (host.update number f).socket? number = some (f socket) := by
  rw [socket?] at h ⊢
  by_cases hnumber : number = 0
  · simp [hnumber] at h
  · rw [if_neg hnumber, Option.filter_eq_some_iff] at h
    rw [if_neg hnumber, Option.filter_eq_some_iff]
    exact ⟨by simp [update, h.1], hopen.trans h.2⟩

end SocketHost

namespace SocketTrigger

variable {trigger : SocketTrigger} {host later last : SocketHost} {count after : Nat}

/-! ## A trigger that lives -/

/-- The trigger's socket is open and has its file, and the listener knows of the connections that
wait. Where accepting is refused, it is not by the answer that means that nothing waits. -/
structure Live (trigger : SocketTrigger) (host : SocketHost) : Prop where
  address : SocketHost.addressFault? trigger.path = none
  file : host.files.find trigger.path = .ok (.socket trigger.socket)
  listening : ∃ socket, host.socket? trigger.socket = some socket ∧
    (0 < socket.waiting → socket.announced)
  refusals : ∀ code ∈ host.acceptRefusals, (IoError.os code).kind ≠ .wouldBlock

/-- The host after something happened to a living trigger: the trigger lives, its files are as they
were, and so many connections wait. -/
structure LivesOn (trigger : SocketTrigger) (host later : SocketHost) (count : Nat) : Prop where
  live : trigger.Live later
  files : later.files = host.files
  refusals : later.acceptRefusals <:+ host.acceptRefusals
  pending : later.pending trigger.socket = count

theorem LivesOn.of_live (h : trigger.Live host) :
    trigger.LivesOn host host (host.pending trigger.socket) :=
  ⟨h, rfl, List.suffix_rfl, rfl⟩

theorem LivesOn.trans (h : trigger.LivesOn host later count)
    (hlast : trigger.LivesOn later last after) : trigger.LivesOn host last after :=
  ⟨hlast.live, hlast.files.trans h.files, hlast.refusals.trans h.refusals, hlast.pending⟩

namespace Live

/-- A change of the trigger's socket that leaves it open and known. -/
theorem livesOn_update (h : trigger.Live host) {socket : ListeningSocket}
    (hsocket : host.socket? trigger.socket = some socket) {f : ListeningSocket → ListeningSocket}
    (hopen : (f socket).isOpen = socket.isOpen)
    (hknown : 0 < (f socket).waiting → (f socket).announced) :
    trigger.LivesOn host (host.update trigger.socket f) (f socket).waiting := by
  have hlater := SocketHost.socket?_update hsocket hopen
  exact ⟨⟨h.address, h.file, ⟨_, hlater, hknown⟩, h.refusals⟩, rfl, List.suffix_rfl,
    SocketHost.pending_of_socket? hlater⟩

/-- A refusal to accept takes nothing from what waits. -/
theorem livesOn_refused (h : trigger.Live host) {code : Errno} {rest : List Errno}
    (hcodes : host.acceptRefusals = code :: rest) :
    trigger.LivesOn host { host with acceptRefusals := rest } (host.pending trigger.socket) :=
  ⟨⟨h.address, h.file, h.listening, fun code hcode => h.refusals code (by simp [hcodes, hcode])⟩,
    rfl, by simp [hcodes], rfl⟩

/-- A living trigger can be connected to, and one more connection waits then. -/
theorem exists_connect (h : trigger.Live host) :
    ∃ later, host.connect trigger.path = (.ok trigger.socket, later) ∧
      trigger.LivesOn host later (host.pending trigger.socket + 1) := by
  obtain ⟨socket, hsocket, -⟩ := h.listening
  have hpath : trigger.path.isEmpty = false := by
    rw [Bool.eq_false_iff]
    intro hempty
    have hfile := h.file
    rw [String.isEmpty_iff.1 hempty] at hfile
    cases hfile
  have hlistener : host.listener trigger.path = .ok trigger.socket := by
    simp [SocketHost.listener, h.address, hpath, h.file, hsocket]
  refine ⟨_, by rw [SocketHost.connect, hlistener], ?_⟩
  rw [SocketHost.pending_of_socket? hsocket]
  exact h.livesOn_update hsocket rfl fun _ => rfl

end Live

/-- A new socket with a file is one that lives. -/
theorem live_of_host_bind {path : String} {number : Nat} (hpath : path.isEmpty = false)
    (hbind : host.bind path = (.ok number, later))
    (hrefusals : ∀ code ∈ host.acceptRefusals, (IoError.os code).kind ≠ .wouldBlock) :
    Live ⟨path, number⟩ later := by
  simp only [SocketHost.bind] at hbind
  split at hbind
  · cases hbind
  · rename_i haddress
    rw [if_neg (by simp [hpath])] at hbind
    split at hbind
    · cases hbind
    · cases hbind
    · rename_i place hlocate
      split at hbind
      · cases hbind
      · rename_i hfile
        split at hbind
        · obtain ⟨rfl, rfl⟩ := Prod.mk.inj hbind |>.imp Except.ok.inj id
          have hfound : (host.files.put place (.socket (host.sockets.length + 1))).find path =
              .ok (.socket (host.sockets.length + 1)) :=
            FileTree.find_put hlocate (Bool.eq_false_iff.2 hfile) nofun
          exact ⟨haddress, hfound, ⟨{}, by simp [SocketHost.socket?], nofun⟩, hrefusals⟩
        · cases hbind
        · cases hbind

theorem acceptRefusals_perform {α : Type} {f : SocketHost → Except IoError α × SocketHost}
    (hf : ∀ host, (f host).2.acceptRefusals = host.acceptRefusals) (failure : IoError → Failure)
    (scene : Scene SocketHost) :
    ((perform f failure).run.run scene).2.state.acceptRefusals = scene.state.acceptRefusals := by
  rw [perform, Act.run_bind_ok (Act.run_step _ _)]
  cases (f scene.state).1 <;> exact hf scene.state

theorem acceptRefusals_connect (host : SocketHost) (path : String) :
    (host.connect path).2.acceptRefusals = host.acceptRefusals := by
  rw [SocketHost.connect]
  split <;> rfl

theorem acceptRefusals_clear (path : String) (scene : Scene SocketHost) :
    ((clear path).run.run scene).2.state.acceptRefusals = scene.state.acceptRefusals := by
  rw [clear, Act.run_bind_ok (Act.run_state _)]
  split
  · rw [Act.run_bind_ok (Act.run_step _ _)]
    dsimp only
    split
    · exact acceptRefusals_connect scene.state path
    · rw [Act.run_bind_ok (Act.run_note _ _), acceptRefusals_perform fun _ => rfl]
      exact acceptRefusals_connect scene.state path
  · rfl

/-- **A trigger that was bound lives.** -/
theorem live_of_bind {path : String} (hpath : path.isEmpty = false) {scene after : Scene SocketHost}
    (hbind : (bind path).run.run scene = (.ok trigger, after))
    (hrefusals : ∀ code ∈ scene.state.acceptRefusals, (IoError.os code).kind ≠ .wouldBlock) :
    trigger.Live after.state := by
  rw [bind] at hbind
  obtain ⟨_, cleared, hclear, hbind⟩ := Act.exists_of_run_bind_ok hbind
  have hcleared : cleared.state.acceptRefusals = scene.state.acceptRefusals := by
    rw [← acceptRefusals_clear path scene, hclear]
  obtain ⟨made, hmade, hbind⟩ : ∃ made, made.state.acceptRefusals = scene.state.acceptRefusals ∧
      (do
        let number ← perform (·.bind path) fun error =>
          .trigger ("Failed to bind trigger socket " ++ quoted path ++ ": " ++ error.text)
        Act.note (.info ("Save trigger listening on " ++ quoted path))
        return ⟨path, number⟩ : Act SocketHost SocketTrigger).run.run made =
          (.ok trigger, after) := by
    dsimp only at hbind
    split at hbind
    · rename_i parent _
      obtain ⟨_, made, hmade, hbind⟩ := Act.exists_of_run_bind_ok hbind
      refine ⟨made, ?_, hbind⟩
      have hkept := acceptRefusals_perform (f := (·.makeAll parent)) (fun _ => rfl) .io cleared
      rw [hmade] at hkept
      exact hkept.trans hcleared
    · exact ⟨cleared, hcleared, hbind⟩
  obtain ⟨number, bound, hbound, hnoted⟩ := Act.exists_of_run_bind_ok hbind
  rw [Act.run_bind_ok (Act.run_note _ _)] at hnoted
  cases hnoted
  rw [perform, Act.run_bind_ok (Act.run_step _ _)] at hbound
  rcases hhost : made.state.bind path with ⟨_ | _, later⟩
  · simp only [hhost] at hbound
    cases hbound
  · simp only [hhost] at hbound
    cases hbound
    exact live_of_host_bind hpath hhost (by rwa [hmade])

/-! ## The calls -/

/-- What another recorder is told that finds somebody listening at a path. -/
def inUse (path : String) : Failure := .trigger ("Another recorder is listening on " ++ quoted path)

/-- A request is a connection. -/
theorem Live.exists_request (h : trigger.Live host) :
    ∃ later, (request trigger.path).run.run { state := host } = (.ok (), { state := later }) ∧
      trigger.LivesOn host later (host.pending trigger.socket + 1) := by
  obtain ⟨later, hconnect, hlater⟩ := h.exists_connect
  refine ⟨later, ?_, hlater⟩
  rw [request, perform, Act.run_bind, Act.run_bind_ok (Act.run_step _ _)]
  simp only [hconnect]
  rfl

/-- Another recorder is turned down, but it has connected. -/
theorem Live.exists_bind (h : trigger.Live host) :
    ∃ later, (bind trigger.path).run.run { state := host } =
        (.error (inUse trigger.path), { state := later }) ∧
      trigger.LivesOn host later (host.pending trigger.socket + 1) := by
  obtain ⟨later, hconnect, hlater⟩ := h.exists_connect
  have hclear : (clear trigger.path).run.run { state := host } =
      (.error (inUse trigger.path), { state := later }) := by
    have hholds : host.files.holds trigger.path = true := by simp [FileTree.holds, h.file]; rfl
    rw [clear, Act.run_bind_ok (Act.run_state _), if_pos hholds, Act.run_bind_ok (Act.run_step _ _)]
    simp only [hconnect]
    rfl
  exact ⟨later, by rw [bind, Act.run_bind_error hclear], hlater⟩

theorem nextPause_le (pause : Nat) : nextPause pause ≤ longestPause := Nat.min_le_right _ _

/-- The rounds of a wait outlast the refusals, when there is time for the pauses after them. -/
theorem Live.exists_waitRounds (rounds pause budget : Nat) (scene : Scene SocketHost)
    (h : trigger.Live scene.state) (hrounds : scene.state.acceptRefusals.length < rounds)
    (hbudget : longestPause * scene.state.acceptRefusals.length + pause < budget + longestPause) :
    ∃ later, (waitRounds trigger rounds pause budget).run.run scene =
        (.ok (decide (0 < scene.state.pending trigger.socket)), later) ∧
      trigger.LivesOn scene.state later.state (scene.state.pending trigger.socket - 1) := by
  induction rounds generalizing pause budget scene with
  | zero => omega
  | succ rounds ih =>
    obtain ⟨socket, hsocket, hknown⟩ := h.listening
    have hpending := SocketHost.pending_of_socket? hsocket
    rw [waitRounds, Act.run_bind_ok (Act.run_state _)]
    cases hannounced : socket.announced with
    | false =>
      -- Nothing is known to wait, so nothing waits.
      have hnone : socket.waiting = 0 := by
        refine Nat.eq_zero_of_not_pos fun hwaiting => ?_
        simpa [hannounced] using hknown hwaiting
      have hsame := LivesOn.of_live h
      rw [hpending, hnone] at hsame
      rw [if_pos (by simp [hsocket, hannounced]), hpending, hnone]
      exact ⟨scene, rfl, hsame⟩
    | true =>
      rw [if_neg (by simp [hsocket, hannounced]), Act.run_bind_ok (Act.run_step _ _)]
      cases hcodes : scene.state.acceptRefusals with
      | cons code rest =>
        have hrefused := h.livesOn_refused hcodes
        have hcode : (IoError.os code).kind ≠ .wouldBlock := h.refusals code (by simp [hcodes])
        have hnext := nextPause_le pause
        rw [hcodes, List.length_cons] at hrounds hbudget
        rw [Nat.mul_succ] at hbudget
        have hretry : ∀ log, ∃ later, (waitRounds trigger rounds (nextPause pause)
              (budget - pause)).run.run ⟨{ scene.state with acceptRefusals := rest }, log⟩ =
              (.ok (decide (0 < scene.state.pending trigger.socket)), later) ∧
            trigger.LivesOn scene.state later.state (scene.state.pending trigger.socket - 1) := by
          intro log
          obtain ⟨later, hrun, hlater⟩ := ih (nextPause pause) (budget - pause)
            ⟨{ scene.state with acceptRefusals := rest }, log⟩ hrefused.live
            (by simp only; omega) (by simp only; omega)
          exact ⟨later, hrun, hrefused.trans hlater⟩
        simp only [SocketHost.accept, hcodes, if_neg hcode, Act.run_bind_ok (Act.run_note _ _)]
        rw [if_neg (by omega)]
        exact hretry _
      | nil =>
        by_cases hwaiting : 0 < socket.waiting
        · have hany : (scene.state.socket? trigger.socket).any (0 < ·.waiting) := by
            simp [hsocket, hwaiting]
          have htaken := h.livesOn_update hsocket
            (f := fun socket => { socket with waiting := socket.waiting - 1 }) rfl
            fun _ => hannounced
          simp only [SocketHost.accept, hcodes, if_pos hany]
          rw [hpending, decide_eq_true hwaiting]
          exact ⟨_, rfl, htaken⟩
        · have hany : ¬ (scene.state.socket? trigger.socket).any (0 < ·.waiting) := by
            simp [hsocket, hwaiting]
          have hforgot := h.livesOn_update hsocket
            (f := fun socket => { socket with announced := false }) rfl
            fun h => absurd h hwaiting
          simp only [SocketHost.accept, hcodes, if_neg hany]
          rw [hpending, decide_eq_false hwaiting, Nat.eq_zero_of_not_pos hwaiting]
          rw [Nat.eq_zero_of_not_pos hwaiting] at hforgot
          exact ⟨_, rfl, hforgot⟩

/-- A wait is over as soon as something waits, and takes one of the connections that do. -/
theorem Live.exists_wait (h : trigger.Live host) {budget : Nat}
    (hbudget : longestPause * host.acceptRefusals.length ≤ budget) :
    ∃ later, (trigger.wait budget).run.run { state := host } =
        (.ok (decide (0 < host.pending trigger.socket)), later) ∧
      trigger.LivesOn host later.state (host.pending trigger.socket - 1) := by
  obtain ⟨later, hrun, hlater⟩ := Live.exists_waitRounds (host.acceptRefusals.length + 1) firstPause
    budget { state := host } h (Nat.lt_succ_self _)
    (by simp only [firstPause, longestPause] at hbudget ⊢; omega)
  exact ⟨later, by rw [wait, Act.run_bind_ok (Act.run_state _), hrun], hlater⟩

/-! ## Any calls in any order -/

/-- Something that happens at the path of a trigger. -/
inductive Call
  /-- Somebody asks for a save. -/
  | request
  /-- Another recorder tries to listen. -/
  | bind
  /-- The trigger waits for a request. -/
  | wait (budget : Nat)
  deriving DecidableEq

namespace Call

/-- What a call does: a wait tells whether a request came. -/
def perform (trigger : SocketTrigger) : Call → Act SocketHost (Option Bool)
  | request => do
    SocketTrigger.request trigger.path
    return none
  | bind => do
    let _ ← SocketTrigger.bind trigger.path
    return none
  | wait budget => return some (← trigger.wait budget)

/-- Whether a call connects to the trigger's socket. -/
def connects : Call → Bool
  | request | bind => true
  | wait _ => false

/-- What a call is answered where so many connections wait. -/
def answer (path : String) (count : Nat) : Call → Except Failure (Option Bool)
  | request => .ok none
  | bind => .error (inUse path)
  | wait _ => .ok (some (decide (0 < count)))

/-- How many connections wait after a call. -/
def countAfter (count : Nat) : Call → Nat
  | request | bind => count + 1
  | wait _ => count - 1

/-- What calls in turn are answered. -/
def answers (path : String) : Nat → List Call → List (Except Failure (Option Bool))
  | _, [] => []
  | count, call :: calls => call.answer path count :: answers path (call.countAfter count) calls

end Call

/-- Whether a wait was told of a request. -/
def fires : Except Failure (Option Bool) → Bool
  | .ok (some fired) => fired
  | _ => false

/-- Calls in turn: what they are answered, and the host after them. -/
def answerAll (trigger : SocketTrigger) :
    List Call → SocketHost → List (Except Failure (Option Bool)) × SocketHost
  | [], host => ([], host)
  | call :: calls, host =>
    let (answer, later, _) := (call.perform trigger).runOn host
    let (answers, last) := answerAll trigger calls later
    (answer :: answers, last)

/-- One call: it is answered by the count, and the trigger lives on. -/
theorem Live.exists_perform (h : trigger.Live host) (call : Call)
    (hbudget : ∀ budget, call = .wait budget → longestPause * host.acceptRefusals.length ≤ budget) :
    ∃ later lines, (call.perform trigger).runOn host =
        (call.answer trigger.path (host.pending trigger.socket), later, lines) ∧
      trigger.LivesOn host later (call.countAfter (host.pending trigger.socket)) := by
  cases call with
  | request =>
    obtain ⟨later, hrun, hlater⟩ := h.exists_request
    exact ⟨later, [], by rw [Act.runOn, Call.perform, Act.run_bind_ok hrun]; rfl, hlater⟩
  | bind =>
    obtain ⟨later, hrun, hlater⟩ := h.exists_bind
    exact ⟨later, [], by rw [Act.runOn, Call.perform, Act.run_bind_error hrun]; rfl, hlater⟩
  | wait budget =>
    obtain ⟨later, hrun, hlater⟩ := h.exists_wait (hbudget budget rfl)
    exact ⟨later.state, later.log, by rw [Act.runOn, Call.perform, Act.run_bind_ok hrun]; rfl,
      hlater⟩

/-- The waits that are told of a request, and the connections that still wait at the end, are as
many as the connections that waited before and those that were made since. -/
theorem countP_answers_add (path : String) (count : Nat) (calls : List Call) :
    (Call.answers path count calls).countP fires + calls.foldl Call.countAfter count =
      count + calls.countP Call.connects := by
  induction calls generalizing count with
  | nil => simp [Call.answers]
  | cons call calls ih =>
    rw [Call.answers, List.countP_cons, List.countP_cons, List.foldl_cons]
    have hrest := ih (call.countAfter count)
    cases call with
    | request =>
      simp only [Call.answer, fires, Call.connects, Call.countAfter, reduceIte,
        Bool.false_eq_true] at hrest ⊢
      omega
    | bind =>
      simp only [Call.answer, fires, Call.connects, Call.countAfter, reduceIte,
        Bool.false_eq_true] at hrest ⊢
      omega
    | wait budget =>
      simp only [Call.answer, fires, Call.connects, Call.countAfter, decide_eq_true_eq, reduceIte,
        Bool.false_eq_true] at hrest ⊢
      split <;> omega

theorem Live.answerAll_livesOn (h : trigger.Live host) (calls : List Call)
    (hbudget : ∀ budget, .wait budget ∈ calls →
      longestPause * host.acceptRefusals.length ≤ budget) :
    (answerAll trigger calls host).1 =
        Call.answers trigger.path (host.pending trigger.socket) calls ∧
      trigger.LivesOn host (answerAll trigger calls host).2
        (calls.foldl Call.countAfter (host.pending trigger.socket)) := by
  induction calls generalizing host with
  | nil => exact ⟨rfl, .of_live h⟩
  | cons call calls ih =>
    obtain ⟨later, lines, hrun, hlater⟩ := h.exists_perform call fun budget hcall =>
      hbudget budget (by simp [hcall])
    have hfewer : later.acceptRefusals.length ≤ host.acceptRefusals.length :=
      hlater.refusals.length_le
    obtain ⟨hanswers, hlast⟩ := ih hlater.live fun budget hcall =>
      Nat.le_trans (Nat.mul_le_mul_left _ hfewer) (hbudget budget (List.mem_cons_of_mem _ hcall))
    rw [hlater.pending] at hanswers hlast
    simp only [answerAll, hrun, hanswers, Call.answers, List.foldl_cons]
    exact ⟨trivial, hlater.trans hlast⟩

/-- **Every connection to a living trigger completes one wait**, whatever it was made for. Requests,
other recorders and waits may come in any order. A recorder is told that somebody listens, and all
files stay as they are, but it completes a wait as a request does: the waits that were told of a
request, and the connections that are left, are as many as those that waited before, the requests
and the recorders together. -/
theorem answerAll_eq (h : trigger.Live host) (calls : List Call)
    (hbudget : ∀ budget, .wait budget ∈ calls →
      longestPause * host.acceptRefusals.length ≤ budget) :
    (answerAll trigger calls host).1 =
        Call.answers trigger.path (host.pending trigger.socket) calls ∧
      trigger.LivesOn host (answerAll trigger calls host).2
        (calls.foldl Call.countAfter (host.pending trigger.socket)) ∧
      (answerAll trigger calls host).1.countP fires +
          (answerAll trigger calls host).2.pending trigger.socket =
        host.pending trigger.socket + calls.countP Call.connects := by
  obtain ⟨hanswers, hlater⟩ := h.answerAll_livesOn calls hbudget
  refine ⟨hanswers, hlater, ?_⟩
  rw [hanswers, hlater.pending]
  exact countP_answers_add trigger.path (host.pending trigger.socket) calls

/-- A host where a recorder has just bound its socket. -/
def sampleHost : SocketHost where
  files := ⟨[(["home", "t.sock"], .socket 1), (["home"], .directory)], ["home"]⟩
  sockets := [{}]

/-- The trigger of this recorder. -/
def sampleTrigger : SocketTrigger := ⟨"t.sock", 1⟩

theorem live_sampleTrigger (codes : List Errno)
    (hcodes : ∀ code ∈ codes, (IoError.os code).kind ≠ .wouldBlock) :
    sampleTrigger.Live { sampleHost with acceptRefusals := codes } := by
  have hbind : (bind "t.sock").run.run
      { state := { files := .ofDirectories ["home"] [], acceptRefusals := codes } } =
        (.ok sampleTrigger,
          { state := { sampleHost with acceptRefusals := codes }
            log := [.info ("Save trigger listening on " ++ quoted "t.sock")] }) := rfl
  exact live_of_bind rfl hbind hcodes

/-- A request, another recorder and three waits, where accepting is refused once because too many
files are open. -/
theorem answerAll_eq_sample :
    sampleTrigger.Live { sampleHost with acceptRefusals := [.tooManyFiles] } ∧
      (answerAll sampleTrigger [.request, .wait 2000, .bind, .wait 2000, .wait 2000]
          { sampleHost with acceptRefusals := [.tooManyFiles] }).1 =
        [.ok none, .ok (some true), .error (inUse "t.sock"), .ok (some true), .ok (some false)] ∧
      (answerAll sampleTrigger [.request, .wait 2000, .bind, .wait 2000, .wait 2000]
          { sampleHost with acceptRefusals := [.tooManyFiles] }).2.files = sampleHost.files := by
  have hlive := live_sampleTrigger [.tooManyFiles] (by decide)
  obtain ⟨hanswers, hlater, -⟩ := answerAll_eq hlive
    [.request, .wait 2000, .bind, .wait 2000, .wait 2000] (by simp [longestPause])
  exact ⟨hlive, hanswers, hlater.files⟩

/-- **A recorder that is turned down makes the other one save.** It leaves a connection, and the
next wait is told of a request, although nobody asked. -/
theorem fires_of_bind :
    sampleTrigger.Live sampleHost ∧
      (answerAll sampleTrigger [.bind, .wait 0] sampleHost).1 =
        [.error (inUse "t.sock"), .ok (some true)] ∧
      sampleHost.pending 1 = 0 ∧ (answerAll sampleTrigger [.bind] sampleHost).2.pending 1 = 1 :=
  ⟨live_sampleTrigger [] nofun, by rfl, by rfl, by rfl⟩

end SocketTrigger

end InstantReplay
