import VTNet.Proofs.LockedSections

/-!
# The running server refines the abstract server

Every action of every task is one event: the sessions move as the event says and each
channel gets what the event lets its connection hear.
-/

namespace VTNet.Proofs

open ConnectionAuthenticator

/-- What the task of a connection has settled when it waits in each of its phases. -/
def SocketTask.Settled (task : SocketTask) : Prop :=
  task.authenticator.Idle ∧
  match task.phase with
  | .reading => task.isRegistered = task.session.isSome
  | .handling _ _ => task.isRegistered = true ∧ task.session.isSome
  | .registering session serverMessage => task.isRegistered = false ∧ task.session = none ∧
      session.activeVoiceRoomId = none ∧ ∃ assignedName serverName,
        serverMessage = .authSuccess session.userUid assignedName serverName
  | .replying serverMessage =>
      (task.isRegistered = false ∧ task.session = none ∧ serverMessage.IsPrelude) ∨
      (task.isRegistered = true ∧ ∃ session, task.session = some session ∧
        session.activeVoiceRoomId = none ∧ ∃ assignedName serverName,
          serverMessage = .authSuccess session.userUid assignedName serverName)
  | .leaving => task.isRegistered = task.session.isSome
  | .closed => task.session = none

/-- The invariant of the running server. -/
structure Inv (system : System) : Prop where
  tracks : Tracks system.state system.roster
  settled : ∀ c task, system.tasks c = some task → SocketTask.Settled task

lemma inv_default : Inv System.default := by
  refine ⟨⟨?_, ?_⟩, ?_⟩
  · intro uid c
    simp [System.default, ServerState.default, System.roster]
  · intro roomId uid
    simp [System.default, ServerState.default, System.roster, Roster.Present]
  · intro c task h
    cases h

section Tasks

variable {system : System} {c : ConnId} {task : SocketTask}

lemma roster_of_task (h : system.tasks c = some task) : system.roster c = task.session := by
  simp [System.roster, h]

lemma roster_setTask (system : System) (c : ConnId) (task : SocketTask) :
    (system.setTask c task).roster = Function.update system.roster c task.session := by
  funext d
  by_cases hdc : d = c
  · subst hdc
    simp [System.roster, System.setTask]
  · simp [System.roster, System.setTask, hdc]

/-- Setting a task to one with the same session leaves the sessions alone. -/
lemma roster_setTask_same (h : system.roster c = task.session) :
    (system.setTask c task).roster = system.roster := by
  rw [roster_setTask, ← h, Function.update_eq_self]

lemma settled_setTask (h : ∀ d t, system.tasks d = some t → SocketTask.Settled t)
    (htask : SocketTask.Settled task) :
    ∀ d t, (system.setTask c task).tasks d = some t → SocketTask.Settled t := by
  intro d t ht
  by_cases hdc : d = c
  · subst hdc
    simp only [System.setTask, Function.update_self, Option.some.injEq] at ht
    rwa [← ht]
  · simp only [System.setTask, Function.update_of_ne hdc] at ht
    exact h d t ht

end Tasks

/-! ### What a section leaves of a task -/

lemma setTask_self (system : System) (c : ConnId) (task : SocketTask) :
    (system.setTask c task).tasks c = some task := Function.update_self ..

lemma setTask_state (system : System) (c : ConnId) (task : SocketTask) :
    (system.setTask c task).state = system.state := rfl

lemma handle_task (system : System) (c : ConnId) (task : SocketTask) (session : Session)
    (message : ClientMessage) (serverTimestamp : UInt64) :
    (system.handle c task session message serverTimestamp).tasks c = some { task with
      session := (system.handle c task session message serverTimestamp).roster c
      phase := .reading } := by
  simp [System.handle, System.roster, System.setTask]

lemma disconnect_task (system : System) (c : ConnId) (task : SocketTask) :
    (system.disconnect c task).tasks c = some { task with session := none, phase := .closed } := by
  unfold System.disconnect
  dsimp only
  split <;> exact setTask_self ..

/-! ### Receiving a frame -/

/-- A frame changes neither the session nor the registration. -/
lemma receive_eq (crates : Crates) (task : SocketTask) (frame : Frame) (nonce : Nonce)
    (serverTimestamp : UInt64) (now : Instant) : ∃ authenticator phase,
      task.receive crates frame nonce serverTimestamp now = { task with authenticator, phase } := by
  unfold SocketTask.receive
  cases frame with
  | text payload =>
    dsimp only
    split
    · exact ⟨_, _, rfl⟩
    · split
      · exact ⟨_, _, rfl⟩
      · split <;> exact ⟨_, _, rfl⟩
  | _ => exact ⟨_, _, rfl⟩

lemma receive_session (crates : Crates) (task : SocketTask) (frame : Frame) (nonce : Nonce)
    (serverTimestamp : UInt64) (now : Instant) :
    (task.receive crates frame nonce serverTimestamp now).session = task.session := by
  obtain ⟨_, _, he⟩ := receive_eq crates task frame nonce serverTimestamp now
  rw [he]

lemma receive_registered (crates : Crates) (task : SocketTask) (frame : Frame) (nonce : Nonce)
    (serverTimestamp : UInt64) (now : Instant) :
    (task.receive crates frame nonce serverTimestamp now).isRegistered = task.isRegistered := by
  obtain ⟨_, _, he⟩ := receive_eq crates task frame nonce serverTimestamp now
  rw [he]

lemma receive_settled {crates : Crates} {task : SocketTask} (h : SocketTask.Settled task)
    (hphase : task.phase = .reading) (frame : Frame) (nonce : Nonce) (serverTimestamp : UInt64)
    (now : Instant) : SocketTask.Settled (task.receive crates frame nonce serverTimestamp now) := by
  obtain ⟨hidle, hreading⟩ := h
  rw [hphase] at hreading
  dsimp only at hreading
  cases frame with
  | close => exact ⟨hidle, hreading⟩
  | failed => exact ⟨hidle, hreading⟩
  | other =>
    refine ⟨hidle, ?_⟩
    simp only [SocketTask.receive, hphase]
    exact hreading
  | text payload =>
    cases hdecode : decodeClientMessage crates payload with
    | error e =>
      simp only [SocketTask.receive, hdecode]
      exact ⟨hidle, hreading⟩
    | ok message =>
      cases hsession : task.session with
      | some session =>
        simp only [SocketTask.receive, hdecode, hsession, Option.isSome_some, if_true]
        rw [hsession] at hreading
        exact ⟨hidle, hreading, rfl⟩
      | none =>
        rw [hsession] at hreading
        simp only [SocketTask.receive, hdecode, hsession, Option.isSome_none, Bool.false_eq_true,
          if_false]
        rcases handleMessage_cases hidle with ⟨reply, auth, hresult, hprelude, hauth⟩ |
          ⟨challenge, signatureBase64, -, -, -, hresult⟩
        · rw [hresult, take_of_idle hauth]
          exact ⟨hauth, Or.inl ⟨hreading, rfl, hprelude⟩⟩
        · rw [hresult, take_of_authenticated rfl]
          exact ⟨(fun session hs => by cases hs), hreading, rfl, rfl, _, _, rfl⟩

/-! ### One action -/

/-- An action of the running server and the event it is. -/
structure StepRefines (system : System) (action : Action) (system' : System) : Prop where
  inv : Inv system'
  valid : (system.event action).Valid system.roster
  roster : system'.roster = (system.event action).next system.roster
  outbound : ∀ d, system'.outbound d =
    system.outbound d ++ (system.event action).heard system.roster d

/-- An action that leaves the shared state, the sessions and the channels alone. -/
lemma silent_refines {system : System} (h : Inv system) {action : Action} {c : ConnId}
    {task : SocketTask} (hevent : system.event action = .silent)
    (hsession : system.roster c = task.session) (htask : SocketTask.Settled task) :
    StepRefines system action (system.setTask c task) := by
  have hroster := roster_setTask_same hsession
  refine ⟨⟨?_, settled_setTask h.settled htask⟩, ?_, ?_, ?_⟩
  · rw [hroster]
    exact h.tracks
  · rw [hevent]
    trivial
  · rw [hroster, hevent]
    rfl
  · intro d
    rw [hevent, Event.heard, List.append_nil]
    rfl

/-- Registering a connection under an identity that has none. -/
lemma Tracks.login {state : ServerState} {roster : Roster} (h : Tracks state roster) {c : ConnId}
    {s : Session} (hc : roster c = none) (hnew : state.connections s.userUid = none)
    (hroom : s.activeVoiceRoomId = none) :
    Tracks { state with connections := Function.update state.connections s.userUid (some c) }
      (Function.update roster c (some s)) := by
  have hother : ∀ d t, roster d = some t → t.userUid ≠ s.userUid := by
    intro d t ht huid
    rw [← huid, h.connection ht] at hnew
    cases hnew
  constructor
  · intro uid d
    dsimp only
    by_cases hdc : d = c
    · subst hdc
      by_cases huid : uid = s.userUid
      · simp [huid]
      · have hfree : state.connections uid ≠ some d := by
          intro hd
          obtain ⟨t, ht, -⟩ := (h.connections_iff uid d).mp hd
          rw [hc] at ht
          cases ht
        have huid' : ¬s.userUid = uid := fun he => huid he.symm
        simp [huid, huid', hfree]
    · rw [Function.update_of_ne hdc]
      by_cases huid : uid = s.userUid
      · subst huid
        rw [Function.update_self]
        refine iff_of_false (fun he => hdc (Option.some.inj he).symm) ?_
        rintro ⟨t, ht, htuid⟩
        exact hother d t ht htuid
      · rw [Function.update_of_ne huid]
        exact h.connections_iff uid d
  · intro roomId uid
    rw [Roster.present_login hc hroom]
    exact h.occupants_iff roomId uid

lemma accept_refines {system : System} (h : Inv system) {c : ConnId}
    (hfree : system.tasks c = none) :
    StepRefines system (.accept c) (system.setTask c SocketTask.start) := by
  refine silent_refines h rfl ?_ ⟨(fun session hs => by cases hs), rfl⟩
  simp [System.roster, hfree, SocketTask.start]

lemma receive_refines {crates : Crates} {system : System} (h : Inv system) {c : ConnId}
    {task : SocketTask} (htask : system.tasks c = some task) (hphase : task.phase = .reading)
    (frame : Frame) (nonce : Nonce) (serverTimestamp : UInt64) (now : Instant) :
    StepRefines system (.receive c frame nonce serverTimestamp now)
      (system.setTask c (task.receive crates frame nonce serverTimestamp now)) := by
  refine silent_refines h rfl ?_ (receive_settled (h.settled c task htask) hphase _ _ _ _)
  rw [roster_of_task htask, receive_session]

lemma handle_refines {system : System} (h : Inv system) {c : ConnId} {task : SocketTask}
    {message : ClientMessage} {serverTimestamp : UInt64} {session : Session}
    (htask : system.tasks c = some task) (hphase : task.phase = .handling message serverTimestamp)
    (hsession : task.session = some session) :
    StepRefines system (.handle c) (system.handle c task session message serverTimestamp) := by
  have hs : system.roster c = some session := by rw [roster_of_task htask, hsession]
  have hevent : system.event (.handle c) = messageEvent c message serverTimestamp := by
    simp [System.event, htask, hphase]
  have hsettled := h.settled c task htask
  simp only [SocketTask.Settled, hphase] at hsettled
  obtain ⟨hnext, htracks, hheard⟩ := handleAuthenticatedMessage_refines h.tracks hs
    system.outbound message serverTimestamp
  have hroster : (system.handle c task session message serverTimestamp).roster =
      (messageEvent c message serverTimestamp).next system.roster := by
    rw [hnext]
    exact roster_setTask _ _ _
  refine ⟨⟨?_, ?_⟩, ?_, ?_, ?_⟩
  · rw [hroster]
    exact htracks
  · exact settled_setTask h.settled ⟨hsettled.1, hsettled.2.1⟩
  · rw [hevent]
    cases message <;> trivial
  · rw [hroster, hevent]
  · rw [hevent]
    exact hheard

lemma register_refines {system : System} (h : Inv system) {c : ConnId} {task : SocketTask}
    {session : Session} {serverMessage : ServerMessage} (htask : system.tasks c = some task)
    (hphase : task.phase = .registering session serverMessage) :
    StepRefines system (.register c) (system.register c task session serverMessage) := by
  have hsettled := h.settled c task htask
  simp only [SocketTask.Settled, hphase] at hsettled
  obtain ⟨hidle, hunregistered, hnone, hroom, hmessage⟩ := hsettled
  have hc : system.roster c = none := by rw [roster_of_task htask, hnone]
  by_cases htaken : (system.state.connections session.userUid).isSome
  · have hevent : system.event (.register c) = .own c (.authFailure .invalidCredentials) := by
      simp [System.event, htask, hphase, htaken]
    have hroster : (system.register c task session serverMessage).roster = system.roster := by
      simp only [System.register, if_pos htaken]
      exact roster_setTask_same (hc.trans hnone.symm)
    refine ⟨⟨?_, ?_⟩, ?_, ?_, ?_⟩
    · rw [hroster]
      simp only [System.register, if_pos htaken]
      exact h.tracks
    · simp only [System.register, if_pos htaken]
      exact settled_setTask h.settled ⟨hidle, by simp [hunregistered, hnone]⟩
    · rw [hevent]
      exact Or.inl ⟨hc, trivial⟩
    · rw [hroster, hevent]
      rfl
    · intro d
      rw [hevent]
      simp only [System.register, if_pos htaken]
      by_cases hdc : d = c
      · subst hdc
        simp [Outbound.send, Event.heard]
      · simp [Outbound.send, Event.heard, hdc]
  · have hevent : system.event (.register c) = .login c session := by
      simp [System.event, htask, hphase, htaken]
    have hnew : system.state.connections session.userUid = none := by simpa using htaken
    have hroster : (system.register c task session serverMessage).roster =
        Function.update system.roster c (some session) := by
      simp only [System.register, if_neg htaken]
      exact roster_setTask _ _ _
    refine ⟨⟨?_, ?_⟩, ?_, ?_, ?_⟩
    · rw [hroster]
      simp only [System.register, if_neg htaken]
      exact Tracks.login h.tracks hc hnew hroom
    · simp only [System.register, if_neg htaken]
      exact settled_setTask h.settled ⟨hidle, Or.inr ⟨rfl, session, rfl, hroom, hmessage⟩⟩
    · rw [hevent]
      refine ⟨hc, hroom, ?_⟩
      intro d t ht huid
      rw [← huid, h.tracks.connection ht] at hnew
      cases hnew
    · rw [hroster, hevent]
      rfl
    · intro d
      rw [hevent]
      simp only [System.register, if_neg htaken, Event.heard, List.append_nil]
      rfl

lemma reply_refines {system : System} (h : Inv system) {c : ConnId} {task : SocketTask}
    {serverMessage : ServerMessage} (htask : system.tasks c = some task)
    (hphase : task.phase = .replying serverMessage) :
    StepRefines system (.reply c) { system.setTask c { task with phase := .reading } with
      outbound := system.outbound.send c serverMessage } := by
  have hevent : system.event (.reply c) = .own c serverMessage := by
    simp [System.event, htask, hphase]
  have hsettled := h.settled c task htask
  simp only [SocketTask.Settled, hphase] at hsettled
  obtain ⟨hidle, hreply⟩ := hsettled
  have hc := roster_of_task htask
  have hroster : (system.setTask c { task with phase := .reading }).roster = system.roster :=
    roster_setTask_same hc
  refine ⟨⟨?_, settled_setTask h.settled ⟨hidle, ?_⟩⟩, ?_, ?_, ?_⟩
  · have htracks := h.tracks
    rw [← hroster] at htracks
    exact htracks
  · rcases hreply with ⟨hunregistered, hnone, -⟩ | ⟨hregistered, session, hsession, -, -⟩
    · simp [hunregistered, hnone]
    · simp [hregistered, hsession]
  · rw [hevent]
    rcases hreply with ⟨-, hnone, hprelude⟩ | ⟨-, session, hsession, hroom, names⟩
    · exact Or.inl ⟨hc.trans hnone, hprelude⟩
    · obtain ⟨assignedName, serverName, he⟩ := names
      exact Or.inr ⟨session, assignedName, serverName, hc.trans hsession, hroom, he⟩
  · rw [hevent]
    exact hroster
  · intro d
    rw [hevent]
    by_cases hdc : d = c
    · subst hdc
      simp [Outbound.send, Event.heard]
    · simp [Outbound.send, Event.heard, hdc]

lemma disconnect_refines {system : System} (h : Inv system) {c : ConnId} {task : SocketTask}
    (htask : system.tasks c = some task) (hphase : task.phase = .leaving) :
    StepRefines system (.disconnect c) (system.disconnect c task) := by
  have hsettled := h.settled c task htask
  simp only [SocketTask.Settled, hphase] at hsettled
  obtain ⟨hidle, hregistered⟩ := hsettled
  have hc := roster_of_task htask
  have hclosed : ∀ d t, (system.setTask c { task with session := none, phase := .closed }).tasks d =
      some t → SocketTask.Settled t := settled_setTask h.settled ⟨hidle, rfl⟩
  cases hsession : task.session with
  | none =>
    rw [hsession] at hregistered hc
    have hresult : system.disconnect c task =
        system.setTask c { task with session := none, phase := .closed } := by
      simp [System.disconnect, hsession, hregistered]
    have hgone : (Event.logout c).next system.roster = system.roster := by
      rw [Event.next, ← hc, Function.update_eq_self]
    have hroster : (system.setTask c { task with session := none, phase := .closed }).roster =
        system.roster := roster_setTask_same hc
    rw [hresult]
    refine ⟨⟨?_, hclosed⟩, trivial, ?_, ?_⟩
    · rw [hroster]
      exact h.tracks
    · exact hroster.trans hgone.symm
    · intro d
      simp only [System.event, Event.heard, hc, List.append_nil]
      rfl
  | some session =>
    rw [hsession] at hregistered hc
    have hresult : system.disconnect c task =
        { system.setTask c { task with session := none, phase := .closed } with
          state := (disconnectSession system.state system.outbound session).1
          outbound := (disconnectSession system.state system.outbound session).2 } := by
      simp [System.disconnect, hsession, hregistered]
    obtain ⟨htracks, hheard⟩ := disconnectSession_refines h.tracks hc system.outbound
    have hroster : (system.setTask c { task with session := none, phase := .closed }).roster =
        (Event.logout c).next system.roster := roster_setTask _ _ _
    rw [hresult]
    refine ⟨⟨?_, hclosed⟩, trivial, hroster, hheard⟩
    rw [← hroster] at htracks
    exact htracks

/-- Every action of the running server is one event of the abstract server. -/
theorem step_refines {crates : Crates} {system system' : System} (h : Inv system) {action : Action}
    (hstep : system.step crates action = some system') : StepRefines system action system' := by
  cases System.stepped_of_step hstep with
  | accept hfree => exact accept_refines h hfree
  | receive frame nonce serverTimestamp now htask hphase =>
    exact receive_refines h htask hphase frame nonce serverTimestamp now
  | handle htask hphase hsession => exact handle_refines h htask hphase hsession
  | register htask hphase => exact register_refines h htask hphase
  | reply htask hphase => exact reply_refines h htask hphase
  | disconnect htask hphase => exact disconnect_refines h htask hphase

/-! ### Whole runs -/

/-- The states of the server from its start on, under every interleaving of its tasks. -/
abbrev Reachable (crates : Crates) (system : System) : Prop :=
  Execution.Reachable (System.step crates) System.default system

theorem inv_of_reachable {crates : Crates} {system : System} (h : Reachable crates system) :
    Inv system :=
  Execution.invariant_of_step inv_default (fun _ _ _ hinv hstep => (step_refines hinv hstep).inv) h

end VTNet.Proofs
