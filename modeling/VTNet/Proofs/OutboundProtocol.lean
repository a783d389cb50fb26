import VTNet.Proofs.Dormant
import VTNet.Proofs.Initiator

/-!
# The session protocol of an outbound log

Every log is accepted by one automaton, although the reply that opens the session is sent after
the lock that registered it has been released.
-/

namespace VTNet.Proofs

open ServerMessage

/-- How far the log of a connection has brought its client. -/
inductive Stage
  | unauth
  | lobby (uid : UserUid)
  | inRoom (uid : UserUid) (roomId : Uuid)
  deriving DecidableEq

def outboundStep (stage : Stage) (m : ServerMessage) : Option Stage :=
  match stage, m with
  | .unauth, .authChallenge _ _ => some .unauth
  | .unauth, .authFailure _ => some .unauth
  | .unauth, .authSuccess verifiedUid _ _ => some (.lobby verifiedUid)
  | .unauth, _ => none
  | .lobby uid, .voiceRoomJoined roomId => some (.inRoom uid roomId)
  | .lobby _, _ => none
  | .inRoom uid here, .voiceRoomJoined roomId =>
    if roomId = here then none else some (.inRoom uid roomId)
  | .inRoom uid here, .voiceRoomLeft roomId => if roomId = here then some (.lobby uid) else none
  | .inRoom uid here, m =>
    if m.isPeerEvent ∧ m.roomId? = some here ∧ m.subjectUid? ≠ some uid then
      some (.inRoom uid here)
    else none

/-- The stage of a session whose client knows of it. -/
def Stage.of (s : Session) : Stage :=
  match s.activeVoiceRoomId with
  | none => .lobby s.userUid
  | some roomId => .inRoom s.userUid roomId

lemma Stage.of_lobby {s : Session} (h : s.activeVoiceRoomId = none) :
    Stage.of s = .lobby s.userUid := by
  rw [Stage.of, h]

lemma Stage.of_inRoom {s : Session} {roomId : Uuid} (h : s.activeVoiceRoomId = some roomId) :
    Stage.of s = .inRoom s.userUid roomId := by
  rw [Stage.of, h]

lemma outboundStep_prelude {m : ServerMessage} (h : m.IsPrelude) :
    outboundStep .unauth m = some .unauth := by
  cases m <;> first | rfl | cases h

lemma outboundStep_peer {uid : UserUid} {here : Uuid} {m : ServerMessage}
    (hpeer : m.isPeerEvent = true) (hroom : m.roomId? = some here)
    (hsubject : m.subjectUid? ≠ some uid) :
    outboundStep (.inRoom uid here) m = some (.inRoom uid here) := by
  have haccepted := And.intro hpeer (And.intro hroom hsubject)
  cases m with
  | voiceRoomJoined => cases hpeer
  | voiceRoomLeft => cases hpeer
  | _ => exact if_pos haccepted

lemma outboundStep_enter {s : Session} {roomId : Uuid} (h : s.activeVoiceRoomId ≠ some roomId) :
    outboundStep (Stage.of s) (.voiceRoomJoined roomId) = some (.inRoom s.userUid roomId) := by
  cases hroom : s.activeVoiceRoomId with
  | none => rw [Stage.of_lobby hroom, outboundStep]
  | some here =>
    have hne : roomId ≠ here := by
      rintro rfl
      exact h hroom
    rw [Stage.of_inRoom hroom, outboundStep, if_neg hne]

/-! ### One step, seen from one connection -/

section Observations

variable {roster roster' : Roster} {d : ConnId} {s : Session} {heard : List ServerMessage}

/-- A known session's log moves on as the session moves. -/
lemma stage_observed (hs : roster d = some s) (hobs : Observed roster roster' d heard)
    (hroom : ∀ m ∈ heard, m.roomId? ≠ none) :
    ∃ stage, Execution.exec outboundStep (Stage.of s) heard = some stage ∧
      ∀ s', roster' d = some s' → stage = Stage.of s' := by
  cases hobs with
  | quiet same =>
    refine ⟨_, rfl, ?_⟩
    intro s' hs'
    rw [same, hs] at hs'
    cases hs'
    rfl
  | prelude unknown =>
    rw [hs] at unknown
    cases unknown
  | welcome => exact absurd rfl (hroom _ (List.mem_singleton_self _))
  | login unknown =>
    rw [hs] at unknown
    cases unknown
  | logout gone =>
    refine ⟨_, rfl, ?_⟩
    intro s' hs'
    rw [gone] at hs'
    cases hs'
  | joined session elsewhere moved =>
    rw [hs] at session
    cases session
    refine ⟨_, (Execution.exec_singleton ..).trans (outboundStep_enter elsewhere), ?_⟩
    intro s' hs'
    rw [moved] at hs'
    cases hs'
    rfl
  | left session here moved =>
    rw [hs] at session
    cases session
    refine ⟨.lobby s.userUid, ?_, ?_⟩
    · rw [Execution.exec_singleton, Stage.of_inRoom here, outboundStep, if_pos rfl]
    · intro s' hs'
      rw [moved] at hs'
      cases hs'
      rfl
  | peerJoined session same here other =>
    rw [hs] at session
    cases session
    refine ⟨Stage.of s, ?_, ?_⟩
    · rw [Execution.exec_singleton, Stage.of_inRoom here]
      exact outboundStep_peer rfl rfl (fun he => other (Option.some.inj he))
    · intro s' hs'
      rw [same] at hs'
      cases hs'
      rfl
  | peerLeft session same here other =>
    rw [hs] at session
    cases session
    refine ⟨Stage.of s, ?_, ?_⟩
    · rw [Execution.exec_singleton, Stage.of_inRoom here]
      exact outboundStep_peer rfl rfl (fun he => other (Option.some.inj he))
    · intro s' hs'
      rw [same] at hs'
      cases hs'
      rfl
  | post session here same isPost room sender present other =>
    rw [hs] at session
    cases session
    refine ⟨Stage.of s, ?_, ?_⟩
    · rw [Execution.exec_singleton, Stage.of_inRoom here]
      exact outboundStep_peer (isPeerEvent_of_isPost isPost) room (fun he => other _ he rfl)
    · intro s' hs'
      rw [same, hs] at hs'
      cases hs'
      rfl

/-- A connection that is in no room and does not act hears nothing. -/
lemma heard_nil_of_lobby (hd : roster.room d = none) (hsame : roster' d = roster d)
    (hobs : Observed roster roster' d heard) (hroom : ∀ m ∈ heard, m.roomId? ≠ none) :
    heard = [] := by
  cases hobs with
  | quiet => rfl
  | prelude unknown same prelude =>
    rename_i m
    have hm := hroom m (List.mem_singleton_self m)
    cases m <;> first | exact absurd rfl hm | cases prelude
  | welcome => exact absurd rfl (hroom _ (List.mem_singleton_self _))
  | login => rfl
  | logout => rfl
  | joined session elsewhere moved =>
    rw [moved, session, Option.some.injEq] at hsame
    rw [← hsame] at elsewhere
    exact absurd rfl elsewhere
  | left session here =>
    rw [Roster.room_of_some session, here] at hd
    cases hd
  | peerJoined session same here =>
    rw [Roster.room_of_some session, here] at hd
    cases hd
  | peerLeft session same here =>
    rw [Roster.room_of_some session, here] at hd
    cases hd
  | post session here =>
    rw [Roster.room_of_some session, here] at hd
    cases hd

/-- What a connection hears of an event other than its own replies is about a room. -/
lemma room_of_heard {event : Event} (hown : ∀ m, event ≠ .own d m) :
    ∀ m ∈ event.heard roster d, m.roomId? ≠ none := by
  intro m hm
  rcases heard_cases hm with he | ⟨roomId, -, rfl⟩ | ⟨roomId, -, rfl⟩ | hpeer
  · exact absurd he (hown m)
  · exact Option.some_ne_none roomId
  · exact Option.some_ne_none roomId
  · cases m <;> cases hpeer <;> exact Option.some_ne_none _

end Observations

/-! ### One step of the running server -/

/-- What the log of a connection has told while its task stands where it does. -/
structure Staged (task : Option SocketTask) (stage : Stage) : Prop where
  unregistered : (∀ t, task = some t → t.isRegistered = false) → stage = .unauth
  replying : ∀ t m, task = some t → t.phase = .replying m → stage = .unauth
  active : ∀ t s, task = some t → t.session = some s → (∀ m, t.phase ≠ .replying m) →
    stage = Stage.of s

/-- One action appends to the log of `d` what its automaton accepts. -/
def LogAdvances (system system' : System) (d : ConnId) (stage : Stage) : Prop :=
  ∃ heard stage', system'.outbound d = system.outbound d ++ heard ∧
    Execution.exec outboundStep stage heard = some stage' ∧ Staged (system'.tasks d) stage'

section Steps

variable {crates : Crates} {system system' : System} {action : Action} {d : ConnId} {stage : Stage}

lemma event_own {c : ConnId} {m : ServerMessage} (h : system.event action = .own c m) :
    action.actor = c := by
  cases action with
  | handle d =>
    simp only [System.event] at h
    split at h
    · rename_i message serverTimestamp _
      cases message <;> cases h
    · cases h
  | register d =>
    simp only [System.event] at h
    split at h
    · split at h <;> cases h
      rfl
    · cases h
  | reply d =>
    simp only [System.event] at h
    split at h <;> cases h
    rfl
  | _ => cases h

lemma logAdvances_nil (hlog : system'.outbound d = system.outbound d)
    (hstaged : Staged (system'.tasks d) stage) : LogAdvances system system' d stage :=
  ⟨[], stage, by rw [hlog, List.append_nil], rfl, hstaged⟩

/-- The actions of other tasks. -/
lemma staged_other (h : Inv system) (hstep : system.step crates action = some system')
    (hd : action.actor ≠ d) (hstaged : Staged (system.tasks d) stage) :
    LogAdvances system system' d stage := by
  obtain ⟨-, hvalid, hroster, houtbound⟩ := step_refines h hstep
  have htasks := (System.stepped_of_step hstep).task_other (Ne.symm hd)
  have hsame : system'.roster d = system.roster d := by simp only [System.roster, htasks]
  have hown : ∀ m, system.event action ≠ .own d m := fun m he => hd (event_own he)
  have hroom : ∀ m ∈ (system.event action).heard system.roster d, m.roomId? ≠ none :=
    room_of_heard hown
  have hobs := observed_event h.tracks.distinct hvalid d
  rw [← hroster] at hobs
  cases hd : system.roster.room d with
  | none =>
    refine logAdvances_nil ?_ (by rwa [htasks])
    rw [houtbound, heard_nil_of_lobby hd hsame hobs hroom, List.append_nil]
  | some roomId =>
    obtain ⟨s, hs, hhere⟩ := Roster.room_eq_some.mp hd
    obtain ⟨task, htask, hsession⟩ := Option.bind_eq_some_iff.mp hs
    have hphase : ∀ m, task.phase ≠ .replying m := by
      intro m hm
      have hsettled := (h.settled d task htask).2
      simp [hm, hsession, hhere] at hsettled
    have hstage := hstaged.active task s htask hsession hphase
    subst hstage
    obtain ⟨stage', haccepted, hstage'⟩ := stage_observed hs hobs hroom
    have hunmoved := hstage' s (hsame.trans hs)
    subst hunmoved
    exact ⟨_, _, houtbound d, haccepted, by rwa [htasks]⟩

/-- A task that no longer waits to reply has told what its session says. -/
lemma staged_task {task : SocketTask} (hunregistered : task.isRegistered = false → stage = .unauth)
    (hreplying : ∀ m, task.phase ≠ .replying m)
    (hactive : ∀ s, task.session = some s → stage = Stage.of s) : Staged (some task) stage := by
  constructor
  · exact fun hall => hunregistered (hall task rfl)
  · intro t m ht hm
    cases ht
    exact absurd hm (hreplying m)
  · intro t s ht hs _
    cases ht
    exact hactive s hs

lemma staged_unauth {task : SocketTask} (hsession : ∀ s, task.session = some s →
    ∃ m, task.phase = .replying m) : Staged (some task) .unauth := by
  constructor
  · exact fun _ => rfl
  · exact fun _ _ _ _ => rfl
  · intro t s ht hs hreplying
    cases ht
    obtain ⟨m, hm⟩ := hsession s hs
    exact absurd hm (hreplying m)

/-- A task without a session has told nothing but preludes. -/
lemma stage_of_no_session (h : Inv system) {task : SocketTask} (htask : system.tasks d = some task)
    (hsession : task.session = none) (hopen : task.phase ≠ .closed)
    (hstaged : Staged (some task) stage) : stage = .unauth := by
  have hsettled := (h.settled d task htask).2
  cases hphase : task.phase with
  | closed => exact absurd hphase hopen
  | replying m => exact hstaged.replying task m rfl hphase
  | _ =>
    apply hstaged.unregistered
    intro t ht
    cases ht
    simp only [hphase, hsession] at hsettled
    simp_all

/-- Only a task without a session replies to a frame. -/
lemma receive_replying {task : SocketTask} (hphase : task.phase = .reading)
    (hsession : task.session.isSome) (frame : Frame) (nonce : Nonce) (serverTimestamp : UInt64)
    (now : Instant) (m : ServerMessage) :
    (task.receive crates frame nonce serverTimestamp now).phase ≠ .replying m := by
  unfold SocketTask.receive
  cases frame with
  | text payload =>
    simp only [hsession, if_true]
    split <;> exact Phase.noConfusion
  | other => simp [hphase]
  | _ => exact Phase.noConfusion

/-! ### The actions of the connection's own task -/

section Own

variable {c : ConnId} {task : SocketTask}

lemma receive_staged (h : Inv system) (htask : system.tasks c = some task)
    (hphase : task.phase = .reading) (hstaged : Staged (some task) stage) (frame : Frame)
    (nonce : Nonce) (serverTimestamp : UInt64) (now : Instant) :
    LogAdvances system
      (system.setTask c (task.receive crates frame nonce serverTimestamp now)) c stage := by
  apply logAdvances_nil rfl
  rw [setTask_self]
  cases hsession : task.session with
  | none =>
    have hstage := stage_of_no_session h htask hsession (by simp [hphase]) hstaged
    subst hstage
    refine staged_unauth (fun s hs => ?_)
    rw [receive_session, hsession] at hs
    cases hs
  | some s =>
    refine staged_task ?_ (receive_replying hphase (by simp [hsession]) _ _ _ _) ?_
    · intro hr
      rw [receive_registered] at hr
      refine hstaged.unregistered (fun t ht => ?_)
      cases ht
      exact hr
    · intro s' hs'
      rw [receive_session] at hs'
      exact hstaged.active task s' rfl hs' (by simp [hphase])

lemma handle_staged (h : Inv system) {message : ClientMessage} {serverTimestamp : UInt64}
    {s : Session} (htask : system.tasks c = some task)
    (hphase : task.phase = .handling message serverTimestamp) (hsession : task.session = some s)
    (hstaged : Staged (some task) stage) :
    LogAdvances system (system.handle c task s message serverTimestamp) c stage := by
  obtain ⟨-, hvalid, hroster, houtbound⟩ := handle_refines h htask hphase hsession
  have hs : system.roster c = some s := (roster_of_task htask).trans hsession
  have hstage := hstaged.active task s rfl hsession (by simp [hphase])
  subst hstage
  have hown : ∀ m, system.event (.handle c) ≠ .own c m := by
    intro m
    simp only [System.event, htask, Option.map_some, hphase]
    cases message <;> exact Event.noConfusion
  have hobs := observed_event h.tracks.distinct hvalid c
  rw [← hroster] at hobs
  obtain ⟨stage', haccepted, hstage'⟩ := stage_observed hs hobs (room_of_heard hown)
  refine ⟨_, stage', houtbound c, haccepted, ?_⟩
  have hregistered := (h.settled c task htask).2
  simp only [hphase] at hregistered
  rw [System.handle, setTask_self]
  refine staged_task ?_ (fun m => Phase.noConfusion) ?_
  · intro hr
    rw [hregistered.1] at hr
    cases hr
  · intro s' hs'
    exact hstage' s' ((roster_of_task (setTask_self system c _)).trans hs')

lemma register_staged (h : Inv system) {s : Session} {serverMessage : ServerMessage}
    (htask : system.tasks c = some task) (hphase : task.phase = .registering s serverMessage)
    (hstaged : Staged (some task) stage) :
    LogAdvances system (system.register c task s serverMessage) c stage := by
  have hsettled := (h.settled c task htask).2
  simp only [hphase] at hsettled
  have hstage := stage_of_no_session h htask hsettled.2.1 (by simp [hphase]) hstaged
  subst hstage
  by_cases htaken : (system.state.connections s.userUid).isSome
  · simp only [System.register, if_pos htaken]
    refine ⟨[.authFailure .invalidCredentials], .unauth, by simp [Outbound.send], rfl, ?_⟩
    rw [setTask_self]
    refine staged_unauth (fun s' hs' => ?_)
    rw [hsettled.2.1] at hs'
    cases hs'
  · simp only [System.register, if_neg htaken]
    apply logAdvances_nil rfl
    rw [setTask_self]
    exact staged_unauth (fun _ _ => ⟨serverMessage, rfl⟩)

lemma reply_staged (h : Inv system) {serverMessage : ServerMessage}
    (htask : system.tasks c = some task) (hphase : task.phase = .replying serverMessage)
    (hstaged : Staged (some task) stage) :
    LogAdvances system { system.setTask c { task with phase := .reading } with
      outbound := system.outbound.send c serverMessage } c stage := by
  have hstage := hstaged.replying task serverMessage rfl hphase
  subst hstage
  have hsettled := (h.settled c task htask).2
  simp only [hphase] at hsettled
  have hlog : system.outbound.send c serverMessage c = system.outbound c ++ [serverMessage] := by
    simp [Outbound.send]
  rcases hsettled with ⟨-, hnone, hprelude⟩ | ⟨hregistered, s, hsession, hroom, _, _, rfl⟩
  · refine ⟨_, .unauth, hlog, ?_, ?_⟩
    · rw [Execution.exec_singleton, outboundStep_prelude hprelude]
    · rw [setTask_self]
      refine staged_unauth (fun s' hs' => ?_)
      rw [hnone] at hs'
      cases hs'
  · refine ⟨_, .lobby s.userUid, hlog, rfl, ?_⟩
    rw [setTask_self]
    refine staged_task ?_ (fun m => Phase.noConfusion) ?_
    · intro hr
      rw [hregistered] at hr
      cases hr
    · intro s' hs'
      rw [hsession] at hs'
      cases hs'
      exact (Stage.of_lobby hroom).symm

lemma heard_logout_self (roster : Roster) (c : ConnId) : (Event.logout c).heard roster c = [] := by
  simp only [Event.heard]
  repeat' split
  all_goals first | rfl | simp_all

lemma disconnect_staged (h : Inv system) (htask : system.tasks c = some task)
    (hphase : task.phase = .leaving) (hstaged : Staged (some task) stage) :
    LogAdvances system (system.disconnect c task) c stage := by
  have houtbound := (disconnect_refines h htask hphase).outbound c
  rw [System.event, heard_logout_self, List.append_nil] at houtbound
  apply logAdvances_nil houtbound
  rw [disconnect_task]
  refine staged_task ?_ (fun m => Phase.noConfusion) (fun s hs => by cases hs)
  intro hr
  refine hstaged.unregistered (fun t ht => ?_)
  cases ht
  exact hr

lemma staged_own (h : Inv system) (hstep : system.step crates action = some system')
    (hstaged : Staged (system.tasks action.actor) stage) :
    LogAdvances system system' action.actor stage := by
  cases System.stepped_of_step hstep with
  | @accept c hfree =>
    simp only [Action.actor, hfree] at hstaged ⊢
    have hstage : stage = .unauth := hstaged.unregistered (fun t ht => by cases ht)
    subst hstage
    apply logAdvances_nil rfl
    rw [setTask_self]
    exact staged_unauth (fun s hs => by cases hs)
  | receive frame nonce serverTimestamp now htask hphase =>
    simp only [Action.actor, htask] at hstaged
    exact receive_staged h htask hphase hstaged frame nonce serverTimestamp now
  | handle htask hphase hsession =>
    simp only [Action.actor, htask] at hstaged
    exact handle_staged h htask hphase hsession hstaged
  | register htask hphase =>
    simp only [Action.actor, htask] at hstaged
    exact register_staged h htask hphase hstaged
  | reply htask hphase =>
    simp only [Action.actor, htask] at hstaged
    exact reply_staged h htask hphase hstaged
  | disconnect htask hphase =>
    simp only [Action.actor, htask] at hstaged
    exact disconnect_staged h htask hphase hstaged

end Own

end Steps

/-! ### Whole runs -/

/-- The log of every connection is accepted and has told what the task stands for. -/
lemma staged_of_run {crates : Crates} {actions : List Action} {system : System}
    (h : Execution.exec (System.step crates) System.default actions = some system) (c : ConnId) :
    ∃ stage, Execution.exec outboundStep .unauth (system.outbound c) = some stage ∧
      Staged (system.tasks c) stage := by
  refine Execution.exec_induction (System.step crates)
    (motive := fun _ system => ∃ stage,
      Execution.exec outboundStep .unauth (system.outbound c) = some stage ∧
        Staged (system.tasks c) stage) ?_ ?_ actions system h
  · exact ⟨.unauth, rfl, fun _ => rfl, fun _ _ _ _ => rfl, fun t s ht => by cases ht⟩
  · rintro actions system action system' hactions ⟨stage, haccepted, hstaged⟩ hstep
    have hinv := inv_of_reachable ⟨actions, hactions⟩
    have hadvances : LogAdvances system system' c stage := by
      by_cases hactor : action.actor = c
      · subst hactor
        exact staged_own hinv hstep hstaged
      · exact staged_other hinv hstep hactor hstaged
    obtain ⟨heard, stage', hlog, hheard, hstaged'⟩ := hadvances
    refine ⟨stage', ?_, hstaged'⟩
    rw [hlog]
    exact Execution.exec_append_of _ haccepted hheard

/-- Nothing leads back to the stage before the login. -/
lemma prelude_of_unauth {log : List ServerMessage}
    (h : Execution.exec outboundStep .unauth log = some .unauth) : ∀ m ∈ log, m.IsPrelude := by
  refine Execution.exec_induction outboundStep
    (motive := fun log stage => stage = Stage.unauth → ∀ m ∈ log, m.IsPrelude)
    (fun _ m hm => by cases hm) ?_ log .unauth h rfl
  intro log stage m stage' _ ih hstep hstage' m' hm'
  subst hstage'
  have hback : stage = .unauth ∧ m.IsPrelude := by
    unfold outboundStep at hstep
    repeat' split at hstep
    all_goals cases hstep
    all_goals exact ⟨rfl, trivial⟩
  rcases List.mem_append.mp hm' with hm' | hm'
  · exact ih hback.1 m' hm'
  · rw [List.mem_singleton] at hm'
    rw [hm']
    exact hback.2

/-- The login of `c` is about to be refused, since its identity is connected. -/
def Refused (system : System) (c : ConnId) : Prop :=
  ∃ task session serverMessage, system.tasks c = some task ∧
    task.phase = .registering session serverMessage ∧
    (system.state.connections session.userUid).isSome

/-- The task of `c` has left its loop without ever having been registered. -/
def Stopped (system : System) (c : ConnId) : Prop :=
  ∃ task, system.tasks c = some task ∧ task.isRegistered = false ∧
    (task.phase = .leaving ∨ task.phase = .closed)

lemma Refused.stopped {crates : Crates} {system system' : System} {c : ConnId} (hinv : Inv system)
    (h : Refused system c) (hstep : system.step crates (.register c) = some system') :
    Stopped system' c := by
  obtain ⟨task, session, serverMessage, htask, hphase, htaken⟩ := h
  cases System.stepped_of_step hstep with
  | register htask' hphase' =>
    rw [htask] at htask'
    cases htask'
    rw [hphase] at hphase'
    cases hphase'
    have hsettled := (hinv.settled c task htask).2
    simp only [hphase] at hsettled
    simp only [System.register, if_pos htaken]
    exact ⟨_, setTask_self .., hsettled.1, Or.inl rfl⟩

lemma Stopped.dormant {system : System} {c : ConnId} (h : Stopped system c) :
    ∃ task, system.tasks c = some task ∧ Dormant False task := by
  obtain ⟨task, htask, hregistered, hphase⟩ := h
  refine ⟨task, htask, hregistered, ?_⟩
  rcases hphase with he | he
  · rw [he]
    trivial
  · rw [he]
    trivial

/-- In every run the log of every connection is accepted. It has told the client what its session
is, or its login is about to be told, and it tells a connection whose login is refused nothing
but challenges and failures. -/
theorem outbound_protocol {crates : Crates} {actions : List Action} {system : System}
    (h : Execution.exec (System.step crates) System.default actions = some system) (c : ConnId) :
    ∃ stage, Execution.exec outboundStep .unauth (system.outbound c) = some stage ∧
      (∀ s, system.Registered c s → stage = Stage.of s ∨
        stage = .unauth ∧ s.activeVoiceRoomId = none ∧ ∃ task assignedName serverName,
          system.tasks c = some task ∧
          task.phase = .replying (.authSuccess s.userUid assignedName serverName)) ∧
      ∀ before after start, actions = before ++ .register c :: after →
        Execution.exec (System.step crates) System.default before = some start →
        Refused start c → ∀ m ∈ system.outbound c, m.IsPrelude := by
  obtain ⟨stage, haccepted, hstaged⟩ := staged_of_run h c
  refine ⟨stage, haccepted, ?_, ?_⟩
  · intro s hs
    obtain ⟨task, htask, -, -, hsession⟩ := hs
    have hsettled := ((inv_of_reachable ⟨actions, h⟩).settled c task htask).2
    by_cases hreplying : ∃ m, task.phase = .replying m
    · obtain ⟨m, hm⟩ := hreplying
      simp only [hm, hsession, reduceCtorEq, false_and, and_false, false_or] at hsettled
      obtain ⟨-, t, ht, hroom, assignedName, serverName, rfl⟩ := hsettled
      cases ht
      exact Or.inr ⟨hstaged.replying task _ htask hm, hroom, task, assignedName, serverName, htask, hm⟩
    · exact Or.inl (hstaged.active task s htask hsession (fun m hm => hreplying ⟨m, hm⟩))
  · rintro before after start rfl hstart hrefused
    rw [Execution.exec_append, hstart, Option.bind_some, Execution.exec_cons] at h
    obtain ⟨refused, hstep, hafter⟩ := Option.bind_eq_some_iff.mp h
    obtain ⟨left, hleft, hdormant⟩ :=
      (hrefused.stopped (inv_of_reachable ⟨before, hstart⟩) hstep).dormant
    obtain ⟨task, htask, hdormant'⟩ := hdormant.exec hleft hafter False.elim
    have hstage : stage = .unauth := hstaged.unregistered (fun t ht => by
      rw [htask] at ht
      cases ht
      exact hdormant'.isRegistered)
    subst hstage
    exact prelude_of_unauth haccepted

theorem outbound_protocol_meeting :
    ∃ stage, Execution.exec outboundStep .unauth
        ((Reference.final Reference.meeting).outbound 1) = some stage ∧
      (∀ s, (Reference.final Reference.meeting).Registered 1 s → stage = Stage.of s ∨
        stage = .unauth ∧ s.activeVoiceRoomId = none ∧ ∃ task assignedName serverName,
          (Reference.final Reference.meeting).tasks 1 = some task ∧
          task.phase = .replying (.authSuccess s.userUid assignedName serverName)) ∧
      ∀ before after start, Reference.meeting = before ++ .register 1 :: after →
        Execution.exec (System.step Reference.crates) System.default before = some start →
        Refused start 1 → ∀ m ∈ (Reference.final Reference.meeting).outbound 1, m.IsPrelude :=
  outbound_protocol Reference.meeting_runs 1

end VTNet.Proofs
