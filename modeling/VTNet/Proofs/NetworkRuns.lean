import VTNet.Signaling
import VTNet.Proofs.RoomFilter

/-!
# Runs of the server with its clients

In every run the server is one that its own runs lead to, the session of a connection is that of its
client, and a client whose ref is up to date is in the room that its log confirms.
-/

namespace VTNet.Proofs

open ConnectionAuthenticator

/-! ### One user for each connection -/

/-- The task of a connection has heard of no user but `uid`. -/
structure SocketTask.Of (uid : Option UserUid) (task : SocketTask) : Prop where
  challenged : ∀ challenge, task.authenticator.state = .challengeIssued challenge →
    uid = some challenge.clientUid
  registering : ∀ session serverMessage, task.phase = .registering session serverMessage →
    uid = some session.userUid
  session : ∀ session, task.session = some session → uid = some session.userUid

section Tasks

variable {crates : Crates} {uid : Option UserUid} {task : SocketTask}

/-- A phase that registers nobody says nothing about the user. -/
lemma SocketTask.Of.phase (h : SocketTask.Of uid task) {phase : Phase}
    (hphase : ∀ session serverMessage, phase ≠ .registering session serverMessage) :
    SocketTask.Of uid { task with phase } :=
  ⟨h.challenged, fun session serverMessage he => absurd he (hphase session serverMessage), h.session⟩

lemma SocketTask.Of.receive (h : SocketTask.Of uid task) (hsettled : SocketTask.Settled task)
    {frame : Frame} (hidentifies : ∀ payload protocolVersion clientUid, frame = .text payload →
      decodeClientMessage crates payload = .ok (.authIdentify protocolVersion clientUid) →
      uid = some clientUid) (nonce : Nonce) (serverTimestamp : UInt64) (now : Instant) :
    SocketTask.Of uid (task.receive crates frame nonce serverTimestamp now) := by
  unfold SocketTask.receive
  cases frame with
  | other => exact h
  | close => exact h.phase (fun _ _ => Phase.noConfusion)
  | failed => exact h.phase (fun _ _ => Phase.noConfusion)
  | text payload =>
    dsimp only
    split
    · exact h.phase (fun _ _ => Phase.noConfusion)
    · rename_i message hdecode
      split
      · exact h.phase (fun _ _ => Phase.noConfusion)
      · have hnext : Next crates task.authenticator nonce serverTimestamp now message
          (handleMessage crates task.authenticator message nonce serverTimestamp now).2 :=
          handleMessage_next
        generalize handleMessage crates task.authenticator message nonce serverTimestamp now =
          result at hnext
        obtain ⟨reply, auth⟩ := result
        dsimp only at hnext ⊢
        cases hnext with
        | same =>
          rw [take_of_idle hsettled.1]
          exact h.phase (fun _ _ => Phase.noConfusion)
        | issued clientUid idle =>
          rw [take_of_idle (fun session hs => by cases hs)]
          refine ⟨?_, fun session serverMessage he => (by cases he), h.session⟩
          intro challenge he
          cases he
          exact hidentifies payload _ clientUid rfl hdecode
        | accepted pending accepts =>
          rw [take_of_authenticated rfl]
          refine ⟨fun challenge he => (by cases he), ?_, h.session⟩
          intro session serverMessage he
          cases he
          exact h.challenged _ pending
        | rejected pending =>
          rw [take_of_idle (fun session hs => by cases hs)]
          exact ⟨fun challenge he => (by cases he), fun session serverMessage he => (by cases he),
            h.session⟩

lemma joinVoiceRoom_userUid {rooms rooms' : RoomRegistry} {session session' : Session}
    {roomId : Uuid} {evaluator : PermissionEvaluator} {transition : VoiceRoomTransition}
    (h : rooms.joinVoiceRoom session roomId evaluator = .ok (transition, rooms', session')) :
    session'.userUid = session.userUid := by
  unfold RoomRegistry.joinVoiceRoom at h
  split at h
  · cases h
  · split at h
    · split_ifs at h <;> (cases h; rfl)
    · cases h
      rfl

lemma leaveVoiceRoom_userUid (rooms : RoomRegistry) (session : Session) (roomId : Uuid) :
    (rooms.leaveVoiceRoom session roomId).2.2.userUid = session.userUid := by
  unfold RoomRegistry.leaveVoiceRoom
  split <;> rfl

/-- A message moves a session between rooms, not between users. -/
lemma handleAuthenticatedMessage_userUid (state : ServerState) (outbound : Outbound)
    (session : Session) (message : ClientMessage) (serverTimestamp : UInt64) :
    (handleAuthenticatedMessage state outbound session message serverTimestamp).2.2.userUid =
      session.userUid := by
  cases message with
  | joinVoiceRoom roomId =>
    simp only [handleAuthenticatedMessage]
    split
    · rfl
    · rename_i hjoin
      exact joinVoiceRoom_userUid hjoin
  | leaveVoiceRoom roomId =>
    have huid := leaveVoiceRoom_userUid state.rooms session roomId
    simp only [handleAuthenticatedMessage]
    split <;> rename_i hleave <;> rw [hleave] at huid <;> exact huid
  | _ =>
    simp only [handleAuthenticatedMessage]
    split <;> rfl

lemma SocketTask.Of.handle (h : SocketTask.Of uid task) {session : Session}
    (hsession : task.session = some session) (state : ServerState) (outbound : Outbound)
    (message : ClientMessage) (serverTimestamp : UInt64) :
    SocketTask.Of uid { task with
      session :=
        some (handleAuthenticatedMessage state outbound session message serverTimestamp).2.2
      phase := .reading } := by
  refine ⟨h.challenged, fun _ _ he => Phase.noConfusion he, ?_⟩
  rintro session' he
  cases he
  rw [handleAuthenticatedMessage_userUid]
  exact h.session session hsession

lemma of_setTask {system : System} {uids : ConnId → Option UserUid}
    (h : ∀ d t, system.tasks d = some t → SocketTask.Of (uids d) t) {c : ConnId}
    (htask : SocketTask.Of (uids c) task) :
    ∀ d t, (system.setTask c task).tasks d = some t → SocketTask.Of (uids d) t := by
  intro d t ht
  by_cases hdc : d = c
  · subst hdc
    rw [setTask_self, Option.some.injEq] at ht
    rwa [← ht]
  · simp only [System.setTask, Function.update_of_ne hdc] at ht
    exact h d t ht

/-- No step of the server lets a task hear of another user, if no frame does. -/
lemma of_step {system system' : System} {action : Action} (hinv : Inv system)
    {uids : ConnId → Option UserUid}
    (h : ∀ d t, system.tasks d = some t → SocketTask.Of (uids d) t)
    (hidentifies : ∀ c payload nonce serverTimestamp now protocolVersion clientUid,
      action = .receive c (.text payload) nonce serverTimestamp now →
      decodeClientMessage crates payload = .ok (.authIdentify protocolVersion clientUid) →
      uids c = some clientUid)
    (hstep : system.step crates action = some system') :
    ∀ d t, system'.tasks d = some t → SocketTask.Of (uids d) t := by
  cases System.stepped_of_step hstep with
  | accept free =>
    exact of_setTask h ⟨fun _ he => (by cases he), fun _ _ he => (by cases he),
      fun _ he => (by cases he)⟩
  | @receive c task frame nonce serverTimestamp now running reading =>
    refine of_setTask h ((h c task running).receive (hinv.settled c task running) ?_ _ _ _)
    rintro payload protocolVersion clientUid rfl hdecode
    exact hidentifies c payload nonce serverTimestamp now protocolVersion clientUid rfl hdecode
  | @handle c task message serverTimestamp session running handling known =>
    exact of_setTask h ((h c task running).handle known _ _ message serverTimestamp)
  | @register c task session serverMessage running registering =>
    have hof := h c task running
    by_cases htaken : (system.state.connections session.userUid).isSome
    · simp only [System.register, if_pos htaken]
      exact of_setTask h (hof.phase (fun _ _ => Phase.noConfusion))
    · simp only [System.register, if_neg htaken]
      refine of_setTask h ⟨hof.challenged, fun _ _ he => (by cases he), ?_⟩
      rintro session' he
      cases he
      exact hof.registering _ serverMessage registering
  | @reply c task serverMessage running replying =>
    exact of_setTask h ((h c task running).phase (fun _ _ => Phase.noConfusion))
  | @disconnect c task running leaving =>
    have hclosed : SocketTask.Of (uids c) { task with session := none, phase := .closed } :=
      ⟨(h c task running).challenged, fun _ _ he => (by cases he), fun _ he => (by cases he)⟩
    have hall := of_setTask h hclosed
    intro d t ht
    apply hall d t
    rw [← ht, System.disconnect]
    split <;> rfl

end Tasks

/-! ### Clients and their tasks -/

/-- Every connection has one client, which identifies itself as its user, and a task that knows
that user only. -/
structure Identified (network : Network) : Prop where
  paired : ∀ c, network.clients c = none ↔ network.system.tasks c = none
  known : ∀ c client, network.clients c = some client → ∃ uid, client.app.identity = some uid
  identifies : ∀ c client protocolVersion clientUid, network.clients c = some client →
    .authIdentify protocolVersion clientUid ∈ client.outgoing → network.uid c = some clientUid
  of : ∀ c task, network.system.tasks c = some task → SocketTask.Of (network.uid c) task

section Steps

variable {crates : Crates} {sign : ConnId → String → UInt64 → Except String String}
  {network network' : Network} {action : NetworkAction} {c : ConnId}

lemma uid_of_client {client : Client} (h : network.clients c = some client) :
    network.uid c = client.app.identity := by
  simp [Network.uid, h]

lemma clients_setClient (client : Client) : (network.setClient c client).clients c = some client :=
  Function.update_self ..

lemma client_of_setClient {client client' : Client} {d : ConnId}
    (h : (network.setClient c client).clients d = some client') :
    d = c ∧ client' = client ∨ d ≠ c ∧ network.clients d = some client' := by
  by_cases hdc : d = c
  · subst hdc
    rw [clients_setClient, Option.some.injEq] at h
    exact Or.inl ⟨rfl, h.symm⟩
  · simp only [Network.setClient, Function.update_of_ne hdc] at h
    exact Or.inr ⟨hdc, h⟩

lemma uid_setClient {client : Client} (h : client.app.identity = network.uid c) :
    (network.setClient c client).uid = network.uid := by
  funext d
  by_cases hdc : d = c
  · subst hdc
    rw [uid_of_client (clients_setClient client), h]
  · simp [Network.uid, Network.setClient, hdc]

lemma app_hear (sign : String → UInt64 → Except String String) (sdp : String) (client : Client)
    (heard : ServerMessage) : (client.hear sign sdp heard).1.app =
      (((client.app.handleServerMessage sign sdp heard).map Prod.fst).getD client.app).settle := by
  unfold Client.hear
  cases client.app.handleServerMessage sign sdp heard <;> rfl

/-- A client keeps its user. -/
lemma identity_hear (sign : String → UInt64 → Except String String) (sdp : String)
    (client : Client) (heard : ServerMessage) :
    (client.hear sign sdp heard).1.app.identity = client.app.identity := by
  rw [app_hear]
  exact (app_after_message sign sdp client.app heard).1

lemma outgoing_hear (sign : String → UInt64 → Except String String) (sdp : String)
    (client : Client) (heard : ServerMessage) :
    (client.hear sign sdp heard).1.outgoing =
      client.outgoing ++ (client.hear sign sdp heard).2 := rfl

/-- A step of the server that accepts nobody leaves the connections that there are. -/
lemma tasks_none_iff {system system' : System} {action : Action}
    (hstep : system.step crates action = some system') (haction : ∀ d, action ≠ .accept d)
    (d : ConnId) : system'.tasks d = none ↔ system.tasks d = none := by
  have hstepped := System.stepped_of_step hstep
  by_cases hd : d = action.actor
  · cases hstepped with
    | accept => exact absurd rfl (haction _)
    | receive _ _ _ _ running =>
      simp only [Action.actor] at hd
      subst hd
      simp [setTask_self, running]
    | handle running =>
      simp only [Action.actor] at hd
      subst hd
      simp [System.handle, setTask_self, running]
    | register running =>
      simp only [Action.actor] at hd
      subst hd
      unfold System.register
      split <;> simp [setTask_self, running]
    | reply running =>
      simp only [Action.actor] at hd
      subst hd
      simp [setTask_self, running]
    | disconnect running =>
      simp only [Action.actor] at hd
      subst hd
      simp [disconnect_task, running]
  · rw [hstepped.task_other hd]

/-- What has arrived was on its way. -/
lemma outgoing_deliver {client client' : Client} {frame : Frame}
    (h : client.deliver crates frame = some client') :
    client'.app = client.app ∧ client'.handled = client.handled ∧
      ((client'.outgoing = client.outgoing ∧ ∀ payload, frame ≠ .text payload) ∨
        ∃ payload message, frame = .text payload ∧
          decodeClientMessage crates payload = .ok message ∧
          client.outgoing = message :: client'.outgoing) := by
  cases frame with
  | text payload =>
    simp only [Client.deliver] at h
    split at h
    · cases h
    · rename_i message outgoing houtgoing
      split at h
      · rename_i decoded hdecode
        split at h
        · rename_i hsame
          cases h
          exact ⟨rfl, rfl, Or.inr ⟨payload, decoded, rfl, hdecode, by rw [houtgoing, hsame]⟩⟩
        · cases h
      · cases h
  | _ =>
    cases h
    exact ⟨rfl, rfl, Or.inl ⟨rfl, fun _ => Frame.noConfusion⟩⟩

/-- A client that keeps its user and sends no new identity. -/
lemma Identified.setClient (h : Identified network) {client client' : Client}
    (hclient : network.clients c = some client) (hidentity : client'.app.identity = client.app.identity)
    (houtgoing : ∀ protocolVersion clientUid, .authIdentify protocolVersion clientUid ∈
      client'.outgoing → .authIdentify protocolVersion clientUid ∈ client.outgoing) :
    Identified (network.setClient c client') := by
  have huid : (network.setClient c client').uid = network.uid :=
    uid_setClient (hidentity.trans (uid_of_client hclient).symm)
  refine ⟨?_, ?_, ?_, ?_⟩
  · intro d
    refine Iff.trans ?_ (h.paired d)
    by_cases hdc : d = c
    · subst hdc
      simp [Network.setClient, hclient]
    · simp [Network.setClient, hdc]
  · intro d client'' hd
    rcases client_of_setClient hd with ⟨-, rfl⟩ | ⟨-, hd⟩
    · rw [hidentity]
      exact h.known c client hclient
    · exact h.known d client'' hd
  · intro d client'' protocolVersion clientUid hd hmem
    rw [huid]
    rcases client_of_setClient hd with ⟨rfl, rfl⟩ | ⟨-, hd⟩
    · exact h.identifies d client _ _ hclient (houtgoing _ _ hmem)
    · exact h.identifies d client'' _ _ hd hmem
  · rw [huid]
    exact h.of

/-- A step of the server under which no client speaks. -/
lemma Identified.serve (h : Identified network) (hinv : Inv network.system) {served : Action}
    {system : System} (hstep : network.system.step crates served = some system)
    (hserved : ∀ d, served ≠ .accept d)
    (hidentifies : ∀ d payload nonce serverTimestamp now protocolVersion clientUid,
      served = .receive d (.text payload) nonce serverTimestamp now →
      decodeClientMessage crates payload = .ok (.authIdentify protocolVersion clientUid) →
      network.uid d = some clientUid) :
    Identified { network with system } :=
  ⟨fun d => (h.paired d).trans (tasks_none_iff hstep hserved d).symm, h.known, h.identifies,
    of_step hinv h.of hidentifies hstep⟩

lemma Identified.connect (h : Identified network) (userUid : UserUid) {system : System}
    (hstep : network.system.step crates (.accept c) = some system) :
    Identified { network.setClient c (Client.connected userUid) with system } := by
  cases System.stepped_of_step hstep with
  | accept free =>
    have hother : ∀ d, d ≠ c → (network.setClient c (Client.connected userUid)).uid d =
        network.uid d := by
      intro d hdc
      simp [Network.uid, Network.setClient, hdc]
    refine ⟨?_, ?_, ?_, ?_⟩
    · intro d
      by_cases hdc : d = c
      · subst hdc
        simp [Network.setClient, System.setTask]
      · simp only [Network.setClient, System.setTask, Function.update_of_ne hdc]
        exact h.paired d
    · intro d client hd
      rcases client_of_setClient hd with ⟨-, rfl⟩ | ⟨-, hd⟩
      · exact ⟨userUid, rfl⟩
      · exact h.known d client hd
    · intro d client protocolVersion clientUid hd hmem
      rcases client_of_setClient hd with ⟨rfl, rfl⟩ | ⟨hdc, hd⟩
      · simp only [Client.connected, List.mem_singleton] at hmem
        cases hmem
        exact uid_of_client (clients_setClient _)
      · exact (hother d hdc).trans (h.identifies d client _ _ hd hmem)
    · intro d task hd
      by_cases hdc : d = c
      · subst hdc
        rw [setTask_self, Option.some.injEq] at hd
        subst hd
        exact ⟨fun _ he => (by cases he), fun _ _ he => (by cases he), fun _ he => (by cases he)⟩
      · simp only [System.setTask, Function.update_of_ne hdc] at hd
        have hof := h.of d task hd
        rw [← hother d hdc] at hof
        exact hof

lemma identified_step (hinv : Inv network.system) (h : Identified network)
    (hstep : network.step crates sign action = some network') : Identified network' := by
  cases Network.stepped_of_step hstep with
  | connect userUid accepted => exact h.connect userUid accepted
  | @act c client message running spontaneous =>
    refine h.setClient running rfl (fun protocolVersion clientUid hmem => ?_)
    rcases List.mem_append.mp hmem with hmem | hmem
    · exact hmem
    · rw [List.mem_singleton] at hmem
      subst hmem
      cases spontaneous
  | @deliver c client client' frame nonce serverTimestamp now system running sent received =>
    obtain ⟨happ, -, hsent⟩ := outgoing_deliver sent
    have hclient : Identified (network.setClient c client') := by
      refine h.setClient running (by rw [happ]) (fun protocolVersion clientUid hmem => ?_)
      rcases hsent with ⟨hsame, -⟩ | ⟨payload, message, -, -, hsplit⟩
      · rwa [← hsame]
      · rw [hsplit]
        exact List.mem_cons_of_mem message hmem
    have huid : (network.setClient c client').uid c = network.uid c := by
      rw [uid_setClient (by rw [happ, uid_of_client running])]
    refine hclient.serve hinv received (fun d => Action.noConfusion) ?_
    intro d payload nonce' serverTimestamp' now' protocolVersion clientUid hreceive hdecode
    cases hreceive
    rcases hsent with ⟨-, hframe⟩ | ⟨payload', message, hframe, hdecode', hsplit⟩
    · exact absurd rfl (hframe payload)
    · cases hframe
      rw [hdecode] at hdecode'
      cases hdecode'
      rw [huid]
      exact h.identifies c client _ _ running (by rw [hsplit]; exact List.mem_cons_self)
  | serve served internal =>
    apply h.serve hinv served
    · rintro d rfl
      cases internal
    · rintro d payload nonce serverTimestamp now protocolVersion clientUid rfl
      cases internal
  | @hear c client heard sdp running next fresh =>
    have hclient : Identified (network.setClient c (client.hear (sign c) sdp heard).1) := by
      refine h.setClient running (identity_hear (sign c) sdp client heard) ?_
      intro protocolVersion clientUid hmem
      rw [outgoing_hear, List.mem_append] at hmem
      have hsends := client.sends_of_hear (sign c) sdp heard
      rcases hmem with hmem | hmem
      · exact hmem
      · generalize (client.hear (sign c) sdp heard).2 = sent at hmem hsends
        cases hsends <;> simp at hmem
    exact ⟨hclient.paired, hclient.known, hclient.identifies, hclient.of⟩

end Steps

/-! ### Whole runs -/

/-- The states of the server and its clients from their start on, under every interleaving. -/
abbrev ReachableNetwork (crates : Crates) (sign : ConnId → String → UInt64 → Except String String)
    (network : Network) : Prop :=
  Execution.Reachable (Network.step crates sign) Network.start network

section Runs

variable {crates : Crates} {sign : ConnId → String → UInt64 → Except String String}
  {network network' : Network} {action : NetworkAction}

/-- A step of the network is a step of the server or leaves the server alone. -/
lemma system_of_step (hstep : network.step crates sign action = some network') :
    network'.system = network.system ∨
      ∃ served, network.system.step crates served = some network'.system := by
  cases Network.stepped_of_step hstep with
  | connect userUid accepted => exact Or.inr ⟨_, accepted⟩
  | act => exact Or.inl rfl
  | deliver running sent received => exact Or.inr ⟨_, received⟩
  | serve served internal => exact Or.inr ⟨_, served⟩
  | hear => exact Or.inl rfl

/-- Clients lead the server nowhere where its own runs do not lead. -/
theorem reachable_system (h : ReachableNetwork crates sign network) :
    Reachable crates network.system := by
  obtain ⟨actions, hactions⟩ := h
  refine Execution.exec_induction (Network.step crates sign)
    (motive := fun _ network => Reachable crates network.system)
    (Execution.Reachable.refl _ _) ?_ actions network hactions
  intro actions network action network' _ hreachable hstep
  rcases system_of_step hstep with hsame | ⟨served, hserved⟩
  · rw [hsame]
    exact hreachable
  · exact hreachable.tail hserved

lemma inv_of_network (h : ReachableNetwork crates sign network) : Inv network.system :=
  inv_of_reachable (reachable_system h)

theorem identified_of_reachable (h : ReachableNetwork crates sign network) :
    Identified network := by
  refine Execution.invariant_of_reachable_step ?_ ?_ h
  · exact ⟨fun c => ⟨fun _ => rfl, fun _ => rfl⟩, fun c client hc => (by cases hc),
      fun c client _ _ hc => (by cases hc), fun c task hc => (by cases hc)⟩
  · exact fun network action network' hnetwork h hstep =>
      identified_step (inv_of_network hnetwork) h hstep

/-- The session of a connection is that of its user. -/
lemma uid_of_roster (h : ReachableNetwork crates sign network) {c : ConnId} {s : Session}
    (hs : network.system.roster c = some s) : network.uid c = some s.userUid := by
  obtain ⟨task, htask, hsession⟩ := Option.bind_eq_some_iff.mp hs
  exact ((identified_of_reachable h).of c task htask).session s hsession

/-- What a connection hears in a step of the network. -/
lemma observed_network (h : ReachableNetwork crates sign network)
    (hstep : network.step crates sign action = some network') (c : ConnId) :
    ∃ heard, network'.system.outbound c = network.system.outbound c ++ heard ∧
      Observed network.system.roster network'.system.roster c heard := by
  rcases system_of_step hstep with hsame | ⟨served, hserved⟩
  · rw [hsame]
    exact ⟨[], (List.append_nil _).symm, observed_silent _ c⟩
  · exact observed_step (inv_of_network h) hserved c

/-- An entry of a log has been there, or is all that its connection hears of the step. -/
lemma entry_of_step (h : ReachableNetwork crates sign network)
    (hstep : network.step crates sign action = some network') {c : ConnId} {i : ℕ}
    {m : ServerMessage} (hm : (network'.system.outbound c)[i]? = some m) :
    (network.system.outbound c)[i]? = some m ∨ i = (network.system.outbound c).length ∧
      Observed network.system.roster network'.system.roster c [m] := by
  obtain ⟨heard, hlog, hobs⟩ := observed_network h hstep c
  have hlength := Observed.length_le hobs
  rw [hlog] at hm
  by_cases hi : i < (network.system.outbound c).length
  · rw [List.getElem?_append_left hi] at hm
    exact Or.inl hm
  · rw [List.getElem?_append_right (Nat.le_of_not_lt hi)] at hm
    have hlt := (List.getElem?_eq_some_iff.mp hm).1
    rw [Observed.eq_of_mem hobs (List.mem_of_getElem? hm)] at hobs
    exact Or.inr ⟨by omega, hobs⟩

lemma heard_of_step (h : ReachableNetwork crates sign network)
    (hstep : network.step crates sign action = some network') {c : ConnId} {m : ServerMessage}
    (hm : m ∈ network'.system.outbound c) : m ∈ network.system.outbound c ∨
      Observed network.system.roster network'.system.roster c [m] := by
  obtain ⟨i, hi⟩ := List.mem_iff_getElem?.mp hm
  rcases entry_of_step h hstep hi with hold | ⟨-, hobs⟩
  · exact Or.inl (List.mem_of_getElem? hold)
  · exact Or.inr hobs

lemma entry_grows (h : ReachableNetwork crates sign network)
    (hstep : network.step crates sign action = some network') {c : ConnId} {i : ℕ}
    {m : ServerMessage} (hm : (network.system.outbound c)[i]? = some m) :
    (network'.system.outbound c)[i]? = some m := by
  obtain ⟨heard, hlog, -⟩ := observed_network h hstep c
  rw [hlog, List.getElem?_append_left (List.getElem?_eq_some_iff.mp hm).1, hm]

end Runs

end VTNet.Proofs
