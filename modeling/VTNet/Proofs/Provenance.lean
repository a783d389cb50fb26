import VTNet.Proofs.NetworkRuns

/-!
# Where session descriptions come from

Every description on its way, and every description that the server has forwarded, has been made
by the client of the connection it is said to come from, for the user it is sent to. No
description is forwarded twice.
-/

namespace VTNet.Proofs

section Steps

variable {crates : Crates} {sign : ConnId → String → UInt64 → Except String String}
  {network network' : Network} {action : NetworkAction}

/-! ### Clients and their logs -/

/-- Where the client of a connection can come from in a step. -/
lemma client_of_step (hstep : network.step crates sign action = some network') {d : ConnId}
    {client' : Client} (hclient' : network'.clients d = some client') :
    (∃ userUid, client' = Client.connected userUid) ∨
      (∃ client, network.clients d = some client ∧ client'.app = client.app ∧
        client'.handled = client.handled) ∨
      ∃ client heard sdp, network.clients d = some client ∧
        (network.system.outbound d)[client.handled]? = some heard ∧
        client' = (client.hear (sign d) sdp heard).1 ∧ network'.system = network.system ∧
        network'.made = network.made ++ (client.hear (sign d) sdp heard).2.filterMap
          (ClientMessage.description d client.handled heard) := by
  cases Network.stepped_of_step hstep with
  | connect userUid accepted =>
    rcases client_of_setClient hclient' with ⟨-, rfl⟩ | ⟨-, hother⟩
    · exact Or.inl ⟨userUid, rfl⟩
    · exact Or.inr (Or.inl ⟨client', hother, rfl, rfl⟩)
  | act running spontaneous =>
    rcases client_of_setClient hclient' with ⟨rfl, rfl⟩ | ⟨-, hother⟩
    · exact Or.inr (Or.inl ⟨_, running, rfl, rfl⟩)
    · exact Or.inr (Or.inl ⟨client', hother, rfl, rfl⟩)
  | deliver running sent received =>
    obtain ⟨happ, hhandled, -⟩ := outgoing_deliver sent
    rcases client_of_setClient hclient' with ⟨rfl, rfl⟩ | ⟨-, hother⟩
    · exact Or.inr (Or.inl ⟨_, running, happ, hhandled⟩)
    · exact Or.inr (Or.inl ⟨client', hother, rfl, rfl⟩)
  | serve served internal => exact Or.inr (Or.inl ⟨client', hclient', rfl, rfl⟩)
  | hear running next fresh =>
    rcases client_of_setClient hclient' with ⟨rfl, rfl⟩ | ⟨-, hother⟩
    · exact Or.inr (Or.inr ⟨_, _, _, running, next, rfl, rfl, rfl⟩)
    · exact Or.inr (Or.inl ⟨client', hother, rfl, rfl⟩)

/-- A client has handled the start of its log, and is in the room which that confirms. -/
structure Follows (log : List ServerMessage) (client : Client) : Prop where
  handled_le : client.handled ≤ log.length
  state : client.app.activeRoomId = bracketRoom (log.take client.handled)
  ref : client.app.activeRoomRef = client.app.activeRoomId

lemma Follows.active {log : List ServerMessage} {client : Client} (h : Follows log client) :
    client.app.activeRoomRef = bracketRoom (log.take client.handled) :=
  h.ref.trans h.state

lemma Follows.grow {log : List ServerMessage} {client client' : Client} (h : Follows log client)
    (happ : client'.app = client.app) (hhandled : client'.handled = client.handled)
    (heard : List ServerMessage) : Follows (log ++ heard) client' := by
  refine ⟨?_, ?_, ?_⟩
  · rw [hhandled, List.length_append]
    exact Nat.le_add_right_of_le h.handled_le
  · rw [happ, hhandled, List.take_append_of_le_length h.handled_le]
    exact h.state
  · rw [happ]
    exact h.ref

lemma Follows.hear {log : List ServerMessage} {client : Client} (h : Follows log client)
    {heard : ServerMessage} (hnext : log[client.handled]? = some heard)
    (sign : String → UInt64 → Except String String) (sdp : String) :
    Follows log (client.hear sign sdp heard).1 := by
  have hroom := (app_after_message sign sdp client.app heard).2.2
  have hlt := (List.getElem?_eq_some_iff.mp hnext).1
  have htake : log.take (client.handled + 1) = log.take client.handled ++ [heard] := by
    rw [List.take_add_one, hnext]
    rfl
  refine ⟨hlt, ?_, ?_⟩
  · rw [app_hear]
    have hhandled : (client.hear sign sdp heard).1.handled = client.handled + 1 := rfl
    rw [hhandled, htake, bracketRoom_concat, ← h.state]
    exact hroom
  · rw [app_hear]
    rfl

def AllFollow (network : Network) : Prop :=
  ∀ c client, network.clients c = some client → Follows (network.system.outbound c) client

theorem follows_of_reachable (h : ReachableNetwork crates sign network) : AllFollow network := by
  refine Execution.invariant_of_reachable_step (fun c client hc => by cases hc) ?_ h
  intro network action network' hnetwork h hstep d client' hclient'
  obtain ⟨heard, hlog, -⟩ := observed_network hnetwork hstep d
  rcases client_of_step hstep hclient' with ⟨userUid, rfl⟩ | ⟨client, hclient, happ, hhandled⟩ |
    ⟨client, entry, sdp, hclient, hnext, rfl, hsystem, -⟩
  · exact ⟨Nat.zero_le _, rfl, rfl⟩
  · rw [hlog]
    exact (h d client hclient).grow happ hhandled heard
  · rw [hsystem]
    exact (h d client hclient).hear hnext (sign d) sdp

/-! ### Descriptions and their entries -/

/-- The entry of a log on which such a description is made. -/
def Description.MadeOn (r : Description) (m : ServerMessage) : Prop :=
  match r.answers with
  | none => ∃ peerName, m = .peerJoinedRoom r.roomId r.peerUid peerName
  | some offer => m = .forwardWebRtcSdp r.roomId r.peerUid .offer offer

/-- A client makes one description at most on an entry, and sends it. -/
lemma described_on_entry (sign : String → UInt64 → Except String String) (c : ConnId)
    (sdp : String) (client : Client) (heard : ServerMessage) :
    (client.hear sign sdp heard).2.filterMap
        (ClientMessage.description c client.handled heard) = [] ∧
        (∀ m ∈ (client.hear sign sdp heard).2, m.sdp? = none) ∨
      ∃ r : Description, (client.hear sign sdp heard).2.filterMap
          (ClientMessage.description c client.handled heard) = [r] ∧
        (client.hear sign sdp heard).2 = [r.frame] ∧ r.maker = c ∧ r.entry = client.handled ∧
        r.sdp = sdp ∧ client.app.activeRoomRef = some r.roomId ∧ Description.MadeOn r heard := by
  have hsends := client.sends_of_hear sign sdp heard
  generalize (client.hear sign sdp heard).2 = sent at hsends ⊢
  cases hsends with
  | nothing => exact Or.inl ⟨rfl, fun m hm => by cases hm⟩
  | response signatureBase64 =>
    refine Or.inl ⟨rfl, fun m hm => ?_⟩
    rw [List.mem_singleton] at hm
    subst hm
    rfl
  | @offer roomId peerUid peerName active =>
    exact Or.inr ⟨⟨c, client.handled, roomId, peerUid, sdp, none⟩, rfl, rfl, rfl, rfl, rfl, active,
      peerName, rfl⟩
  | @answer roomId senderUid offer active =>
    exact Or.inr ⟨⟨c, client.handled, roomId, senderUid, sdp, some offer⟩, rfl, rfl, rfl, rfl, rfl,
      active, rfl⟩

/-- A step remembers one new description at most. -/
lemma made_of_step (hstep : network.step crates sign action = some network') :
    network'.made = network.made ∨
      ∃ (r : Description) (client : Client) (heard : ServerMessage),
        network'.made = network.made ++ [r] ∧ r.sdp ∉ network.made.map (·.sdp) ∧
        network'.system = network.system ∧ network.clients r.maker = some client ∧
        r.entry = client.handled ∧ client.app.activeRoomRef = some r.roomId ∧
        (network.system.outbound r.maker)[r.entry]? = some heard ∧ Description.MadeOn r heard ∧
        network'.clients r.maker = some (client.hear (sign r.maker) r.sdp heard).1 ∧
        (client.hear (sign r.maker) r.sdp heard).2 = [r.frame] := by
  cases Network.stepped_of_step hstep with
  | @hear c client heard sdp running next fresh =>
    rcases described_on_entry (sign c) c sdp client heard with ⟨hnone, -⟩ |
      ⟨r, hone, hframe, hmaker, hentry, hsdp, hactive, hmadeOn⟩
    · apply Or.inl
      rw [hnone, List.append_nil]
    · subst hmaker hsdp
      refine Or.inr ⟨r, client, heard, ?_, fresh, rfl, running, hentry, hactive, ?_, hmadeOn, ?_,
        hframe⟩
      · rw [hone]
      · rw [hentry]
        exact next
      · exact clients_setClient _
  | _ => exact Or.inl rfl

lemma made_grows (hstep : network.step crates sign action = some network') {r : Description}
    (hr : r ∈ network.made) : r ∈ network'.made := by
  rcases made_of_step hstep with hmade | ⟨_, _, _, hmade, -⟩
  · rwa [hmade]
  · rw [hmade]
    exact List.mem_append_left _ hr

lemma setClient_grows {c d : ConnId} {before after client : Client}
    (hbefore : network.clients c = some before) (hhandled : before.handled ≤ after.handled)
    (hidentity : after.app.identity = before.app.identity)
    (hclient : network.clients d = some client) :
    ∃ client', (network.setClient c after).clients d = some client' ∧
      client.handled ≤ client'.handled ∧ client'.app.identity = client.app.identity := by
  by_cases hdc : d = c
  · subst hdc
    rw [hbefore, Option.some.injEq] at hclient
    subst hclient
    exact ⟨after, clients_setClient after, hhandled, hidentity⟩
  · refine ⟨client, ?_, Nat.le_refl _, rfl⟩
    simp only [Network.setClient, Function.update_of_ne hdc]
    exact hclient

/-- A connection keeps its client, which only goes on in its log. -/
lemma client_grows (hidentified : Identified network)
    (hstep : network.step crates sign action = some network') {d : ConnId} {client : Client}
    (hclient : network.clients d = some client) :
    ∃ client', network'.clients d = some client' ∧ client.handled ≤ client'.handled ∧
      client'.app.identity = client.app.identity := by
  cases Network.stepped_of_step hstep with
  | @connect c userUid system accepted =>
    cases System.stepped_of_step accepted with
    | accept free =>
      have hdc : d ≠ c := by
        rintro rfl
        rw [(hidentified.paired d).mpr free] at hclient
        cases hclient
      refine ⟨client, ?_, Nat.le_refl _, rfl⟩
      simp only [Network.setClient, Function.update_of_ne hdc]
      exact hclient
  | act running spontaneous => exact setClient_grows running (Nat.le_refl _) rfl hclient
  | deliver running sent received =>
    obtain ⟨happ, hhandled, -⟩ := outgoing_deliver sent
    exact setClient_grows running hhandled.ge (by rw [happ]) hclient
  | serve served internal => exact ⟨client, hclient, Nat.le_refl _, rfl⟩
  | @hear c before heard sdp running next fresh =>
    exact setClient_grows running (Nat.le_succ _) (identity_hear (sign c) sdp before heard) hclient

lemma uid_grows (hidentified : Identified network)
    (hstep : network.step crates sign action = some network') {d : ConnId} {uid : UserUid}
    (huid : network.uid d = some uid) : network'.uid d = some uid := by
  obtain ⟨client, hclient, hidentity⟩ := Option.bind_eq_some_iff.mp huid
  obtain ⟨client', hclient', -, hsame⟩ := client_grows hidentified hstep hclient
  rw [uid_of_client hclient', hsame, hidentity]

/-- Where a description has been made. -/
structure Recorded (network : Network) (r : Description) : Prop where
  client : ∃ client, network.clients r.maker = some client ∧ r.entry < client.handled
  room : bracketRoom ((network.system.outbound r.maker).take r.entry) = some r.roomId
  madeOn : ∃ m, (network.system.outbound r.maker)[r.entry]? = some m ∧ Description.MadeOn r m

lemma Recorded.step (h : ReachableNetwork crates sign network)
    (hstep : network.step crates sign action = some network') {r : Description}
    (hr : Recorded network r) : Recorded network' r := by
  obtain ⟨client, hclient, hhandled⟩ := hr.client
  obtain ⟨client', hclient', hgrows, -⟩ := client_grows (identified_of_reachable h) hstep hclient
  obtain ⟨heard, hlog, -⟩ := observed_network h hstep r.maker
  have hentry : r.entry < (network.system.outbound r.maker).length :=
    Nat.lt_of_lt_of_le hhandled (follows_of_reachable h r.maker client hclient).handled_le
  refine ⟨⟨client', hclient', Nat.lt_of_lt_of_le hhandled hgrows⟩, ?_, ?_⟩
  · rw [hlog, List.take_append_of_le_length hentry.le]
    exact hr.room
  · rw [hlog, List.getElem?_append_left hentry]
    exact hr.madeOn

/-- The descriptions are recorded where they have been made, each text and each entry once. -/
structure MadeOnce (network : Network) : Prop where
  recorded : ∀ r ∈ network.made, Recorded network r
  texts : (network.made.map (·.sdp)).Nodup
  entries : ∀ r ∈ network.made, ∀ r' ∈ network.made, r.maker = r'.maker → r.entry = r'.entry → r = r'

lemma MadeOnce.unique (h : MadeOnce network) {r r' : Description} (hr : r ∈ network.made)
    (hr' : r' ∈ network.made) (hsdp : r.sdp = r'.sdp) : r = r' :=
  List.inj_on_of_nodup_map h.texts hr hr' hsdp

theorem madeOnce_of_reachable (h : ReachableNetwork crates sign network) : MadeOnce network := by
  refine Execution.invariant_of_reachable_step ⟨fun r hr => (by cases hr), List.nodup_nil,
    fun r hr => (by cases hr)⟩ ?_ h
  intro network action network' hnetwork h hstep
  have hold : ∀ r ∈ network.made, Recorded network' r :=
    fun r hr => (h.recorded r hr).step hnetwork hstep
  rcases made_of_step hstep with hmade | ⟨r, client, heard, hmade, hfresh, hsystem, hclient, hentry,
    hactive, hnext, hmadeOn, hclient', -⟩
  · rw [← hmade] at hold
    exact ⟨hold, by rw [hmade]; exact h.texts, by rw [hmade]; exact h.entries⟩
  · have hfollows := follows_of_reachable hnetwork r.maker client hclient
    have hnew : Recorded network' r := by
      refine ⟨⟨_, hclient', ?_⟩, ?_, ?_⟩
      · rw [hentry]
        exact Nat.lt_succ_self _
      · rw [hsystem, hentry, ← hfollows.active]
        exact hactive
      · rw [hsystem]
        exact ⟨heard, hnext, hmadeOn⟩
    -- what the client made before, it made on an earlier entry
    have hearlier : ∀ r' ∈ network.made, r'.maker = r.maker → r'.entry ≠ r.entry := by
      intro r' hr' hmaker he
      obtain ⟨client', hc, hlt⟩ := (h.recorded r' hr').client
      rw [hmaker, hclient, Option.some.injEq] at hc
      subst hc
      omega
    refine ⟨?_, ?_, ?_⟩
    · intro r' hr'
      rw [hmade, List.mem_append, List.mem_singleton] at hr'
      rcases hr' with hr' | rfl
      · exact hold r' hr'
      · exact hnew
    · rw [hmade, List.map_append]
      exact List.Nodup.append h.texts (List.nodup_singleton _) (by simpa using hfresh)
    · intro r1 hr1 r2 hr2 hmaker he
      rw [hmade, List.mem_append, List.mem_singleton] at hr1 hr2
      rcases hr1 with hr1 | rfl <;> rcases hr2 with hr2 | rfl
      · exact h.entries r1 hr1 r2 hr2 hmaker he
      · exact absurd he (hearlier r1 hr1 hmaker)
      · exact absurd he.symm (hearlier r2 hr2 hmaker.symm)
      · rfl

/-! ### Frames on their way -/

/-- The frame with which the task waits for the lock. -/
def SocketTask.waiting (task : SocketTask) : List ClientMessage :=
  match task.phase with
  | .handling message _ => [message]
  | _ => []

def System.waiting (system : System) (c : ConnId) : List ClientMessage :=
  ((system.tasks c).map SocketTask.waiting).getD []

/-- The frames of a connection that no locked section has handled yet. -/
def Network.inFlight (network : Network) (c : ConnId) : List ClientMessage :=
  System.waiting network.system c ++ ((network.clients c).map Client.outgoing).getD []

lemma waiting_of_task {system : System} {c : ConnId} {task : SocketTask}
    (htask : system.tasks c = some task) : System.waiting system c = SocketTask.waiting task := by
  simp [System.waiting, htask]

lemma waiting_other {system system' : System} {c : ConnId} (h : system'.tasks c = system.tasks c) :
    System.waiting system' c = System.waiting system c := by
  rw [System.waiting, h]
  rfl

lemma inFlight_of_client {c : ConnId} {client : Client} (hclient : network.clients c = some client) :
    Network.inFlight network c = System.waiting network.system c ++ client.outgoing := by
  simp [Network.inFlight, hclient]

/-- A task waits with the message of the text that it has just received, if with any. -/
lemma waiting_receive {task : SocketTask} (hphase : task.phase = .reading) (frame : Frame)
    (nonce : Nonce) (serverTimestamp : UInt64) (now : Instant) :
    SocketTask.waiting (task.receive crates frame nonce serverTimestamp now) = [] ∨
      ∃ payload message, frame = .text payload ∧
        decodeClientMessage crates payload = .ok message ∧
        SocketTask.waiting (task.receive crates frame nonce serverTimestamp now) = [message] := by
  cases frame with
  | text payload =>
    cases hdecode : decodeClientMessage crates payload with
    | error e => exact Or.inl (by simp [SocketTask.receive, SocketTask.waiting, hdecode])
    | ok message =>
      by_cases hsession : task.session.isSome
      · refine Or.inr ⟨payload, message, rfl, hdecode, ?_⟩
        simp [SocketTask.receive, SocketTask.waiting, hdecode, hsession]
      · apply Or.inl
        simp only [SocketTask.receive, hdecode, hsession]
        generalize task.authenticator.handleMessage crates message nonce serverTimestamp now = result
        obtain ⟨reply, auth⟩ := result
        dsimp only
        generalize auth.takeAuthenticatedSession = taken
        obtain ⟨taken, auth'⟩ := taken
        cases taken <;> rfl
  | other => exact Or.inl (by simp [SocketTask.receive, SocketTask.waiting, hphase])
  | _ => exact Or.inl rfl

/-- Where a task goes on without a frame, it no longer waits. -/
lemma waiting_served {system system' : System} {served : Action}
    (hstep : system.step crates served = some system') (hinternal : served.isInternal = true)
    (c : ConnId) :
    System.waiting system' c = [] ∨ System.waiting system' c = System.waiting system c := by
  have hstepped := System.stepped_of_step hstep
  by_cases hc : c = served.actor
  · apply Or.inl
    cases hstepped with
    | accept => cases hinternal
    | receive => cases hinternal
    | handle =>
      simp only [Action.actor] at hc
      subst hc
      exact waiting_of_task (setTask_self ..)
    | register =>
      simp only [Action.actor] at hc
      subst hc
      unfold System.register
      split <;> exact waiting_of_task (setTask_self ..)
    | reply =>
      simp only [Action.actor] at hc
      subst hc
      exact waiting_of_task (setTask_self ..)
    | disconnect =>
      simp only [Action.actor] at hc
      subst hc
      exact waiting_of_task (disconnect_task ..)
  · exact Or.inr (waiting_other (hstepped.task_other hc))

lemma inFlight_set (c : ConnId) (client : Client) (system : System) :
    Network.inFlight { network.setClient c client with system } c =
      System.waiting system c ++ client.outgoing := by
  simp [Network.inFlight, Network.setClient]

lemma inFlight_other {c d : ConnId} (hcd : c ≠ d) (client : Client) {system : System}
    (hwaiting : System.waiting system c = System.waiting network.system c) :
    Network.inFlight { network.setClient d client with system } c = Network.inFlight network c := by
  simp [Network.inFlight, Network.setClient, hcd, hwaiting]

lemma waiting_other_step {system system' : System} {served : Action} {c : ConnId}
    (hstep : system.step crates served = some system') (hc : c ≠ served.actor) :
    System.waiting system' c = System.waiting system c :=
  waiting_other ((System.stepped_of_step hstep).task_other hc)

lemma inFlight_sent {c : ConnId} {client client' : Client} {sent : List ClientMessage}
    (hclient : network.clients c = some client) (hsent : client'.outgoing = client.outgoing ++ sent) :
    Network.inFlight (network.setClient c client') c = Network.inFlight network c ++ sent := by
  rw [inFlight_of_client hclient, inFlight_of_client (clients_setClient _), hsent, List.append_assoc]
  rfl

/-- A frame that arrives goes on to wait for the lock, or is done with. -/
lemma inFlight_deliver {c : ConnId} {client client' : Client} {frame : Frame} {nonce : Nonce}
    {serverTimestamp : UInt64} {now : Instant} {system : System}
    (hclient : network.clients c = some client) (hsent : client.deliver crates frame = some client')
    (hreceived : network.system.step crates (.receive c frame nonce serverTimestamp now) =
      some system) :
    (Network.inFlight { network.setClient c client' with system } c).Sublist
      (Network.inFlight network c) := by
  obtain ⟨-, -, houtgoing⟩ := outgoing_deliver hsent
  rw [inFlight_of_client hclient, inFlight_set]
  cases System.stepped_of_step hreceived with
  | @receive _ task _ _ _ _ running reading =>
    have hbefore : SocketTask.waiting task = [] := by rw [SocketTask.waiting, reading]
    rw [waiting_of_task (setTask_self ..), waiting_of_task running, hbefore, List.nil_append]
    rcases waiting_receive reading frame nonce serverTimestamp now with hnone |
      ⟨payload, message, rfl, hdecode, hwaiting⟩
    · rw [hnone, List.nil_append]
      rcases houtgoing with ⟨hsame, -⟩ | ⟨_, _, -, -, hsplit⟩
      · rw [hsame]
      · rw [hsplit]
        exact List.sublist_cons_self _ _
    · rw [hwaiting]
      rcases houtgoing with ⟨-, hframe⟩ | ⟨_, _, hframe, hdecode', hsplit⟩
      · exact absurd rfl (hframe payload)
      · cases hframe
        rw [hdecode] at hdecode'
        cases hdecode'
        rw [hsplit]
        exact List.Sublist.refl _

/-- Frames leave their way in any manner, but only a client sends new ones, and only on an entry
of its log one with a description. -/
lemma inFlight_of_step (hstep : network.step crates sign action = some network') (c : ConnId) :
    ∃ sent, (Network.inFlight network' c).Sublist (Network.inFlight network c ++ sent) ∧
      ((∀ m ∈ sent, m.sdp? = none) ∨
        ∃ r : Description, network'.made = network.made ++ [r] ∧ r.maker = c ∧ sent = [r.frame]) := by
  have hkept : (Network.inFlight network' c).Sublist (Network.inFlight network c) →
      ∃ sent, (Network.inFlight network' c).Sublist (Network.inFlight network c ++ sent) ∧
        ((∀ m ∈ sent, m.sdp? = none) ∨
          ∃ r : Description, network'.made = network.made ++ [r] ∧ r.maker = c ∧
            sent = [r.frame]) :=
    fun h => ⟨[], by rwa [List.append_nil], Or.inl (fun m hm => by cases hm)⟩
  cases Network.stepped_of_step hstep with
  | @connect d userUid system accepted =>
    by_cases hcd : c = d
    · subst hcd
      refine ⟨[.authIdentify protocolVersion userUid], ?_, Or.inl ?_⟩
      · rw [inFlight_set]
        cases System.stepped_of_step accepted with
        | accept free =>
          rw [waiting_of_task (setTask_self ..)]
          exact List.sublist_append_right _ _
      · intro m hm
        rw [List.mem_singleton] at hm
        subst hm
        rfl
    · apply hkept
      rw [inFlight_other hcd _ (waiting_other_step accepted hcd)]
  | @act d client message running spontaneous =>
    by_cases hcd : c = d
    · subst hcd
      refine ⟨[message], ?_, Or.inl ?_⟩
      · rw [inFlight_sent running rfl]
      · intro m hm
        rw [List.mem_singleton] at hm
        subst hm
        cases m <;> first | rfl | cases spontaneous
    · apply hkept
      have hsame : Network.inFlight (network.setClient d { client with
          outgoing := client.outgoing ++ [message] }) c = Network.inFlight network c :=
        inFlight_other hcd _ rfl
      rw [hsame]
  | @deliver d client client' frame nonce serverTimestamp now system running sent received =>
    apply hkept
    by_cases hcd : c = d
    · subst hcd
      exact inFlight_deliver running sent received
    · rw [inFlight_other hcd _ (waiting_other_step received hcd)]
  | @serve served system hserved internal =>
    apply hkept
    rcases waiting_served hserved internal c with hnone | hsame
    · rw [Network.inFlight, hnone]
      exact List.sublist_append_right _ _
    · rw [Network.inFlight, hsame]
      exact List.Sublist.refl _
  | @hear d client heard sdp running next fresh =>
    by_cases hcd : c = d
    · subst hcd
      refine ⟨(client.hear (sign c) sdp heard).2, ?_, ?_⟩
      · rw [← inFlight_sent running (outgoing_hear (sign c) sdp client heard)]
        exact List.Sublist.refl _
      · rcases described_on_entry (sign c) c sdp client heard with ⟨-, hplain⟩ |
          ⟨r, hone, hframe, hmaker, -⟩
        · exact Or.inl hplain
        · exact Or.inr ⟨r, by rw [hone], hmaker, hframe⟩
    · apply hkept
      have hsame : Network.inFlight (network.setClient d (client.hear (sign d) sdp heard).1) c =
          Network.inFlight network c := inFlight_other hcd _ rfl
      rw [← hsame]
      exact List.Sublist.refl _

/-! ### Forwarded descriptions -/

/-- Only what a user in a room says is forwarded. -/
lemma say_of_forwarded {roster : Roster} {event : Event} {d : ConnId} {roomId : Uuid}
    {senderUid : UserUid} {sdpType : SdpType} {sdp : String}
    (h : .forwardWebRtcSdp roomId senderUid sdpType sdp ∈ event.heard roster d) :
    event = .own d (.forwardWebRtcSdp roomId senderUid sdpType sdp) ∨
      ∃ e targetUid serverTimestamp session,
        event = .say e (.sendWebRtcSdp roomId targetUid sdpType sdp) serverTimestamp ∧
        roster e = some session ∧ session.userUid = senderUid ∧ roster.uid d = some targetUid := by
  cases event with
  | say e message serverTimestamp =>
    simp only [Event.heard] at h
    split at h
    · cases h
    · rename_i session hsession
      split at h
      · cases h
      · rename_i post hpost
        unfold Post.heardBy at h
        split at h
        · rename_i haudience
          rw [List.mem_singleton] at h
          cases message with
          | sendWebRtcSdp sentRoomId targetUid sentType sent =>
            simp only [Roster.post, Option.ite_none_right_eq_some] at hpost
            obtain ⟨-, hpost⟩ := hpost
            cases hpost
            cases h
            simp only [decide_eq_true_eq] at haudience
            exact Or.inr ⟨e, targetUid, serverTimestamp, session, rfl, hsession, rfl, haudience.1⟩
          | sendTextMessage =>
            simp only [Roster.post, Option.ite_none_right_eq_some] at hpost
            obtain ⟨-, hpost⟩ := hpost
            cases hpost
            cases h
          | sendWebRtcIce =>
            simp only [Roster.post, Option.ite_none_right_eq_some] at hpost
            obtain ⟨-, hpost⟩ := hpost
            cases hpost
            cases h
          | _ => cases hpost
        · cases h
  | own c message =>
    by_cases hdc : d = c
    · subst hdc
      simp only [Event.heard, if_true, List.mem_singleton] at h
      exact Or.inl (by rw [h])
    · simp [Event.heard, hdc] at h
  | silent => cases h
  | login => cases h
  | _ =>
    simp only [Event.heard] at h
    repeat' split at h
    all_goals simp at h

/-- A forwarded description was the frame with which the task of its sender waited. -/
lemma forwarded_of_step {system system' : System} {served : Action} (hinv : Inv system)
    (hstep : system.step crates served = some system') {d : ConnId} {heard : List ServerMessage}
    (hlog : system'.outbound d = system.outbound d ++ heard) {roomId : Uuid} {senderUid : UserUid}
    {sdpType : SdpType} {sdp : String}
    (hm : .forwardWebRtcSdp roomId senderUid sdpType sdp ∈ heard) :
    ∃ e targetUid session, served = .handle e ∧
      System.waiting system e = [.sendWebRtcSdp roomId targetUid sdpType sdp] ∧
      System.waiting system' e = [] ∧ system.roster e = some session ∧
      session.userUid = senderUid ∧ system.roster.uid d = some targetUid := by
  obtain ⟨-, hvalid, -, houtbound⟩ := step_refines hinv hstep
  rw [houtbound, List.append_cancel_left_eq] at hlog
  subst hlog
  rcases say_of_forwarded hm with hown | ⟨e, targetUid, serverTimestamp, session, hsay, hsession,
    hsender, htarget⟩
  · rw [hown] at hvalid
    rcases hvalid with ⟨-, hprelude⟩ | ⟨_, _, _, -, -, hwelcome⟩
    · cases hprelude
    · cases hwelcome
  · have hhandled : system.event served = messageEvent e
      (.sendWebRtcSdp roomId targetUid sdpType sdp) serverTimestamp := hsay
    obtain ⟨rfl, received, timestamp, hphase, hreceived⟩ := event_handled hhandled
    obtain ⟨task, htask, hphase⟩ := Option.map_eq_some_iff.mp hphase
    have hmessage : received = .sendWebRtcSdp roomId targetUid sdpType sdp := by
      cases received <;> cases hreceived
      rfl
    refine ⟨e, targetUid, session, rfl, ?_, ?_, hsession, hsender, htarget⟩
    · rw [waiting_of_task htask, SocketTask.waiting, hphase, hmessage]
    · cases System.stepped_of_step hstep with
      | handle => exact waiting_of_task (setTask_self ..)

/-- The frames on their way carry descriptions of the connection that sends them. -/
def FramesMade (network : Network) : Prop :=
  ∀ c, ∀ m ∈ Network.inFlight network c, m.sdp? ≠ none →
    ∃ r ∈ network.made, r.maker = c ∧ m = r.frame

theorem framesMade_of_reachable (h : ReachableNetwork crates sign network) :
    FramesMade network := by
  refine Execution.invariant_of_reachable_step (fun c m hm => by cases hm) ?_ h
  intro network action network' hnetwork h hstep c m hm hsdp
  obtain ⟨sent, hsublist, hsent⟩ := inFlight_of_step hstep c
  rcases List.mem_append.mp (hsublist.mem hm) with hm | hm
  · obtain ⟨r, hr, hmaker, hframe⟩ := h c m hm hsdp
    exact ⟨r, made_grows hstep hr, hmaker, hframe⟩
  · rcases hsent with hplain | ⟨r, hmade, hmaker, rfl⟩
    · exact absurd (hplain m hm) hsdp
    · rw [List.mem_singleton] at hm
      exact ⟨r, by rw [hmade]; simp, hmaker, hm⟩

/-- The forwarded description `m` in the log of `c` is `r`. -/
structure ForwardOf (network : Network) (c : ConnId) (roomId : Uuid) (senderUid : UserUid)
    (sdpType : SdpType) (sdp : String) (r : Description) : Prop where
  made : r ∈ network.made
  maker : network.uid r.maker = some senderUid
  target : network.uid c = some r.peerUid
  room : r.roomId = roomId
  type : r.sdpType = sdpType
  text : r.sdp = sdp

def ForwardsMade (network : Network) : Prop :=
  ∀ c roomId senderUid sdpType sdp,
    .forwardWebRtcSdp roomId senderUid sdpType sdp ∈ network.system.outbound c →
    ∃ r, ForwardOf network c roomId senderUid sdpType sdp r

/-- Every forwarded description has been made by a client of its sender for its addressee. -/
theorem forwardsMade_of_reachable (h : ReachableNetwork crates sign network) :
    ForwardsMade network := by
  refine Execution.invariant_of_reachable_step (fun c _ _ _ _ hm => by cases hm) ?_ h
  intro network action network' hnetwork h hstep c roomId senderUid sdpType sdp hm
  have hidentified := identified_of_reachable hnetwork
  have hold : .forwardWebRtcSdp roomId senderUid sdpType sdp ∈ network.system.outbound c →
      ∃ r, ForwardOf network' c roomId senderUid sdpType sdp r := by
    intro hm
    obtain ⟨r, hr⟩ := h c roomId senderUid sdpType sdp hm
    exact ⟨r, made_grows hstep hr.made, uid_grows hidentified hstep hr.maker,
      uid_grows hidentified hstep hr.target, hr.room, hr.type, hr.text⟩
  rcases system_of_step hstep with hsame | ⟨served, hserved⟩
  · rw [hsame] at hm
    exact hold hm
  · obtain ⟨heard, hlog, -⟩ := observed_network hnetwork hstep c
    rw [hlog] at hm
    rcases List.mem_append.mp hm with hm | hm
    · exact hold hm
    · obtain ⟨e, targetUid, session, -, hwaiting, -, hsession, hsender, htarget⟩ :=
        forwarded_of_step (inv_of_network hnetwork) hserved hlog hm
      have hframe : .sendWebRtcSdp roomId targetUid sdpType sdp ∈ Network.inFlight network e := by
        rw [Network.inFlight, hwaiting]
        exact List.mem_cons_self
      obtain ⟨r, hr, hmaker, hframe⟩ :=
        framesMade_of_reachable hnetwork e _ hframe (by simp [ClientMessage.sdp?])
      obtain ⟨s, hs, huid⟩ := Option.map_eq_some_iff.mp htarget
      unfold Description.frame at hframe
      injection hframe with hroom hpeer htype hsdp
      refine ⟨r, made_grows hstep hr, ?_, ?_, hroom.symm, htype.symm, hsdp.symm⟩
      · rw [hmaker, ← hsender]
        exact uid_grows hidentified hstep (uid_of_roster hnetwork hsession)
      · rw [← hpeer, ← huid]
        exact uid_grows hidentified hstep (uid_of_roster hnetwork hs)

/-! ### No description is forwarded twice -/

def Network.sentTexts (network : Network) (c : ConnId) : List String :=
  (Network.inFlight network c).filterMap ClientMessage.sdp?

def Network.heardTexts (network : Network) (c : ConnId) : List String :=
  (network.system.outbound c).filterMap ServerMessage.sdp?

/-- Every text is on its way once, or has arrived in each log once. -/
structure TextsOnce (network : Network) : Prop where
  sent : ∀ c, (Network.sentTexts network c).Nodup
  heard : ∀ c, (Network.heardTexts network c).Nodup
  apart : ∀ c d, ∀ text ∈ Network.sentTexts network c, text ∉ Network.heardTexts network d

/-- A connection hears one forwarded description at most. -/
lemma Observed.descriptions {roster roster' : Roster} {d : ConnId} {heard : List ServerMessage}
    (h : Observed roster roster' d heard) : heard.filterMap ServerMessage.sdp? = [] ∨
      ∃ roomId senderUid sdpType sdp,
        heard = [.forwardWebRtcSdp roomId senderUid sdpType sdp] := by
  cases h with
  | @prelude m unknown same prelude =>
    cases m with
    | forwardWebRtcSdp => cases prelude
    | _ => exact Or.inl rfl
  | @post s roomId v m session here same isPost =>
    cases m with
    | forwardWebRtcSdp roomId senderUid sdpType sdp => exact Or.inr ⟨_, _, _, _, rfl⟩
    | _ => exact Or.inl rfl
  | _ => exact Or.inl rfl

/-- A connection hears no text but one that leaves its way. -/
lemma heardTexts_of_step (hnetwork : ReachableNetwork crates sign network)
    (hstep : network.step crates sign action = some network') (d : ConnId) :
    Network.heardTexts network' d = Network.heardTexts network d ∨
      ∃ e text, Network.sentTexts network e = text :: Network.sentTexts network' e ∧
        Network.heardTexts network' d = Network.heardTexts network d ++ [text] := by
  have hinv := inv_of_network hnetwork
  obtain ⟨heard, hlog, hobs⟩ := observed_network hnetwork hstep d
  have htexts : Network.heardTexts network' d = Network.heardTexts network d ++
      heard.filterMap ServerMessage.sdp? := by
    rw [Network.heardTexts, hlog, List.filterMap_append]
    rfl
  rcases Observed.descriptions hobs with hnone | ⟨roomId, senderUid, sdpType, sdp, rfl⟩
  · exact Or.inl (by rw [htexts, hnone, List.append_nil])
  · cases Network.stepped_of_step hstep with
    | connect userUid accepted =>
      obtain ⟨e, _, _, hserved, -⟩ := forwarded_of_step hinv accepted hlog (List.mem_singleton_self _)
      cases hserved
    | deliver running sent received =>
      obtain ⟨e, _, _, hserved, -⟩ := forwarded_of_step hinv received hlog (List.mem_singleton_self _)
      cases hserved
    | serve served internal =>
      obtain ⟨e, targetUid, _, -, hwaiting, hwaiting', -⟩ :=
        forwarded_of_step hinv served hlog (List.mem_singleton_self _)
      refine Or.inr ⟨e, sdp, ?_, htexts⟩
      rw [Network.sentTexts, Network.sentTexts, Network.inFlight, Network.inFlight, hwaiting,
        hwaiting']
      rfl
    | act => exact Or.inl rfl
    | hear => exact Or.inl rfl

lemma sentTexts_of_step (hstep : network.step crates sign action = some network') (c : ConnId) :
    (Network.sentTexts network' c).Sublist (Network.sentTexts network c) ∨
      ∃ r : Description, r.sdp ∉ network.made.map (·.sdp) ∧ network'.system = network.system ∧
        (Network.sentTexts network' c).Sublist (Network.sentTexts network c ++ [r.sdp]) := by
  obtain ⟨sent, hsublist, hsent⟩ := inFlight_of_step hstep c
  have htexts := hsublist.filterMap ClientMessage.sdp?
  rw [List.filterMap_append] at htexts
  rcases hsent with hplain | ⟨r, hmade, hmaker, rfl⟩
  · have hnone : sent.filterMap ClientMessage.sdp? = [] := List.filterMap_eq_nil_iff.mpr hplain
    rw [hnone, List.append_nil] at htexts
    exact Or.inl htexts
  · rcases made_of_step hstep with hsame | ⟨r', _, _, hmade', hfresh, hsystem, -⟩
    · rw [hsame] at hmade
      simp at hmade
    · rw [hmade', List.append_cancel_left_eq, List.cons.injEq] at hmade
      obtain ⟨rfl, -⟩ := hmade
      exact Or.inr ⟨r', hfresh, hsystem, htexts⟩

/-- A text that is on its way has been made by the connection that sends it. -/
lemma made_of_sent (h : ReachableNetwork crates sign network) {c : ConnId} {text : String}
    (htext : text ∈ Network.sentTexts network c) :
    ∃ r ∈ network.made, r.maker = c ∧ r.sdp = text := by
  obtain ⟨m, hm, hsdp⟩ := List.mem_filterMap.mp htext
  obtain ⟨r, hr, hmaker, rfl⟩ := framesMade_of_reachable h c m hm (by rw [hsdp]; simp)
  exact ⟨r, hr, hmaker, Option.some.inj hsdp⟩

lemma made_of_heard (h : ReachableNetwork crates sign network) {c : ConnId} {text : String}
    (htext : text ∈ Network.heardTexts network c) : ∃ r ∈ network.made, r.sdp = text := by
  obtain ⟨m, hm, hsdp⟩ := List.mem_filterMap.mp htext
  cases m with
  | forwardWebRtcSdp roomId senderUid sdpType sdp =>
    obtain ⟨r, hr⟩ := forwardsMade_of_reachable h c _ _ _ _ hm
    exact ⟨r, hr.made, hr.text.trans (Option.some.inj hsdp)⟩
  | _ => cases hsdp

/-- Two connections have no text on its way in common. -/
lemma sender_unique (h : ReachableNetwork crates sign network) {c d : ConnId} {text : String}
    (hc : text ∈ Network.sentTexts network c) (hd : text ∈ Network.sentTexts network d) : c = d := by
  obtain ⟨r, hr, rfl, hsdp⟩ := made_of_sent h hc
  obtain ⟨r', hr', rfl, hsdp'⟩ := made_of_sent h hd
  rw [(madeOnce_of_reachable h).unique hr hr' (hsdp.trans hsdp'.symm)]

theorem textsOnce_of_reachable (h : ReachableNetwork crates sign network) : TextsOnce network := by
  refine Execution.invariant_of_reachable_step ⟨fun c => List.nodup_nil, fun c => List.nodup_nil,
    fun c d text ht => by cases ht⟩ ?_ h
  intro network action network' hnetwork h hstep
  -- a new text is neither on its way nor heard yet
  have hunsent : ∀ (r : Description) c, r.sdp ∉ network.made.map (·.sdp) →
      r.sdp ∉ Network.sentTexts network c := by
    intro r c hfresh hin
    obtain ⟨r', hr', -, hsdp⟩ := made_of_sent hnetwork hin
    exact hfresh (List.mem_map.mpr ⟨r', hr', hsdp⟩)
  have hunheard : ∀ (r : Description) d, r.sdp ∉ network.made.map (·.sdp) →
      r.sdp ∉ Network.heardTexts network d := by
    intro r d hfresh hin
    obtain ⟨r', hr', hsdp⟩ := made_of_heard hnetwork hin
    exact hfresh (List.mem_map.mpr ⟨r', hr', hsdp⟩)
  constructor
  · intro c
    rcases sentTexts_of_step hstep c with hsublist | ⟨r, hfresh, -, hsublist⟩
    · exact hsublist.nodup (h.sent c)
    · refine hsublist.nodup (List.Nodup.append (h.sent c) (List.nodup_singleton _) ?_)
      simpa using hunsent r c hfresh
  · intro d
    rcases heardTexts_of_step hnetwork hstep d with hsame | ⟨e, text, hsent, hheard⟩
    · rw [hsame]
      exact h.heard d
    · rw [hheard]
      refine List.Nodup.append (h.heard d) (List.nodup_singleton _) ?_
      have happart := h.apart e d text (by rw [hsent]; exact List.mem_cons_self)
      simpa using happart
  · intro c d text htext
    rcases sentTexts_of_step hstep c with hsublist | ⟨r, hfresh, hsystem, hsublist⟩
    · have hbefore := hsublist.mem htext
      have hold := h.apart c d text hbefore
      rcases heardTexts_of_step hnetwork hstep d with hsame | ⟨e, left, hsent, hheard⟩
      · rwa [hsame]
      · rw [hheard, List.mem_append, List.mem_singleton]
        rintro (hin | rfl)
        · exact hold hin
        · have hce : c = e :=
            sender_unique hnetwork hbefore (by rw [hsent]; exact List.mem_cons_self)
          subst hce
          have hnodup := h.sent c
          rw [hsent, List.nodup_cons] at hnodup
          exact hnodup.1 htext
    · have hheard : Network.heardTexts network' d = Network.heardTexts network d := by
        rw [Network.heardTexts, hsystem]
        rfl
      rw [hheard]
      rcases List.mem_append.mp (hsublist.mem htext) with hin | hin
      · exact h.apart c d text hin
      · rw [List.mem_singleton] at hin
        subst hin
        exact hunheard r d hfresh

end Steps

end VTNet.Proofs
