import VTNet.Proofs.Copresence

/-!
# No description is lost between two users in one room

While its maker and its addressee stay in the room together, a description is on its way or has been
forwarded to the addressee, and a client that has handled an entry which asks for a description has
made one.
-/

namespace VTNet.Proofs

section Steps

variable {crates : Crates} {sign : ConnId → String → UInt64 → Except String String}
  {network network' : Network} {action : NetworkAction} {c d : ConnId} {s t : Session}
  {roomId : Uuid} {v : UserUid} {r : Description}

/-! ### Frames of registered connections -/

/-- The task of a registered connection waits with every message that arrives. -/
lemma waiting_of_received {task : SocketTask} {payload : String} {message : ClientMessage}
    (hsession : task.session.isSome = true)
    (hdecode : decodeClientMessage crates payload = .ok message) (nonce : Nonce)
    (serverTimestamp : UInt64) (now : Instant) :
    SocketTask.waiting (task.receive crates (.text payload) nonce serverTimestamp now) =
      [message] := by
  simp [SocketTask.receive, SocketTask.waiting, hdecode, hsession]

/-- Only the task that waits with a frame goes on by handling it. -/
lemma handle_of_waiting {system system' : System} {served : Action} {m : ClientMessage}
    (hstep : system.step crates served = some system') (hinternal : served.isInternal = true)
    (hactor : served.actor = c) (hm : m ∈ System.waiting system c) :
    served = .handle c ∧ System.waiting system c = [m] := by
  cases System.stepped_of_step hstep with
  | accept => cases hinternal
  | receive => cases hinternal
  | handle running handling =>
    simp only [Action.actor] at hactor
    subst hactor
    rw [waiting_of_task running, SocketTask.waiting, handling] at hm ⊢
    rw [List.mem_singleton] at hm
    exact ⟨rfl, by rw [hm]⟩
  | register running registering =>
    simp only [Action.actor] at hactor
    subst hactor
    rw [waiting_of_task running, SocketTask.waiting, registering] at hm
    cases hm
  | reply running replying =>
    simp only [Action.actor] at hactor
    subst hactor
    rw [waiting_of_task running, SocketTask.waiting, replying] at hm
    cases hm
  | disconnect running leaving =>
    simp only [Action.actor] at hactor
    subst hactor
    rw [waiting_of_task running, SocketTask.waiting, leaving] at hm
    cases hm

/-- A frame of a registered connection stays on its way until it is handled. -/
lemma inFlight_kept (hstep : network.step crates sign action = some network')
    (hs : network.system.roster c = some s) {m : ClientMessage}
    (hm : m ∈ Network.inFlight network c) :
    m ∈ Network.inFlight network' c ∨
      action = .serve (.handle c) ∧ System.waiting network.system c = [m] := by
  obtain ⟨task, htask, hsession⟩ := Option.bind_eq_some_iff.mp hs
  cases Network.stepped_of_step hstep with
  | @connect e userUid system accepted =>
    cases System.stepped_of_step accepted with
    | accept free =>
      have hce : c ≠ e := by
        rintro rfl
        rw [htask] at free
        cases free
      rw [inFlight_other hce _ (waiting_other_step accepted hce)]
      exact Or.inl hm
  | @act e client message running spontaneous =>
    by_cases hce : c = e
    · subst hce
      rw [inFlight_sent running rfl]
      exact Or.inl (List.mem_append_left _ hm)
    · have hsame : Network.inFlight (network.setClient e { client with
          outgoing := client.outgoing ++ [message] }) c = Network.inFlight network c :=
        inFlight_other hce _ rfl
      rw [hsame]
      exact Or.inl hm
  | @deliver e client client' frame nonce serverTimestamp now system running sent received =>
    by_cases hce : c = e
    · subst hce
      apply Or.inl
      cases System.stepped_of_step received with
      | @receive _ task' _ _ _ _ running' reading =>
        rw [htask, Option.some.injEq] at running'
        subst running'
        rw [inFlight_of_client running, waiting_of_task htask, SocketTask.waiting, reading] at hm
        rw [inFlight_set, waiting_of_task (setTask_self ..)]
        obtain ⟨-, -, ⟨hsame, -⟩ | ⟨payload, message, rfl, hdecode, hsplit⟩⟩ := outgoing_deliver sent
        · rw [hsame]
          exact List.mem_append_right _ hm
        · rw [waiting_of_received (by rw [hsession]; rfl) hdecode]
          rwa [hsplit] at hm
    · rw [inFlight_other hce _ (waiting_other_step received hce)]
      exact Or.inl hm
  | @serve served system hserved internal =>
    rcases List.mem_append.mp hm with hwaiting | houtgoing
    · by_cases hactor : served.actor = c
      · obtain ⟨rfl, hone⟩ := handle_of_waiting hserved internal hactor hwaiting
        exact Or.inr ⟨rfl, hone⟩
      · rw [Network.inFlight, waiting_other_step hserved (Ne.symm hactor)]
        exact Or.inl hm
    · exact Or.inl (List.mem_append_right _ houtgoing)
  | @hear e client heard sdp running next fresh =>
    apply Or.inl
    by_cases hce : c = e
    · subst hce
      have hsent := inFlight_sent running (outgoing_hear (sign c) sdp client heard)
      exact hsent ▸ List.mem_append_left _ hm
    · have hsame : Network.inFlight (network.setClient e (client.hear (sign e) sdp heard).1) c =
          Network.inFlight network c := inFlight_other hce _ rfl
      exact hsame.symm ▸ hm

/-- A description that is handled while both users are in its room is forwarded. -/
lemma forward_of_handled {system system' : System} (hinv : Inv system)
    (hstep : system.step crates (.handle c) = some system') {sdpType : SdpType} {sdp : String}
    (hwaiting : System.waiting system c = [.sendWebRtcSdp roomId v sdpType sdp])
    (hs : system.roster c = some s) (hsroom : s.activeVoiceRoomId = some roomId)
    (ht : system.roster d = some t) (htuid : t.userUid = v)
    (htroom : t.activeVoiceRoomId = some roomId) :
    system'.outbound d = system.outbound d ++ [.forwardWebRtcSdp roomId s.userUid sdpType sdp] := by
  have hphase : ∃ serverTimestamp, (system.tasks c).map SocketTask.phase =
      some (.handling (.sendWebRtcSdp roomId v sdpType sdp) serverTimestamp) := by
    unfold System.waiting at hwaiting
    cases htask : system.tasks c with
    | none => simp [htask] at hwaiting
    | some task =>
      simp only [htask, Option.map_some, Option.getD_some, SocketTask.waiting] at hwaiting
      split at hwaiting
      · rename_i message serverTimestamp hphase
        rw [List.cons.injEq] at hwaiting
        exact ⟨serverTimestamp, by rw [Option.map_some, hphase, hwaiting.1]⟩
      · cases hwaiting
  obtain ⟨serverTimestamp, hphase⟩ := hphase
  have hevent : system.event (.handle c) =
      .say c (.sendWebRtcSdp roomId v sdpType sdp) serverTimestamp := by
    simp only [System.event, hphase, messageEvent]
  have htarget : system.roster.uid d = some v ∧ system.roster.room d = some roomId := by
    rw [Roster.uid_of_some ht, Roster.room_of_some ht, htuid]
    exact ⟨rfl, htroom⟩
  rw [(step_refines hinv hstep).outbound d, hevent, Event.heard_sdp hs,
    if_pos ⟨hsroom, htarget.1, htarget.2⟩]

/-! ### The fate of a description -/

lemma Description.MadeOn.meets {m : ServerMessage} (h : Description.MadeOn r m) :
    Meets r.roomId r.peerUid m := by
  unfold Description.MadeOn at h
  cases hanswers : r.answers with
  | none =>
    rw [hanswers] at h
    exact Or.inl h
  | some offer =>
    rw [hanswers] at h
    subst h
    exact Or.inr ⟨rfl, rfl, rfl⟩

/-- The maker and the addressee of a description have been in its room together since it was made. -/
structure Kept (network : Network) (r : Description) (s : Session) : Prop where
  maker : network.system.roster r.maker = some s
  together : Together (network.system.outbound r.maker) r.entry r.peerUid

lemma Kept.room (h : ReachableNetwork crates sign network) (hr : r ∈ network.made)
    (hkept : Kept network r s) : s.activeVoiceRoomId = some r.roomId := by
  obtain ⟨m, hm, hmadeOn⟩ := ((madeOnce_of_reachable h).recorded r hr).madeOn
  exact room_of_together (reachable_system h) hkept.maker hm hmadeOn.meets hkept.together

lemma Kept.present (h : ReachableNetwork crates sign network) (hr : r ∈ network.made)
    (hkept : Kept network r s) : network.system.roster.Present r.roomId r.peerUid := by
  obtain ⟨m, hm, hmadeOn⟩ := ((madeOnce_of_reachable h).recorded r hr).madeOn
  exact metArePresent_of_reachable (reachable_system h) r.maker s r.entry m r.roomId r.peerUid
    hkept.maker hm hmadeOn.meets hkept.together

/-- Whoever is together after a step with a user it has met has been so before. -/
lemma Kept.before (h : ReachableNetwork crates sign network)
    (hstep : network.step crates sign action = some network') (hr : r ∈ network.made)
    (hkept : Kept network' r s) : Kept network r s := by
  obtain ⟨heard, hlog, hobs⟩ := observed_network h hstep r.maker
  have htogether := hkept.together
  rw [hlog] at htogether
  obtain ⟨m, hm, -⟩ := ((madeOnce_of_reachable h).recorded r hr).madeOn
  have hheard := htogether.later (List.getElem?_eq_some_iff.mp hm).1
  have hroom := hkept.room (h.tail hstep) (made_grows hstep hr)
  exact ⟨(hobs.stayed hkept.maker hroom hheard).1, htogether.before⟩

/-- A connection that is in a room where its user has been before has been there itself. -/
lemma stayed_of_present (hdistinct : network.system.roster.Distinct) {heard : List ServerMessage}
    (hobs : Observed network.system.roster network'.system.roster d heard)
    (hpresent : network.system.roster.Present roomId t.userUid)
    (ht : network'.system.roster d = some t) (hroom : t.activeVoiceRoomId = some roomId) :
    network.system.roster d = some t ∧
      ObservedInside network.system.roster network'.system.roster roomId t.userUid heard := by
  rcases hobs.member ht hroom with hinside | ⟨⟨t₀, ht₀, huid, helse⟩, -, -⟩
  · exact hinside
  · rw [← huid] at hpresent
    exact absurd hpresent (absent_of_entering hdistinct ht₀ helse)

/-- The log has the description of `s` as forwarded, and nothing has parted the two since. -/
def Forwarded (log : List ServerMessage) (r : Description) (s : Session) : Prop :=
  ∃ i, log[i]? = some (.forwardWebRtcSdp r.roomId s.userUid r.sdpType r.sdp) ∧
    Together log i s.userUid

/-- A description is on its way or has been forwarded, as long as its maker and its addressee are
together. -/
def Carried (network : Network) : Prop :=
  ∀ r ∈ network.made, ∀ (s : Session) (d : ConnId) (t : Session), Kept network r s →
    network.system.roster d = some t → t.userUid = r.peerUid →
    t.activeVoiceRoomId = some r.roomId →
    r.frame ∈ Network.inFlight network r.maker ∨ Forwarded (network.system.outbound d) r s

lemma Carried.step (hnetwork : ReachableNetwork crates sign network) (h : Carried network)
    (hstep : network.step crates sign action = some network') (hr : r ∈ network.made)
    (hkept : Kept network' r s) (ht : network'.system.roster d = some t) (htuid : t.userUid = r.peerUid)
    (htroom : t.activeVoiceRoomId = some r.roomId) :
    r.frame ∈ Network.inFlight network' r.maker ∨ Forwarded (network'.system.outbound d) r s := by
  have hinv := inv_of_network hnetwork
  have hbefore := hkept.before hnetwork hstep hr
  have hroom := hbefore.room hnetwork hr
  have hpresent := hbefore.present hnetwork hr
  rw [← htuid] at hpresent
  obtain ⟨heard, hlog, hobs⟩ := observed_network hnetwork hstep d
  obtain ⟨htbefore, hinside⟩ := stayed_of_present hinv.tracks.distinct hobs hpresent ht htroom
  rcases h r hr s d t hbefore htbefore htuid htroom with hflight | ⟨i, hi, htogether⟩
  · rcases inFlight_kept hstep hbefore.maker hflight with
      hflight | ⟨rfl, hwaiting⟩
    · exact Or.inl hflight
    · cases Network.stepped_of_step hstep with
      | serve served internal =>
        have hforward := forward_of_handled hinv served hwaiting hbefore.maker hroom htbefore htuid
          htroom
        refine Or.inr ⟨(network.system.outbound d).length, ?_, ?_⟩
        · rw [hforward]
          simp
        · rw [hforward]
          exact together_last _ _ _
  · refine Or.inr ⟨i, entry_grows hnetwork hstep hi, ?_⟩
    rw [hlog]
    exact htogether.append (hinside.not_parts (present_of_roster hbefore.maker hroom)
      (present_of_roster hkept.maker hroom))

theorem carried_of_reachable (h : ReachableNetwork crates sign network) : Carried network := by
  refine Execution.invariant_of_reachable_step (fun r hr => by cases hr) ?_ h
  intro network action network' hnetwork h hstep r hr s d t hkept ht htuid htroom
  rcases made_of_step hstep with hmade | ⟨r', client, heard, hmade, -, hsystem, hclient, -, -, -, -,
    hclient', hsent⟩
  · rw [hmade] at hr
    exact h.step hnetwork hstep hr hkept ht htuid htroom
  · rw [hmade, List.mem_append, List.mem_singleton] at hr
    rcases hr with hr | rfl
    · exact h.step hnetwork hstep hr hkept ht htuid htroom
    · -- it has just been sent
      apply Or.inl
      rw [inFlight_of_client hclient', outgoing_hear, hsent]
      simp

/-! ### What a client makes of its log -/

/-- Such an entry makes a client describe itself. -/
def Asks : ServerMessage → Prop
  | .peerJoinedRoom _ _ _ => True
  | .forwardWebRtcSdp _ _ .offer _ => True
  | _ => False

lemma Asks.isPeerEvent {m : ServerMessage} (h : Asks m) : m.isPeerEvent = true := by
  cases m with
  | peerJoinedRoom | forwardWebRtcSdp => rfl
  | _ => exact False.elim h

/-- In the room that the entry is about, a client answers it. -/
lemma described_of_asks (signed : String → UInt64 → Except String String) (sdp : String)
    {client : Client} {m : ServerMessage} (hasks : Asks m)
    (hactive : client.app.activeRoomRef = m.roomId?)
    (hself : ∀ roomId v peerName, m = .peerJoinedRoom roomId v peerName →
      client.app.identity ≠ some v) :
    ∃ r : Description, (client.hear signed sdp m).2.filterMap
        (ClientMessage.description c client.handled m) = [r] ∧ r.maker = c ∧
      r.entry = client.handled ∧ Description.MadeOn r m := by
  cases m with
  | peerJoinedRoom roomId peerUid peerName =>
    have hroom : client.app.activeRoomRef = some roomId := hactive
    have hother := hself roomId peerUid peerName rfl
    refine ⟨⟨c, client.handled, roomId, peerUid, sdp, none⟩, ?_, rfl, rfl, peerName, rfl⟩
    simp [Client.hear, App.handleServerMessage, hroom, hother, ClientMessage.description]
  | forwardWebRtcSdp roomId senderUid sdpType sdpRaw =>
    have hroom : client.app.activeRoomRef = some roomId := hactive
    cases sdpType with
    | offer =>
      refine ⟨⟨c, client.handled, roomId, senderUid, sdp, some sdpRaw⟩, ?_, rfl, rfl, rfl⟩
      simp [Client.hear, App.handleServerMessage, hroom, ClientMessage.description]
    | answer => exact False.elim hasks
  | _ => exact False.elim hasks

/-- The next entry of a client's log does not announce its own user. -/
lemma others_of_next (h : ReachableNetwork crates sign network) {client : Client}
    (hclient : network.clients c = some client) {peerName : String}
    (hnext : (network.system.outbound c)[client.handled]? =
      some (.peerJoinedRoom roomId v peerName)) : client.app.identity ≠ some v := by
  obtain ⟨u, huid, hother⟩ :=
    othersArrive_of_reachable h c roomId v peerName (List.mem_of_getElem? hnext)
  rw [← uid_of_client hclient, huid]
  exact fun hsame => hother (Option.some.inj hsame)

/-- Every entry that asks for a description and has been handled has got one. -/
def AsksAnswered (network : Network) : Prop :=
  ∀ (c : ConnId) (client : Client) (k : ℕ) (m : ServerMessage), network.clients c = some client →
    k < client.handled → (network.system.outbound c)[k]? = some m → Asks m →
    ∃ r ∈ network.made, r.maker = c ∧ r.entry = k ∧ Description.MadeOn r m

theorem asksAnswered_of_reachable (h : ReachableNetwork crates sign network) :
    AsksAnswered network := by
  refine Execution.invariant_of_reachable_step (fun c client k m hclient => by cases hclient) ?_ h
  intro network action network' hnetwork h hstep c client' k m hclient' hk hm hasks
  have hold : ∀ client, network.clients c = some client → k < client.handled →
      ∃ r ∈ network'.made, r.maker = c ∧ r.entry = k ∧ Description.MadeOn r m := by
    intro client hclient hk
    have hlt := Nat.lt_of_lt_of_le hk (follows_of_reachable hnetwork c client hclient).handled_le
    obtain ⟨heard, hlog, -⟩ := observed_network hnetwork hstep c
    rw [hlog, List.getElem?_append_left hlt] at hm
    obtain ⟨r, hr, hmade⟩ := h c client k m hclient hk hm hasks
    exact ⟨r, made_grows hstep hr, hmade⟩
  rcases client_of_step hstep hclient' with ⟨userUid, rfl⟩ | ⟨client, hclient, -, hhandled⟩ |
    ⟨client, m', sdp, hclient, hnext, rfl, hsystem, hmade⟩
  · exact absurd hk (Nat.not_lt_zero _)
  · rw [hhandled] at hk
    exact hold client hclient hk
  · rcases Nat.lt_succ_iff_lt_or_eq.mp hk with hk | rfl
    · exact hold client hclient hk
    · rw [hsystem, hnext, Option.some.injEq] at hm
      subst hm
      have hself : ∀ roomId v peerName, m' = .peerJoinedRoom roomId v peerName →
          client.app.identity ≠ some v := by
        rintro roomId v peerName rfl
        exact others_of_next hnetwork hclient hnext
      obtain ⟨r, hone, hdescribed⟩ := described_of_asks (c := c) (sign c) sdp hasks
        (active_of_next hnetwork hclient hnext hasks.isPeerEvent) hself
      exact ⟨r, by rw [hmade, hone]; simp, hdescribed⟩

end Steps

end VTNet.Proofs
