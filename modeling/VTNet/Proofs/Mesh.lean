import VTNet.Proofs.Carriage

/-!
# The peer connections of a room

A client that has handled its log holds peer connections to members of its room only. Once nothing
is on its way any more, it holds one to every other member, and no offer waits for an answer.
-/

namespace VTNet.Proofs

/-! ### Connections, as a log makes them -/

/-- Whether a client holds a connection to `v` after an entry about its room. -/
def linkStep (v : UserUid) (linked : Bool) : ServerMessage → Bool
  | .voiceRoomJoined _ => false
  | .voiceRoomLeft _ => false
  | .peerJoinedRoom _ peerUid _ => linked || peerUid = v
  | .peerLeftRoom _ peerUid => linked && peerUid ≠ v
  | .forwardWebRtcSdp _ senderUid _ _ => linked || senderUid = v
  | .forwardWebRtcIce _ senderUid candidate =>
    linked || (senderUid = v && App.isObject candidate.tree)
  | _ => linked

def linked (v : UserUid) (log : List ServerMessage) : Bool := log.foldl (linkStep v) false

section Logs

variable {log : List ServerMessage} {k : ℕ} {m : ServerMessage} {v : UserUid}

lemma linked_concat (v : UserUid) (log : List ServerMessage) (m : ServerMessage) :
    linked v (log ++ [m]) = linkStep v (linked v log) m := by
  simp [linked]

lemma linkStep_true (h : ¬Parts v m) : linkStep v true m = true := by
  cases m with
  | voiceRoomJoined | voiceRoomLeft => exact absurd trivial h
  | peerLeftRoom roomId peerUid =>
    have hother : peerUid ≠ v := h
    simp [linkStep, hother]
  | _ => rfl

/-- An entry that makes a connection tells that its peer is in the room. -/
lemma linkStep_false (h : linkStep v false m = true) : ∃ roomId, Meets roomId v m := by
  cases m with
  | peerJoinedRoom roomId peerUid peerName =>
    obtain rfl : peerUid = v := by simpa [linkStep] using h
    exact ⟨roomId, Or.inl ⟨peerName, rfl⟩⟩
  | forwardWebRtcSdp roomId senderUid sdpType sdpRaw =>
    obtain rfl : senderUid = v := by simpa [linkStep] using h
    exact ⟨roomId, Or.inr ⟨rfl, rfl, rfl⟩⟩
  | forwardWebRtcIce roomId senderUid candidate =>
    obtain ⟨rfl, -⟩ : senderUid = v ∧ App.isObject candidate.tree = true := by
      simpa [linkStep] using h
    exact ⟨roomId, Or.inr ⟨rfl, rfl, rfl⟩⟩
  | _ => cases h

/-- A connection that a log leaves goes back to an entry that has met the peer. -/
lemma met_of_linked (h : linked v log = true) :
    ∃ k m roomId, log[k]? = some m ∧ Meets roomId v m ∧ Together log k v := by
  induction log using List.reverseRecOn with
  | nil => cases h
  | append_singleton log m ih =>
    rw [linked_concat] at h
    by_cases hmeets : ∃ roomId, Meets roomId v m
    · obtain ⟨roomId, hmeets⟩ := hmeets
      exact ⟨log.length, m, roomId, by simp, hmeets, together_last log m v⟩
    · cases hlinked : linked v log with
      | false =>
        rw [hlinked] at h
        exact absurd (linkStep_false h) hmeets
      | true =>
        obtain ⟨k, m', roomId, hk, hmeets', htogether⟩ := ih hlinked
        have hlt := (List.getElem?_eq_some_iff.mp hk).1
        refine ⟨k, m', roomId, by rw [List.getElem?_append_left hlt, hk], hmeets',
          htogether.append ?_⟩
        rw [List.forall_mem_singleton]
        intro hparts
        rw [hlinked] at h
        cases m with
        | voiceRoomJoined | voiceRoomLeft => cases h
        | peerJoinedRoom roomId peerUid peerName =>
          exact hmeets ⟨roomId, Or.inl ⟨peerName, by rw [show peerUid = v from hparts]⟩⟩
        | peerLeftRoom roomId peerUid =>
          have hsame : peerUid = v := hparts
          simp [linkStep, hsame] at h
        | _ => exact hparts

/-- A connection lasts until the two are parted. -/
lemma linked_of_together (hk : log[k]? = some m) (hm : ∀ linked, linkStep v linked m = true)
    (htogether : Together log k v) : linked v log = true := by
  have hrest : ∀ rest : List ServerMessage, (∀ m' ∈ rest, ¬Parts v m') →
      rest.foldl (linkStep v) true = true := by
    intro rest hrest
    induction rest with
    | nil => rfl
    | cons m' rest ih =>
      rw [List.foldl_cons, linkStep_true (hrest m' List.mem_cons_self)]
      exact ih (fun m'' hm'' => hrest m'' (List.mem_cons_of_mem m' hm''))
  have hsplit : log = log.take (k + 1) ++ log.drop (k + 1) := (List.take_append_drop _ _).symm
  have hstart : (log.take (k + 1)).foldl (linkStep v) false = true := by
    rw [List.take_add_one, hk, Option.toList_some, List.foldl_append]
    exact hm _
  rw [linked, hsplit, List.foldl_append, hstart]
  apply hrest
  intro m' hm'
  obtain ⟨i, hi⟩ := List.mem_iff_getElem?.mp hm'
  rw [List.getElem?_drop] at hi
  exact htogether (k + 1 + i) m' (by omega) hi

end Logs

section Clients

variable {crates : Crates} {sign : ConnId → String → UInt64 → Except String String}
  {network : Network} {c d : ConnId} {s t : Session} {client : Client} {v : UserUid}

/-- How an entry about its room changes the connections of a client. -/
lemma linked_hear (signed : String → UInt64 → Except String String) (sdp : String)
    {m : ServerMessage} (hactive : m.isPeerEvent = true → client.app.activeRoomRef = m.roomId?)
    (hself : ∀ roomId u peerName, m = .peerJoinedRoom roomId u peerName →
      client.app.identity ≠ some u) :
    ((client.hear signed sdp m).1.app.peerConnections v).isSome =
      linkStep v (client.app.peerConnections v).isSome m := by
  rw [app_hear]
  cases m with
  | peerJoinedRoom roomId peerUid peerName =>
    have hroom : client.app.activeRoomRef = some roomId := hactive rfl
    have hother := hself roomId peerUid peerName rfl
    by_cases hv : v = peerUid
    · simp [App.handleServerMessage, hroom, hother, App.settle, App.setPeer, linkStep, hv]
    · simp [App.handleServerMessage, hroom, hother, App.settle, App.setPeer, linkStep, hv, Ne.symm hv]
  | peerLeftRoom roomId peerUid =>
    have hroom : client.app.activeRoomRef = some roomId := hactive rfl
    by_cases hv : v = peerUid
    · simp [App.handleServerMessage, hroom, App.settle, App.removePeer, linkStep, hv]
    · simp [App.handleServerMessage, hroom, App.settle, App.removePeer, linkStep, hv, Ne.symm hv]
  | forwardWebRtcSdp roomId senderUid sdpType sdpRaw =>
    have hroom : client.app.activeRoomRef = some roomId := hactive rfl
    by_cases hv : v = senderUid
    · cases sdpType <;> simp [App.handleServerMessage, hroom, App.settle, App.setPeer, linkStep, hv]
    · cases sdpType <;>
        simp [App.handleServerMessage, hroom, App.settle, App.setPeer, linkStep, hv, Ne.symm hv]
  | forwardWebRtcIce roomId senderUid candidate =>
    have hroom : client.app.activeRoomRef = some roomId := hactive rfl
    by_cases hobject : App.isObject candidate.tree
    · by_cases hv : v = senderUid
      · simp [App.handleServerMessage, hroom, hobject, App.settle, App.setPeer, linkStep, hv]
      · simp [App.handleServerMessage, hroom, hobject, App.settle, App.setPeer, linkStep, hv,
          Ne.symm hv]
    · simp [App.handleServerMessage, hroom, hobject, App.settle, linkStep]
  | voiceRoomJoined | voiceRoomLeft => rfl
  | _ =>
    simp only [App.handleServerMessage, linkStep]
    repeat' split
    all_goals rfl

/-- The connections of a client are those that the handled part of its log makes. -/
def LinksFollow (network : Network) : Prop :=
  ∀ (c : ConnId) (client : Client) (v : UserUid), network.clients c = some client →
    (client.app.peerConnections v).isSome =
      linked v ((network.system.outbound c).take client.handled)

theorem linksFollow_of_reachable (h : ReachableNetwork crates sign network) :
    LinksFollow network := by
  refine Execution.invariant_of_reachable_step (fun c client v hclient => by cases hclient) ?_ h
  intro network action network' hnetwork h hstep c client' v hclient'
  obtain ⟨heard, hlog, -⟩ := observed_network hnetwork hstep c
  rcases client_of_step hstep hclient' with ⟨userUid, rfl⟩ | ⟨client, hclient, happ, hhandled⟩ |
    ⟨client, m, sdp, hclient, hnext, rfl, hsystem, -⟩
  · rfl
  · have hle := (follows_of_reachable hnetwork c client hclient).handled_le
    rw [hlog, happ, hhandled, List.take_append_of_le_length hle]
    exact h c client v hclient
  · have hself : ∀ roomId u peerName, m = .peerJoinedRoom roomId u peerName →
        client.app.identity ≠ some u := by
      rintro roomId u peerName rfl
      exact others_of_next hnetwork hclient hnext
    have hhandled : (client.hear (sign c) sdp m).1.handled = client.handled + 1 := rfl
    rw [linked_hear (sign c) sdp (active_of_next hnetwork hclient hnext) hself, hsystem, hhandled,
      List.take_add_one, hnext, Option.toList_some, linked_concat, h c client v hclient]

/-! ### Clients that have handled their log -/

/-- `v` is in the room that the session is in. -/
def Beside (system : System) (s : Session) (v : UserUid) : Prop :=
  ∃ roomId, s.activeVoiceRoomId = some roomId ∧ system.roster.Present roomId v

lemma room_of_caught_up (h : ReachableNetwork crates sign network)
    (hclient : network.clients c = some client) (hs : network.system.roster c = some s)
    (hhandled : client.handled = (network.system.outbound c).length) :
    client.app.activeRoomId = s.activeVoiceRoomId := by
  rw [(follows_of_reachable h c client hclient).state, hhandled, List.take_length]
  exact bracketRoom_of_roster (reachable_system h) hs

lemma beside_of_caught_up (h : ReachableNetwork crates sign network)
    (hclient : network.clients c = some client) (hs : network.system.roster c = some s)
    (hhandled : client.handled = (network.system.outbound c).length)
    (hv : client.app.peerConnections v ≠ none) : Beside network.system s v := by
  have hlinked := linksFollow_of_reachable h c client v hclient
  rw [hhandled, List.take_length, Option.isSome_iff_ne_none.mpr hv] at hlinked
  obtain ⟨k, m, roomId, hk, hmeets, htogether⟩ := met_of_linked hlinked.symm
  have hreachable := reachable_system h
  exact ⟨roomId, room_of_together hreachable hs hk hmeets htogether,
    metArePresent_of_reachable hreachable c s k m roomId v hs hk hmeets htogether⟩

/-- Every client handles a message to its end, and its ref is up to date before the next one. A client
that has handled its log is in the room of its session, and holds connections to the members of that
room only. -/
theorem caught_up_agrees (h : ReachableNetwork crates sign network)
    (hclient : network.clients c = some client) (hs : network.system.roster c = some s)
    (hhandled : client.handled = (network.system.outbound c).length) :
    client.app.activeRoomId = s.activeVoiceRoomId ∧
      ∀ v, client.app.peerConnections v ≠ none → Beside network.system s v :=
  ⟨room_of_caught_up h hclient hs hhandled, fun _ => beside_of_caught_up h hclient hs hhandled⟩

/-- The first login hears the answer to its offer, and is about to say something. -/
def addressed : List NetworkAction :=
  Reference.introduced ++ Reference.offered ++ Reference.answered ++
    [.hear 0 "", .act 0 (.sendTextMessage Reference.room Reference.greeting)]

/-- The text reaches the second login, and nothing is on its way any more. -/
def settling : List NetworkAction :=
  [Reference.arrive 0 (Reference.sayText Reference.room "hi"), .serve (.handle 0), .hear 1 ""]

def meshed : List NetworkAction := addressed ++ settling

def isReading : Phase → Bool
  | .reading => true
  | _ => false

def isPlain (message : ServerMessage) : Bool := (message.serialize Reference.crates).integral

/-- The client has handled its log, and neither it nor its task has anything left to do. -/
structure AtRest (network : Network) (c : ConnId) (client : Client) : Prop where
  handled : client.handled = (network.system.outbound c).length
  outgoing : client.outgoing = []
  reading : ∃ task, network.system.tasks c = some task ∧ task.phase = .reading
  plain : ∀ message ∈ network.system.outbound c, isPlain message = true

def isAtRest (network : Network) (c : ConnId) : Bool :=
  (network.clients c).any (fun client =>
      client.handled = (network.system.outbound c).length && client.outgoing.isEmpty) &&
    (network.system.tasks c).any (fun task => isReading task.phase) &&
    (network.system.outbound c).all isPlain

lemma isReading_iff {phase : Phase} : isReading phase = true ↔ phase = .reading := by
  cases phase <;> simp [isReading]

lemma atRest_of_isAtRest {network : Network} {c : ConnId} {client : Client}
    (h : isAtRest network c = true) (hclient : network.clients c = some client) :
    AtRest network c client := by
  simp only [isAtRest, hclient, Option.any_some, Bool.and_eq_true, decide_eq_true_eq,
    List.isEmpty_iff, List.all_eq_true, Option.any_eq_true, isReading_iff] at h
  exact ⟨h.1.1.1, h.1.1.2, h.1.2, h.2⟩

/-- What the second login has heard by then. -/
def heardBySecond : List ServerMessage :=
  [.authChallenge (Reference.base64.encode Reference.second.nonce.toList)
      Reference.second.serverTimestamp,
    .authSuccess ⟨Reference.second.key⟩ "Guest-8139770e" "VTNet",
    .voiceRoomJoined Reference.room,
    .forwardWebRtcSdp Reference.room ⟨Reference.first.key⟩ .offer "offer",
    .broadcastTextMessage Reference.room ⟨Reference.first.key⟩ "Guest-8a88e3dd" Reference.greeting
      Reference.first.serverTimestamp]

lemma meshed_leaves : ∃ network client s,
    Execution.exec (Network.step Reference.crates Reference.sign) Network.start meshed =
        some network ∧
      network.clients 1 = some client ∧ network.system.roster 1 = some s ∧
      (isAtRest network 0 = true ∧ isAtRest network 1 = true) ∧
      s.activeVoiceRoomId = some Reference.room ∧
      client.app.peerConnections ⟨Reference.first.key⟩ = some ⟨none⟩ ∧
      network.system.outbound 1 = heardBySecond := by
  have hrun : ((Execution.exec (Network.step Reference.crates Reference.sign) Network.start
      meshed).bind fun network => (network.clients 1).bind fun client =>
        (network.system.roster 1).map fun s => ((isAtRest network 0, isAtRest network 1),
          s.activeVoiceRoomId, client.app.peerConnections ⟨Reference.first.key⟩,
          network.system.outbound 1)) =
      some ((true, true), some Reference.room, some ⟨none⟩, heardBySecond) := by
    decide +kernel
  obtain ⟨network, hexec, hrun⟩ := Option.bind_eq_some_iff.mp hrun
  obtain ⟨client, hclient, hrun⟩ := Option.bind_eq_some_iff.mp hrun
  obtain ⟨s, hs, hrun⟩ := Option.map_eq_some_iff.mp hrun
  simp only [Prod.mk.injEq] at hrun
  exact ⟨network, client, s, hexec, hclient, hs, hrun⟩

lemma connects_meshed {c : ConnId} {u : UserUid} (h : .connect c u ∈ meshed) :
    c = 0 ∧ u = ⟨Reference.first.key⟩ ∨ c = 1 ∧ u = ⟨Reference.second.key⟩ := by
  simpa [meshed, addressed, settling, Reference.introduced, Reference.offered, Reference.answered,
    Reference.connect, Reference.enter, Reference.arrive, Reference.loginOf] using h

lemma session_meshed {network : Network} {s : Session}
    (h : Execution.exec (Network.step Reference.crates Reference.sign) Network.start meshed =
      some network) (hs : network.system.roster 1 = some s) : s.userUid = ⟨Reference.second.key⟩ := by
  rcases connects_meshed (connect_of_uid h 1 _ (uid_of_roster ⟨_, h⟩ hs)) with ⟨hzero, -⟩ | ⟨-, huid⟩
  · cases hzero
  · exact huid

/-- The second login has heard all of its log. -/
theorem caught_up_agrees_meshed : ∃ network client s,
    ReachableNetwork Reference.crates Reference.sign network ∧
      network.clients 1 = some client ∧ network.system.roster 1 = some s ∧
      client.app.activeRoomId = some Reference.room ∧
      s.activeVoiceRoomId = some Reference.room ∧
      Beside network.system s ⟨Reference.first.key⟩ := by
  obtain ⟨network, client, s, hexec, hclient, hs, ⟨-, hrest⟩, hroom, hconnection, -⟩ :=
    meshed_leaves
  obtain ⟨hagrees, hbeside⟩ :=
    caught_up_agrees ⟨_, hexec⟩ hclient hs (atRest_of_isAtRest hrest hclient).handled
  refine ⟨network, client, s, ⟨_, hexec⟩, hclient, hs, hagrees.trans hroom, hroom, hbeside _ ?_⟩
  rw [hconnection]
  nofun

/-! ### Nothing on its way -/

/-- The clients of all sessions have handled their logs, and none of their frames is on its way. -/
structure Settled (network : Network) : Prop where
  handled : ∀ c s client, network.system.roster c = some s → network.clients c = some client →
    client.handled = (network.system.outbound c).length
  arrived : ∀ c s, network.system.roster c = some s → Network.inFlight network c = []

lemma client_of_roster (h : ReachableNetwork crates sign network)
    (hs : network.system.roster c = some s) : ∃ client, network.clients c = some client := by
  obtain ⟨client, hclient, -⟩ := Option.bind_eq_some_iff.mp (uid_of_roster h hs)
  exact ⟨client, hclient⟩

/-- What was made has been forwarded by now. -/
lemma Settled.forwarded (hsettled : Settled network) (h : ReachableNetwork crates sign network)
    {r : Description} (hr : r ∈ network.made) (hkept : Kept network r s)
    (ht : network.system.roster d = some t) (htuid : t.userUid = r.peerUid)
    (htroom : t.activeVoiceRoomId = some r.roomId) :
    Forwarded (network.system.outbound d) r s := by
  rcases carried_of_reachable h r hr s d t hkept ht htuid htroom with hflight | hforwarded
  · rw [hsettled.arrived r.maker s hkept.maker] at hflight
    cases hflight
  · exact hforwarded

/-- What asks for a description has got one by now. -/
lemma Settled.described (hsettled : Settled network) (h : ReachableNetwork crates sign network)
    (hs : network.system.roster c = some s) {k : ℕ} {m : ServerMessage}
    (hm : (network.system.outbound c)[k]? = some m) (hasks : Asks m) :
    ∃ r ∈ network.made, r.maker = c ∧ r.entry = k ∧ Description.MadeOn r m := by
  obtain ⟨client, hclient⟩ := client_of_roster h hs
  apply asksAnswered_of_reachable h c client k m hclient ?_ hm hasks
  rw [hsettled.handled c s client hs hclient]
  exact (List.getElem?_eq_some_iff.mp hm).1

/-- Whoever has been told of a member of the room has its answer, and that member its offer. -/
lemma Settled.answered (hsettled : Settled network) (h : ReachableNetwork crates sign network)
    (hs : network.system.roster c = some s) (ht : network.system.roster d = some t)
    {roomId : Uuid} (hsroom : s.activeVoiceRoomId = some roomId)
    (htroom : t.activeVoiceRoomId = some roomId) (htold : Told network c t.userUid) :
    (∃ i offer, (network.system.outbound d)[i]? =
        some (.forwardWebRtcSdp roomId s.userUid .offer offer) ∧
        Together (network.system.outbound d) i s.userUid) ∧
      ∃ j answer, (network.system.outbound c)[j]? =
        some (.forwardWebRtcSdp roomId t.userUid .answer answer) ∧
        Together (network.system.outbound c) j t.userUid := by
  obtain ⟨k, room, peerName, hk, htogether⟩ := htold
  obtain ⟨⟨maker, entry, offered, peerUid, sdp, answers⟩, hr, rfl, rfl, hmadeOn⟩ :=
    hsettled.described h hs hk trivial
  cases answers with
  | some offer => cases hmadeOn
  | none =>
    obtain ⟨_, hsame⟩ := hmadeOn
    injection hsame with hroom hpeer
    subst hroom hpeer
    have hkept : Kept network ⟨maker, entry, room, t.userUid, sdp, none⟩ s := ⟨hs, htogether⟩
    have hroom : room = roomId := Option.some.inj ((hkept.room h hr).symm.trans hsroom)
    subst hroom
    obtain ⟨i, hi, htogether'⟩ := hsettled.forwarded h hr hkept ht rfl htroom
    refine ⟨⟨i, sdp, hi, htogether'⟩, ?_⟩
    -- the answer comes back in the same way
    obtain ⟨⟨maker', entry', answered, peerUid', sdp', answers'⟩, hr', rfl, rfl, hmadeOn'⟩ :=
      hsettled.described h ht hi trivial
    cases answers' with
    | none =>
      obtain ⟨_, hsame⟩ := hmadeOn'
      cases hsame
    | some offer =>
      cases hmadeOn'
      have hkept' : Kept network ⟨maker', entry', room, s.userUid, sdp', some sdp⟩ t :=
        ⟨ht, htogether'⟩
      obtain ⟨j, hj, htogether''⟩ := hsettled.forwarded h hr' hkept' hs rfl hsroom
      exact ⟨j, sdp', hj, htogether''⟩

/-- Two users in a room hold connections to each other. -/
lemma Settled.connected (hsettled : Settled network) (h : ReachableNetwork crates sign network)
    (hclient : network.clients c = some client) (hs : network.system.roster c = some s)
    (ht : network.system.roster d = some t) (hcd : c ≠ d) {roomId : Uuid}
    (hsroom : s.activeVoiceRoomId = some roomId) (htroom : t.activeVoiceRoomId = some roomId) :
    client.app.peerConnections t.userUid ≠ none := by
  have hlinked : linked t.userUid (network.system.outbound c) = true := by
    rcases oneIsTold_of_reachable h c d s t roomId hcd hs ht hsroom htroom with htold | htold
    · obtain ⟨k, room, peerName, hk, htogether⟩ := htold
      exact linked_of_together hk (by simp [linkStep]) htogether
    · obtain ⟨⟨i, offer, hi, htogether⟩, -⟩ := hsettled.answered h ht hs htroom hsroom htold
      exact linked_of_together hi (by simp [linkStep]) htogether
  have hfollows := linksFollow_of_reachable h c client t.userUid hclient
  rw [hsettled.handled c s client hs hclient, List.take_length, hlinked] at hfollows
  exact Option.isSome_iff_ne_none.mp hfollows

end Clients

end VTNet.Proofs
