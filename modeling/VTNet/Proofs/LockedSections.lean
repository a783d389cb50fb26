import VTNet.Presence

/-!
# The locked sections refine the abstract server

While the registry and the map of connections track the sessions, each section that holds the
lock is one event of the abstract server.
-/

namespace VTNet.Proofs

open RoomRegistry

/-- The map of connections is the inverse of the sessions' identities. -/
def ConnectionsTrack (connections : UserUid → Option ConnId) (roster : Roster) : Prop :=
  ∀ uid c, connections uid = some c ↔ ∃ s, roster c = some s ∧ s.userUid = uid

/-- The shared state says of the connections what their sessions say. -/
structure Tracks (state : ServerState) (roster : Roster) : Prop where
  connections_iff : ConnectionsTrack state.connections roster
  occupants_iff : ∀ roomId uid, uid ∈ state.rooms.occupants roomId ↔ roster.Present roomId uid

lemma ConnectionsTrack.distinct {connections : UserUid → Option ConnId} {roster : Roster}
    (h : ConnectionsTrack connections roster) : roster.Distinct := by
  intro c d s t hs ht huid
  have hc := (h s.userUid c).mpr ⟨s, hs, rfl⟩
  have hd := (h s.userUid d).mpr ⟨t, ht, huid.symm⟩
  rw [hc] at hd
  exact Option.some.inj hd

section Sessions

variable {state : ServerState} {roster : Roster} {c : ConnId} {s : Session}

lemma Tracks.distinct (h : Tracks state roster) : roster.Distinct := h.connections_iff.distinct

lemma Tracks.connection (h : Tracks state roster) (hs : roster c = some s) :
    state.connections s.userUid = some c :=
  (h.connections_iff _ _).mpr ⟨s, hs, rfl⟩

lemma Tracks.mem_occupants (h : Tracks state roster) (hs : roster c = some s) (roomId : Uuid) :
    s.userUid ∈ state.rooms.occupants roomId ↔ s.activeVoiceRoomId = some roomId := by
  rw [h.occupants_iff, h.distinct.present_iff hs]

/-- Nobody in a room the session is not in is its user. -/
lemma Tracks.ne_of_mem (h : Tracks state roster) (hs : roster c = some s) {roomId : Uuid}
    (hroom : s.activeVoiceRoomId ≠ some roomId) {uid : UserUid}
    (hin : uid ∈ state.rooms.occupants roomId) : uid ≠ s.userUid := by
  rintro rfl
  exact hroom ((h.mem_occupants hs roomId).mp hin)

/-- The occupants of a room other than `s` are the users of the other connections in it. -/
lemma Tracks.mem_others (h : Tracks state roster) (hs : roster c = some s) {d : ConnId} {t : Session}
    (ht : roster d = some t) (roomId : Uuid) :
    t.userUid ∈ (state.rooms.occupants roomId).filter (· ≠ s.userUid) ↔
      d ≠ c ∧ roster.room d = some roomId := by
  rw [Finset.mem_filter, h.mem_occupants ht, Roster.room_of_some ht, and_comm]
  have hne : t.userUid ≠ s.userUid ↔ d ≠ c := by
    constructor
    · rintro huid rfl
      rw [ht] at hs
      cases hs
      exact huid rfl
    · exact fun hdc huid => hdc (h.distinct d c t s ht hs huid)
  rw [hne]

/-- Moving the session of one connection. -/
lemma Tracks.moved (h : Tracks state roster) (hs : roster c = some s) {s' : Session}
    (huid : s'.userUid = s.userUid) {rooms : RoomRegistry}
    (hrooms : ∀ roomId uid, uid ∈ rooms.occupants roomId ↔
      (uid = s.userUid ∧ s'.activeVoiceRoomId = some roomId) ∨
        (uid ≠ s.userUid ∧ uid ∈ state.rooms.occupants roomId)) :
    Tracks { state with rooms } (Function.update roster c (some s')) := by
  constructor
  · intro uid d
    rw [h.connections_iff]
    by_cases hdc : d = c
    · subst hdc
      simp [hs, huid]
    · simp [hdc]
  · intro roomId uid
    rw [hrooms, h.occupants_iff, h.distinct.present_update hs]
    · simp
    · rintro t ht
      cases ht
      exact huid

end Sessions

/-! ### Sending -/

lemma sendToUsers_empty (state : ServerState) (outbound : Outbound) (message : ServerMessage) :
    sendToUsers state outbound ∅ message = outbound := rfl

lemma sendToUsers_insert (state : ServerState) (outbound : Outbound) {recipients : Finset UserUid}
    {uid : UserUid} (h : uid ∉ recipients) (message : ServerMessage) :
    sendToUsers state outbound (insert uid recipients) message =
      sendToUsers state (outbound.sendTo (state.connections uid) message) recipients message := by
  rw [sendToUsers, Finset.insert_val_of_notMem h, Multiset.foldl_cons]
  rfl

/-- Every connection whose user is a recipient hears the message once. -/
theorem sendToUsers_heard {state : ServerState} {roster : Roster}
    (h : ConnectionsTrack state.connections roster) (outbound : Outbound)
    (recipients : Finset UserUid) (message : ServerMessage) (d : ConnId) :
    sendToUsers state outbound recipients message d =
      outbound d ++ (if (roster d).any (fun t => t.userUid ∈ recipients) then [message] else []) := by
  induction recipients using Finset.induction_on generalizing outbound with
  | empty =>
    rw [sendToUsers_empty]
    cases roster d <;> simp
  | insert uid recipients hnew ih =>
    rw [sendToUsers_insert state outbound hnew, ih]
    cases ht : roster d with
    | none =>
      have hconn : state.connections uid ≠ some d := by
        intro hd
        obtain ⟨t, ht', -⟩ := (h uid d).mp hd
        rw [ht] at ht'
        cases ht'
      cases hu : state.connections uid with
      | none => rfl
      | some e =>
        have hne : d ≠ e := fun he => hconn (by rw [hu, he])
        simp [Outbound.sendTo, Outbound.send, hne]
    | some t =>
      have hconn : state.connections uid = some d ↔ t.userUid = uid := by
        rw [h uid d, ht]
        simp
      by_cases huid : t.userUid = uid
      · rw [hconn.mpr huid]
        simp [Outbound.sendTo, Outbound.send, huid, hnew]
      · have hsend : (outbound.sendTo (state.connections uid) message) d = outbound d := by
          cases hu : state.connections uid with
          | none => rfl
          | some e =>
            have hne : d ≠ e := by
              rintro rfl
              exact huid (hconn.mp hu)
            simp [Outbound.sendTo, Outbound.send, hne]
        rw [hsend]
        simp [huid]

/-- A message to the occupants of a room other than `s` is heard by the other connections in it. -/
lemma sendToUsers_others {state : ServerState} {roster : Roster} {c : ConnId} {s : Session}
    (h : Tracks state roster) (hs : roster c = some s) (rooms : RoomRegistry)
    (outbound : Outbound) (roomId : Uuid) (message : ServerMessage) (d : ConnId) :
    sendToUsers { state with rooms } outbound
        ((state.rooms.occupants roomId).filter (· ≠ s.userUid)) message d =
      outbound d ++ (if d ≠ c ∧ roster.room d = some roomId then [message] else []) := by
  have hconnections : ConnectionsTrack { state with rooms }.connections roster := h.connections_iff
  rw [sendToUsers_heard hconnections]
  cases ht : roster d with
  | none => simp [Roster.room, ht]
  | some t => simp only [Option.any_some, decide_eq_true_eq, h.mem_others hs ht]

lemma sendTo_own {state : ServerState} {roster : Roster} {c : ConnId} {s : Session}
    (h : Tracks state roster) (hs : roster c = some s) (outbound : Outbound)
    (message : ServerMessage) (d : ConnId) :
    outbound.sendTo (state.connections s.userUid) message d =
      outbound d ++ (if d = c then [message] else []) := by
  rw [h.connection hs]
  by_cases hdc : d = c
  · subst hdc
    simp [Outbound.sendTo, Outbound.send]
  · simp [Outbound.sendTo, Outbound.send, hdc]

/-! ### The sections -/

section Sections

variable {state : ServerState} {roster : Roster} {c : ConnId} {s : Session}

/-- A section run by `c` refines the event when it leaves the session the event gives to `c`,
the shared state still tracks the sessions and every connection hears what the event says. -/
structure Refines (roster : Roster) (outbound : Outbound) (c : ConnId) (event : Event)
    (result : ServerState × Outbound × Session) : Prop where
  session : event.next roster = Function.update roster c (some result.2.2)
  tracks : Tracks result.1 (event.next roster)
  heard : ∀ d, result.2.1 d = outbound d ++ event.heard roster d

lemma allowAll_isAllowed (userUid : UserUid) (roomId : Uuid) (action : RoomAction) :
    allowAllPermissions.isAllowed userUid roomId action = true := rfl

lemma join_same_refines (h : Tracks state roster) (hs : roster c = some s) (outbound : Outbound)
    {roomId : Uuid} (hroom : s.activeVoiceRoomId = some roomId) (serverTimestamp : UInt64) :
    Refines roster outbound c (.join c roomId)
      (handleAuthenticatedMessage state outbound s (.joinVoiceRoom roomId) serverTimestamp) := by
  have hresult : handleAuthenticatedMessage state outbound s (.joinVoiceRoom roomId) serverTimestamp =
      (state, outbound, s) := by
    simp only [handleAuthenticatedMessage,
      joinVoiceRoom_same (allowAll_isAllowed s.userUid roomId .join) hroom]
  have hmoved : roster.moveTo c (some roomId) = Function.update roster c (some s) := by
    rw [Roster.moveTo_of_some hs, ← hroom]
  rw [hresult]
  refine ⟨hmoved, ?_, ?_⟩
  · rw [Event.next, hmoved, Roster.update_same hs]
    exact h
  · intro d
    simp [Event.heard, hs, hroom]

lemma join_entered_refines (h : Tracks state roster) (hs : roster c = some s) (outbound : Outbound)
    (roomId : Uuid) (hroom : s.activeVoiceRoomId = none) (serverTimestamp : UInt64) :
    Refines roster outbound c (.join c roomId)
      (handleAuthenticatedMessage state outbound s (.joinVoiceRoom roomId) serverTimestamp) := by
  unfold handleAuthenticatedMessage
  simp only [joinVoiceRoom_entered (allowAll_isAllowed s.userUid roomId .join) hroom]
  refine ⟨Roster.moveTo_of_some hs _, ?_, ?_⟩
  · rw [Event.next, Roster.moveTo_of_some hs]
    apply h.moved hs
    · rfl
    intro room uid
    rw [occupants_addMember]
    by_cases hr : room = roomId
    · subst hr
      by_cases hu : uid = s.userUid <;> simp [hu]
    · have hr' : ¬roomId = room := fun he => hr he.symm
      have hr'' : s.activeVoiceRoomId ≠ some room := by simp [hroom]
      have hout : uid ∈ state.rooms.occupants room → uid ≠ s.userUid := h.ne_of_mem hs hr''
      simpa [hr, hr'] using hout
  · intro d
    dsimp only
    rw [sendToUsers_others h hs, sendTo_own h hs]
    simp only [Event.heard, hs, hroom]
    by_cases hdc : d = c
    · simp [hdc]
    · cases hd : roster.room d with
      | none => simp [hdc]
      | some here => by_cases hhere : here = roomId <;> simp [hdc, hhere]

lemma join_switched_refines (h : Tracks state roster) (hs : roster c = some s) (outbound : Outbound)
    {roomId previousRoomId : Uuid} (hroom : s.activeVoiceRoomId = some previousRoomId)
    (hne : previousRoomId ≠ roomId) (serverTimestamp : UInt64) :
    Refines roster outbound c (.join c roomId)
      (handleAuthenticatedMessage state outbound s (.joinVoiceRoom roomId) serverTimestamp) := by
  unfold handleAuthenticatedMessage
  simp only [joinVoiceRoom_switched (allowAll_isAllowed s.userUid roomId .join) hroom hne, hroom,
    Option.map_some, Option.getD_some]
  refine ⟨Roster.moveTo_of_some hs _, ?_, ?_⟩
  · rw [Event.next, Roster.moveTo_of_some hs]
    apply h.moved hs
    · rfl
    intro room uid
    rw [occupants_addMember, occupants_removeMember]
    by_cases hr : room = roomId
    · subst hr
      have hr' : ¬room = previousRoomId := fun he => hne he.symm
      by_cases hu : uid = s.userUid <;> simp [hu, hr']
    · have hr' : ¬roomId = room := fun he => hr he.symm
      by_cases hp : room = previousRoomId
      · subst hp
        simp [hr, hr']
      · have hp' : s.activeVoiceRoomId ≠ some room := by
          rw [hroom]
          exact fun he => hp (Option.some.inj he).symm
        have hout : uid ∈ state.rooms.occupants room → uid ≠ s.userUid := h.ne_of_mem hs hp'
        simpa [hr, hr', hp] using hout
  · intro d
    dsimp only
    rw [sendToUsers_others h hs, sendTo_own h hs, sendToUsers_others h hs]
    simp only [Event.heard, hs, hroom]
    by_cases hdc : d = c
    · simp [hdc, hne]
    · cases hd : roster.room d with
      | none => simp [hdc, hne]
      | some here =>
        -- a connection in the room left is not in the room entered
        by_cases hprev : here = previousRoomId
        · simp [hdc, hne, hprev]
        · have hprev' : ¬previousRoomId = here := fun he => hprev he.symm
          by_cases hhere : here = roomId <;> simp_all

lemma leave_refines (h : Tracks state roster) (hs : roster c = some s) (outbound : Outbound)
    (roomId : Uuid) (serverTimestamp : UInt64) :
    Refines roster outbound c (.leave c roomId)
      (handleAuthenticatedMessage state outbound s (.leaveVoiceRoom roomId) serverTimestamp) := by
  have hcroom := Roster.room_of_some hs
  unfold handleAuthenticatedMessage
  by_cases hroom : s.activeVoiceRoomId = some roomId
  · simp only [leaveVoiceRoom_active hroom]
    have hnext : (Event.leave c roomId).next roster =
        Function.update roster c (some { s with activeVoiceRoomId := none }) := by
      rw [Event.next, hcroom, if_pos hroom, Roster.moveTo_of_some hs]
    refine ⟨hnext, ?_, ?_⟩
    · rw [hnext]
      apply h.moved hs
      · rfl
      intro room uid
      rw [occupants_removeMember]
      by_cases hr : room = roomId
      · subst hr
        simp
      · have hr' : s.activeVoiceRoomId ≠ some room := by
          rw [hroom]
          exact fun he => hr (Option.some.inj he).symm
        have hout : uid ∈ state.rooms.occupants room → uid ≠ s.userUid := h.ne_of_mem hs hr'
        simpa [hr] using hout
    · intro d
      dsimp only
      rw [sendToUsers_others h hs, sendTo_own h hs]
      simp only [Event.heard, hs, hroom]
      by_cases hdc : d = c <;> simp [hdc]
  · simp only [leaveVoiceRoom_stale hroom]
    have hnext : (Event.leave c roomId).next roster = roster := by
      rw [Event.next, hcroom, if_neg hroom]
    refine ⟨?_, ?_, ?_⟩
    · rw [hnext, Roster.update_same hs]
    · rw [hnext]
      exact h
    · intro d
      simp [Event.heard, hs, hroom]

lemma ensureActiveMember_eq (h : Tracks state roster) (hs : roster c = some s) (roomId : Uuid) :
    state.rooms.ensureActiveMember s roomId =
      if s.activeVoiceRoomId = some roomId then .ok () else .error .senderNotInActiveVoiceRoom := by
  simp only [ensureActiveMember, containsMember_iff, h.mem_occupants hs, and_self]

/-- A message to one occupant of a room is heard by the connection of that user, if it is in
the room. -/
lemma sendToTarget_heard (h : Tracks state roster) (outbound : Outbound) (roomId : Uuid)
    (targetUid : UserUid) (message : ServerMessage) (d : ConnId) :
    (if state.rooms.containsMember roomId targetUid then
        sendToUsers state outbound {targetUid} message else outbound) d =
      outbound d ++ (if roster.uid d = some targetUid ∧ roster.room d = some roomId then [message]
        else []) := by
  cases ht : roster d with
  | none =>
    have huid : roster.uid d = none := by simp [Roster.uid, ht]
    split
    · rw [sendToUsers_heard h.connections_iff]
      simp [ht, huid]
    · simp [huid]
  | some t =>
    simp only [Roster.uid_of_some ht, Roster.room_of_some ht, ← h.mem_occupants ht]
    by_cases htarget : t.userUid = targetUid
    · subst htarget
      by_cases hin : t.userUid ∈ state.rooms.occupants roomId
      · rw [if_pos (containsMember_iff.mpr hin), sendToUsers_heard h.connections_iff]
        simp [ht, hin]
      · rw [if_neg (fun hc => hin (containsMember_iff.mp hc))]
        simp [hin]
    · have hsome : ¬some t.userUid = some targetUid := fun he => htarget (Option.some.inj he)
      split
      · rw [sendToUsers_heard h.connections_iff]
        simp [ht, htarget]
      · simp [htarget]

/-! ### Routing -/

lemma route_text (h : Tracks state roster) (hs : roster c = some s) (roomId : Uuid)
    (textContent : RoomTextContent) (serverTimestamp : UInt64) :
    state.rooms.routeClientRoomMessage s (.sendTextMessage roomId textContent) serverTimestamp
        allowAllPermissions =
      if s.activeVoiceRoomId = some roomId then
        .ok ⟨(state.rooms.occupants roomId).filter (· ≠ s.userUid),
          .broadcastTextMessage roomId s.userUid s.displayName textContent serverTimestamp⟩
      else .error .senderNotInActiveVoiceRoom := by
  simp only [routeClientRoomMessage, ensureActiveMember_eq h hs]
  split <;> rfl

/-- How a message for one occupant of a room is routed. -/
def forwarded (rooms : RoomRegistry) (s : Session) (roomId : Uuid) (targetUid : UserUid)
    (message : ServerMessage) : Except RoomRoutingError RoutedServerMessage :=
  if s.activeVoiceRoomId = some roomId then
    if rooms.containsMember roomId targetUid then .ok ⟨{targetUid}, message⟩
    else .error .targetNotInActiveVoiceRoom
  else .error .senderNotInActiveVoiceRoom

lemma route_sdp (h : Tracks state roster) (hs : roster c = some s) (roomId : Uuid)
    (targetUid : UserUid) (sdpType : SdpType) (sdpRaw : String) (serverTimestamp : UInt64) :
    state.rooms.routeClientRoomMessage s (.sendWebRtcSdp roomId targetUid sdpType sdpRaw)
        serverTimestamp allowAllPermissions =
      forwarded state.rooms s roomId targetUid
        (.forwardWebRtcSdp roomId s.userUid sdpType sdpRaw) := by
  simp only [routeClientRoomMessage, ensureActiveMember_eq h hs, ensureTargetMember, forwarded]
  repeat' split
  all_goals rfl

lemma route_ice (h : Tracks state roster) (hs : roster c = some s) (roomId : Uuid)
    (targetUid : UserUid) (candidate : SerdeValue) (serverTimestamp : UInt64) :
    state.rooms.routeClientRoomMessage s (.sendWebRtcIce roomId targetUid candidate)
        serverTimestamp allowAllPermissions =
      forwarded state.rooms s roomId targetUid
        (.forwardWebRtcIce roomId s.userUid candidate) := by
  simp only [routeClientRoomMessage, ensureActiveMember_eq h hs, ensureTargetMember, forwarded]
  repeat' split
  all_goals rfl

/-- What a routed message leaves behind. -/
def deliverRouted (state : ServerState) (outbound : Outbound)
    (result : Except RoomRoutingError RoutedServerMessage) : Outbound :=
  match result with
  | .ok routed => sendToUsers state outbound routed.recipients routed.message
  | .error _ => outbound

lemma handle_routed (state : ServerState) (outbound : Outbound) (s : Session)
    (message : ClientMessage) (hjoin : ∀ roomId, message ≠ .joinVoiceRoom roomId)
    (hleave : ∀ roomId, message ≠ .leaveVoiceRoom roomId) (serverTimestamp : UInt64) :
    handleAuthenticatedMessage state outbound s message serverTimestamp =
      (state, deliverRouted state outbound (state.rooms.routeClientRoomMessage s message
        serverTimestamp allowAllPermissions), s) := by
  cases message with
  | joinVoiceRoom roomId => exact absurd rfl (hjoin roomId)
  | leaveVoiceRoom roomId => exact absurd rfl (hleave roomId)
  | _ =>
    simp only [handleAuthenticatedMessage, deliverRouted]
    generalize state.rooms.routeClientRoomMessage s _ serverTimestamp allowAllPermissions = result
    cases result <;> rfl

/-- A message for one occupant of a room is heard by the connection of that user. -/
lemma forwarded_heard (h : Tracks state roster) (outbound : Outbound) (roomId : Uuid)
    (targetUid : UserUid) (message : ServerMessage) (d : ConnId) :
    deliverRouted state outbound (forwarded state.rooms s roomId targetUid message) d =
      outbound d ++ (if s.activeVoiceRoomId = some roomId ∧ roster.uid d = some targetUid ∧
        roster.room d = some roomId then [message] else []) := by
  by_cases hroom : s.activeVoiceRoomId = some roomId
  · have htarget := sendToTarget_heard h outbound roomId targetUid message d
    simp only [hroom, true_and]
    rw [← htarget, forwarded, if_pos hroom]
    split <;> rfl
  · simp [forwarded, deliverRouted, hroom]

lemma say_refines (h : Tracks state roster) (hs : roster c = some s) (outbound : Outbound)
    (message : ClientMessage) (hjoin : ∀ roomId, message ≠ .joinVoiceRoom roomId)
    (hleave : ∀ roomId, message ≠ .leaveVoiceRoom roomId) (serverTimestamp : UInt64) :
    Refines roster outbound c (.say c message serverTimestamp)
      (handleAuthenticatedMessage state outbound s message serverTimestamp) := by
  rw [handle_routed state outbound s message hjoin hleave]
  refine ⟨(Roster.update_same hs).symm, h, ?_⟩
  intro d
  dsimp only
  cases message with
  | joinVoiceRoom roomId => exact absurd rfl (hjoin roomId)
  | leaveVoiceRoom roomId => exact absurd rfl (hleave roomId)
  | sendTextMessage roomId textContent =>
    rw [route_text h hs]
    by_cases hroom : s.activeVoiceRoomId = some roomId
    · have hothers := sendToUsers_others h hs state.rooms outbound roomId
        (.broadcastTextMessage roomId s.userUid s.displayName textContent serverTimestamp) d
      simp only [hroom, if_true, deliverRouted]
      apply hothers.trans
      simp [Event.heard, hs, Roster.post, hroom, Post.heardBy]
    · simp [deliverRouted, Event.heard, hs, Roster.post, hroom]
  | sendWebRtcSdp roomId targetUid sdpType sdpRaw =>
    rw [route_sdp h hs, forwarded_heard h]
    by_cases hroom : s.activeVoiceRoomId = some roomId <;>
      simp [Event.heard, hs, Roster.post, hroom, Post.heardBy]
  | sendWebRtcIce roomId targetUid candidate =>
    rw [route_ice h hs, forwarded_heard h]
    by_cases hroom : s.activeVoiceRoomId = some roomId <;>
      simp [Event.heard, hs, Roster.post, hroom, Post.heardBy]
  | authIdentify => simp [deliverRouted, routeClientRoomMessage, Event.heard, hs, Roster.post]
  | authResponse => simp [deliverRouted, routeClientRoomMessage, Event.heard, hs, Roster.post]

/-- Every authenticated message, handled under the lock, is the event it stands for. -/
theorem handleAuthenticatedMessage_refines (h : Tracks state roster) (hs : roster c = some s)
    (outbound : Outbound) (message : ClientMessage) (serverTimestamp : UInt64) :
    Refines roster outbound c (messageEvent c message serverTimestamp)
      (handleAuthenticatedMessage state outbound s message serverTimestamp) := by
  cases message with
  | joinVoiceRoom roomId =>
    cases hroom : s.activeVoiceRoomId with
    | none => exact join_entered_refines h hs outbound roomId hroom serverTimestamp
    | some previousRoomId =>
      by_cases hsame : previousRoomId = roomId
      · subst hsame
        exact join_same_refines h hs outbound hroom serverTimestamp
      · exact join_switched_refines h hs outbound hroom hsame serverTimestamp
  | leaveVoiceRoom roomId => exact leave_refines h hs outbound roomId serverTimestamp
  | _ =>
    exact say_refines h hs outbound _ (fun _ he => by cases he) (fun _ he => by cases he)
      serverTimestamp

lemma ConnectionsTrack.removed {connections : UserUid → Option ConnId}
    (h : ConnectionsTrack connections roster) (hs : roster c = some s) :
    ConnectionsTrack (Function.update connections s.userUid none)
      (Function.update roster c none) := by
  intro uid d
  by_cases hdc : d = c
  · subst hdc
    simp only [Function.update_self, reduceCtorEq, false_and, exists_false, iff_false]
    by_cases huid : uid = s.userUid
    · simp [huid]
    · rw [Function.update_of_ne huid, h uid d, hs]
      simpa [eq_comm] using huid
  · rw [Function.update_of_ne hdc]
    by_cases huid : uid = s.userUid
    · subst huid
      simp only [Function.update_self, reduceCtorEq, false_iff]
      rintro ⟨t, ht, htuid⟩
      exact hdc (h.distinct d c t s ht hs htuid)
    · rw [Function.update_of_ne huid]
      exact h uid d

/-- The cleanup of a registered connection is its logout. -/
theorem disconnectSession_refines (h : Tracks state roster) (hs : roster c = some s)
    (outbound : Outbound) :
    Tracks (disconnectSession state outbound s).1 ((Event.logout c).next roster) ∧
      ∀ d, (disconnectSession state outbound s).2 d =
        outbound d ++ (Event.logout c).heard roster d := by
  have hconnections := h.connections_iff.removed hs
  have hgone : ∀ roomId uid, Roster.Present (Function.update roster c none) roomId uid ↔
      uid ≠ s.userUid ∧ roster.Present roomId uid := by
    intro roomId uid
    rw [h.distinct.present_update hs (fun t ht => by cases ht)]
    simp
  cases hroom : s.activeVoiceRoomId with
  | none =>
    simp only [disconnectSession, hroom]
    refine ⟨⟨hconnections, ?_⟩, fun d => by simp [Event.heard, hs, hroom]⟩
    intro roomId uid
    rw [Event.next, hgone, h.occupants_iff]
    refine (and_iff_right_of_imp ?_).symm
    rintro hin rfl
    rw [h.distinct.present_iff hs, hroom] at hin
    cases hin
  | some roomId =>
    simp only [disconnectSession, hroom, leaveVoiceRoom_active hroom]
    refine ⟨⟨hconnections, ?_⟩, ?_⟩
    · intro room uid
      dsimp only
      rw [occupants_removeMember]
      rw [Event.next, hgone, ← h.occupants_iff]
      split
      · exact Finset.mem_erase
      · rename_i hne
        refine (and_iff_right_of_imp fun hin => h.ne_of_mem hs ?_ hin).symm
        rw [hroom]
        exact fun he => hne (Option.some.inj he).symm
    · intro d
      rw [sendToUsers_heard hconnections]
      simp only [Event.heard, hs, hroom]
      by_cases hdc : d = c
      · simp [hdc]
      · rw [Function.update_of_ne hdc]
        cases ht : roster d with
        | none => simp [Roster.room, ht]
        | some t => simp only [Option.any_some, decide_eq_true_eq, h.mem_others hs ht]

end Sections

end VTNet.Proofs
