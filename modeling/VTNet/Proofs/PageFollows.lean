import VTNet.Proofs.NetworkRuns
import VTNet.Proofs.PageMicrophone
import VTNet.Reference

/-!
# The page does what the client is taken to do

The client that handles decoded messages in one go is the page that reads their texts, lets every
handler run to its end and then renders. On any log both come to the same state and send the same.
-/

namespace VTNet.Proofs

def uidText (crates : Crates) (uid : UserUid) : String := crates.base64.encode uid.asBytes.toList

/-- The frames that say what the messages say. -/
def Conveys (crates : Crates) (frames : List Sent) (messages : List ClientMessage) : Prop :=
  frames.map (fun f => tagged f.event f.payload) = messages.map (ClientMessage.serialize crates)

/-- The page is in the room and has the peers that the client has. -/
structure InStep (crates : Crates) (page : Page) (app : App) : Prop where
  room : page.activeRoomId = app.activeRoomId.map Uuid.hyphenated
  peers : ∀ uid, (page.peerConnectionsRef (uidText crates uid)).isSome =
    (app.peerConnections uid).isSome

/-- The page shows what the client knows. -/
structure Shows (crates : Crates) (page : Page) (app : App) : Prop extends
    InStep crates page app where
  status : page.connectionStatus = app.connectionStatus
  ref : page.activeRoomRef = app.activeRoomRef.map Uuid.hyphenated
  messages : page.messages = app.messages.map fun m =>
    ⟨m.senderName, m.text, .int m.timestamp.toNat⟩
  error : page.errorMessage = app.errorMessage

section Values

variable {crates : Crates}

lemma uidText_inj (hbase64 : crates.base64.DecodeInvertsEncode) {uid uid' : UserUid} :
    uidText crates uid = uidText crates uid' ↔ uid = uid' := by
  constructor
  · intro h
    have hbytes := congrArg crates.base64.decode h
    rw [uidText, uidText, hbase64, hbase64, Option.some.injEq] at hbytes
    cases uid
    cases uid'
    exact congrArg _ (Bytes.Fixed.ext hbytes)
  · exact congrArg _

lemma hyphenated_inj (huuid : crates.ReadsHyphenated) {roomId roomId' : Uuid} :
    roomId.hyphenated = roomId'.hyphenated ↔ roomId = roomId' := by
  constructor
  · intro h
    have hrooms := congrArg crates.parseUuid h
    rw [huuid, huuid] at hrooms
    exact Option.some.inj hrooms
  · exact congrArg _

/-- The room of a message is compared as a text. -/
lemma inRoom_iff (huuid : crates.ReadsHyphenated) {roomId : Uuid} {room : Option Uuid} :
    some (.str roomId.hyphenated : JsonValue) = some (nullable (room.map Uuid.hyphenated)) ↔
      room = some roomId := by
  cases room with
  | none => simp [nullable]
  | some here =>
    simp only [nullable, Option.map_some, Option.some.injEq, Json.Value.str.injEq,
      hyphenated_inj huuid]
    exact eq_comm

lemma isSelf_iff (hbase64 : crates.base64.DecodeInvertsEncode) {uid : UserUid}
    {identity : Option UserUid} :
    some (uidText crates uid) = identity.map (uidText crates) ↔ identity = some uid := by
  cases identity with
  | none => simp
  | some self =>
    simp only [Option.map_some, Option.some.injEq, uidText_inj hbase64]
    exact eq_comm

end Values

section Handlers

variable {crates : Crates} {page : Page}

lemma isOpen_met (h : Peers page) (call : ℕ) (peerUid : String) :
    (page.peerConnection call peerUid).2.isOpen (page.peerConnection call peerUid).1 = true := by
  unfold Page.peerConnection
  cases hexisting : page.peerConnectionsRef peerUid with
  | some existing =>
    obtain ⟨rtc, hrtc, hopen, -⟩ := h.registered peerUid existing hexisting
    exact isOpen_iff.mpr ⟨rtc, hrtc, hopen⟩
  | none => exact isOpen_iff.mpr ⟨_, Function.update_self .., rfl⟩

lemma refs_met (page : Page) (call : ℕ) (peerUid uid : String) :
    ((page.peerConnection call peerUid).2.peerConnectionsRef uid).isSome =
      (uid = peerUid || (page.peerConnectionsRef uid).isSome) := by
  unfold Page.peerConnection
  by_cases huid : uid = peerUid
  · subst huid
    cases hexisting : page.peerConnectionsRef uid with
    | some existing => simp [hexisting]
    | none => simp
  · cases page.peerConnectionsRef peerUid with
    | some existing => simp [huid]
    | none => simp [huid, Function.update_of_ne]

/-- A peer that the page meets is one that the client sets up. -/
lemma InStep.met {app : App} (h : InStep crates page app)
    (hbase64 : crates.base64.DecodeInvertsEncode) (call : ℕ) (uid : UserUid)
    (connection : PeerConnection) :
    InStep crates (page.peerConnection call (uidText crates uid)).2 (app.setPeer uid connection) := by
  have hrefs := refs_met page call (uidText crates uid)
  have hpeers : ∀ uid', ((page.peerConnection call (uidText crates uid)).2.peerConnectionsRef
      (uidText crates uid')).isSome = ((app.setPeer uid connection).peerConnections uid').isSome := by
    intro uid'
    rw [hrefs, h.peers]
    by_cases huid : uid' = uid
    · simp [huid, App.setPeer]
    · have htext : uidText crates uid' ≠ uidText crates uid := fun he =>
        huid ((uidText_inj hbase64).mp he)
      simp [htext, App.setPeer, Function.update_of_ne huid]
  rw [peerConnection_eq] at hpeers ⊢
  exact ⟨h.room, hpeers⟩

lemma InStep.removed {app : App} (h : InStep crates page app)
    (hbase64 : crates.base64.DecodeInvertsEncode) (uid : UserUid) :
    InStep crates (page.removePeer (uidText crates uid)) (app.removePeer uid) := by
  refine { h with peers := fun uid' => ?_ }
  by_cases huid : uid' = uid
  · subst huid
    rw [(removePeer_self page _).1]
    simp [App.removePeer]
  · have htext : uidText crates uid' ≠ uidText crates uid := fun he =>
      huid ((uidText_inj hbase64).mp he)
    rw [(removePeer_other page htext).1, h.peers]
    simp [App.removePeer, Function.update_of_ne huid]

lemma Shows.met {app : App} (h : Shows crates page app) (hbase64 : crates.base64.DecodeInvertsEncode)
    (call : ℕ) (uid : UserUid) (connection : PeerConnection) :
    Shows crates (page.peerConnection call (uidText crates uid)).2 (app.setPeer uid connection) := by
  have hmet := h.toInStep.met hbase64 call uid connection
  rw [peerConnection_eq] at hmet ⊢
  exact { h with room := hmet.room, peers := hmet.peers }

lemma Shows.removed {app : App} (h : Shows crates page app)
    (hbase64 : crates.base64.DecodeInvertsEncode) (uid : UserUid) :
    Shows crates (page.removePeer (uidText crates uid)) (app.removePeer uid) :=
  { h with peers := (h.toInStep.removed hbase64 uid).peers }

end Handlers

/-! ### Messages about a room -/

section Equations

variable (crates : Crates) (page : Page) (identity : Option String) (call : ℕ) (roomId : Uuid)

lemma handle_peerJoined (peerUid : UserUid) (peerName : String) :
    page.handleServerMessage identity call
        (some ((ServerMessage.peerJoinedRoom roomId peerUid peerName).serialize crates)) =
      if ¬(some (.str roomId.hyphenated : JsonValue) = some (nullable page.activeRoomRef)) ∨
        some (uidText crates peerUid) = identity then page
      else (page.peerConnection call (uidText crates peerUid)).2.await call
        (.createOffer (page.peerConnection call (uidText crates peerUid)).1
          (uidText crates peerUid) page.activeRoomRef) := rfl

lemma handle_peerLeft (peerUid : UserUid) :
    page.handleServerMessage identity call
        (some ((ServerMessage.peerLeftRoom roomId peerUid).serialize crates)) =
      if some (.str roomId.hyphenated : JsonValue) = some (nullable page.activeRoomRef) then
        page.removePeer (uidText crates peerUid)
      else page := rfl

lemma handle_sdp (senderUid : UserUid) (sdpType : SdpType) (sdpRaw : String) :
    page.handleServerMessage identity call
        (some ((ServerMessage.forwardWebRtcSdp roomId senderUid sdpType sdpRaw).serialize crates)) =
      if some (.str roomId.hyphenated : JsonValue) = some (nullable page.activeRoomRef) then
        (page.peerConnection call (uidText crates senderUid)).2.await call
          (.remoteDescription (page.peerConnection call (uidText crates senderUid)).1
            (uidText crates senderUid) (if sdpType = .offer then "offer" else "answer") sdpRaw)
      else page := by
  cases sdpType <;> rfl

lemma handle_ice (senderUid : UserUid) (candidate : SerdeValue) :
    page.handleServerMessage identity call
        (some ((ServerMessage.forwardWebRtcIce roomId senderUid candidate).serialize crates)) =
      if some (.str roomId.hyphenated : JsonValue) = some (nullable page.activeRoomRef) ∧
        App.isObject candidate.tree then
        (page.peerConnection call (uidText crates senderUid)).2.await call
          (.iceCandidate (page.peerConnection call (uidText crates senderUid)).1 candidate.tree)
      else page := rfl

lemma handle_text (senderUid : UserUid) (senderName : String) (textContent : RoomTextContent)
    (serverTimestamp : UInt64) :
    page.handleServerMessage identity call
        (some ((ServerMessage.broadcastTextMessage roomId senderUid senderName textContent
          serverTimestamp).serialize crates)) =
      if some (.str roomId.hyphenated : JsonValue) = some (nullable page.activeRoomRef) then
        { page with messages := page.messages ++
          [⟨senderName, textContent.value, .int serverTimestamp.toNat⟩] }
      else page := rfl

end Equations

/-! ### One message -/

/-- The page is up to date and listens on a socket, and nothing has a number from `next` on. -/
structure Listening (crates : Crates) (parseJson : String → Option JsonValue) (page : Page)
    (app : App) (socket next : ℕ) : Prop where
  reachable : Execution.Reachable (Page.step parseJson) Page.start page
  ref : page.activeRoomRef = page.activeRoomId
  rendered : page.rendered.activeRoomId = page.activeRoomId
  effect : page.effect = none
  current : page.socketRef = some socket
  known : ∃ s, page.sockets socket = some s ∧ s.readyState = .opened ∧
    s.identity = app.identity.map (uidText crates)
  fresh : ∀ k, next ≤ k → page.unused k = true

/-- How the promises settle that the handler of a message waits for. -/
def promises (sign : String → UInt64 → Except String String) (sdp : String) (app : App) :
    ServerMessage → List Settlement
  | .authChallenge nonceBase64 serverTimestamp =>
    match sign nonceBase64 serverTimestamp with
    | .ok signatureBase64 => [.text signatureBase64]
    | .error _ => [.rejected]
  | .peerJoinedRoom roomId peerUid _ =>
    if app.activeRoomRef ≠ some roomId ∨ app.identity = some peerUid then []
    else [.text sdp, .done]
  | .forwardWebRtcSdp roomId _ sdpType _ =>
    if app.activeRoomRef = some roomId then
      match sdpType with
      | .offer => [.done, .text sdp, .done]
      | .answer => [.done]
    else []
  | .forwardWebRtcIce roomId _ candidate =>
    if app.activeRoomRef = some roomId ∧ App.isObject candidate.tree then [.done] else []
  | _ => []

/-- What has changed once a handler has run to its end. -/
structure Handled (crates : Crates) (page : Page) (next : ℕ) (page' : Page) (app' : App)
    (sent : List ClientMessage) : Prop where
  shows : Shows crates page' app'
  sockets : page'.sockets = page.sockets
  current : page'.socketRef = page.socketRef
  ref : page'.activeRoomRef = page.activeRoomRef
  effect : page'.effect = page.effect
  rendered : page'.rendered = page.rendered
  fresh : ∀ k, k ≠ next → page.unused k = true → page'.unused k = true
  frames : ∃ frames, page'.sent = page.sent ++ frames ∧ Conveys crates frames sent

section Messages

variable {crates : Crates} {parseJson : String → Option JsonValue} {page page' : Page}
  {app app' : App} {socket next : ℕ} {text : String} {sent : List ClientMessage}

lemma step_message (h : Listening crates parseJson page app socket next) {message : JsonValue}
    (hparse : parseJson text = some message) :
    page.step parseJson (.message socket next text) = some (page.handleServerMessage
      (app.identity.map (uidText crates)) next (some message)) := by
  obtain ⟨s, hs, hopened, hidentity⟩ := h.known
  have hunused := h.fresh next le_rfl
  simp [Page.step, hs, hopened, hidentity, hunused, hparse]

/-- A call that has just come to wait goes on. -/
lemma exec_settle {call : ℕ} {promise : Await} {outcome : Settlement} {events : List PageEvent}
    {page'' : Page} (hresume : (page.await call promise).resume call promise outcome = some page')
    (h : Execution.exec (Page.step parseJson) page' events = some page'') :
    Execution.exec (Page.step parseJson) (page.await call promise)
      (.settle call outcome :: events) = some page'' := by
  have hcall : (page.await call promise).calls call = some promise := by
    rw [await_calls, Function.update_self]
  have hstep : (page.await call promise).step parseJson (.settle call outcome) = some page' := by
    simp [Page.step, hcall, hresume]
  rw [Execution.exec_cons, hstep]
  exact h

/-- What has no number still has none. -/
lemma unused_of {k : ℕ} (h : page.unused k = true) (hcalls : page'.calls k = page.calls k)
    (hsockets : page'.sockets = page.sockets) (hstreams : page'.streams = page.streams)
    (hconnections : page.connections k = none → page'.connections k = none) :
    page'.unused k = true := by
  obtain ⟨hcall, hsocket, hstream, hconnection⟩ := unused_iff.mp h
  exact unused_iff.mpr ⟨hcalls.trans hcall, by rw [hsockets, hsocket], by rw [hstreams, hstream],
    hconnections hconnection⟩

lemma Handled.await (h : Handled crates page next page' app' sent) (promise : Await) :
    Handled crates page next (page'.await next promise) app' sent where
  shows := { h.shows with }
  sockets := h.sockets
  current := h.current
  ref := h.ref
  effect := h.effect
  rendered := h.rendered
  fresh k hk hunused := by
    refine unused_of (h.fresh k hk hunused) ?_ rfl rfl id
    rw [await_calls, Function.update_of_ne hk]
  frames := h.frames

lemma Handled.finish (h : Handled crates page next page' app' sent) :
    Handled crates page next (page'.finish next) app' sent where
  shows := { h.shows with }
  sockets := h.sockets
  current := h.current
  ref := h.ref
  effect := h.effect
  rendered := h.rendered
  fresh k hk hunused := by
    refine unused_of (h.fresh k hk hunused) ?_ rfl rfl id
    rw [finish_calls, Function.update_of_ne hk]
  frames := h.frames

/-- The page sends the frame of a message of the client. -/
lemma Handled.say (h : Handled crates page next page' app' sent)
    (hlistening : Listening crates parseJson page app socket next) (connection : Option ℕ)
    {event : String} {payload : List (String × JsonValue)} {message : ClientMessage}
    (hmessage : tagged event payload = message.serialize crates) :
    Handled crates page next (page'.sendMessage connection event payload) app'
      (sent ++ [message]) where
  shows := { h.shows with }
  sockets := h.sockets
  current := h.current
  ref := h.ref
  effect := h.effect
  rendered := h.rendered
  fresh k hk hunused := unused_of (h.fresh k hk hunused) rfl rfl rfl id
  frames := by
    obtain ⟨frames, hsent, hconveys⟩ := h.frames
    have hopen : page'.openSocket = some socket := by
      obtain ⟨s, hs, hopened, -⟩ := hlistening.known
      exact openSocket_eq_some.mpr ⟨h.current.trans hlistening.current, s, by rw [h.sockets, hs],
        hopened⟩
    refine ⟨frames ++ [⟨socket, event, payload, connection, page'.visit, page'.activeRoomId⟩],
      ?_, ?_⟩
    · rw [Page.sendMessage, hopen, hsent]
      exact List.append_assoc ..
    · rw [Conveys, List.map_append, List.map_append, hconveys]
      exact congrArg (_ ++ [·]) hmessage

/-- A handler that changes only what the screen shows. -/
lemma Handled.same (hshows : Shows crates page' app') (hsockets : page'.sockets = page.sockets)
    (hcurrent : page'.socketRef = page.socketRef) (href : page'.activeRoomRef = page.activeRoomRef)
    (heffect : page'.effect = page.effect) (hrendered : page'.rendered = page.rendered)
    (hfresh : ∀ k, k ≠ next → page.unused k = true → page'.unused k = true)
    (hsent : page'.sent = page.sent) : Handled crates page next page' app' [] :=
  ⟨hshows, hsockets, hcurrent, href, heffect, hrendered, hfresh, [], by simpa using hsent, rfl⟩

lemma Handled.met (h : Shows crates page app) (hbase64 : crates.base64.DecodeInvertsEncode)
    (uid : UserUid) (connection : PeerConnection) :
    Handled crates page next (page.peerConnection next (uidText crates uid)).2
      (app.setPeer uid connection) [] := by
  have hshows := h.met hbase64 next uid connection
  have hfresh : ∀ k, k ≠ next → page.connections k = none →
      (page.peerConnection next (uidText crates uid)).2.connections k = none := by
    intro k hk hnone
    unfold Page.peerConnection
    split
    · exact hnone
    · exact (Function.update_of_ne hk ..).trans hnone
  rw [peerConnection_eq] at hshows ⊢
  exact .same hshows rfl rfl rfl rfl rfl
    (fun k hk hunused => unused_of hunused rfl rfl rfl (hfresh k hk)) rfl

/-- The page makes an offer to a peer that has joined. -/
lemma handled_offer (h : Shows crates page app)
    (hlistening : Listening crates parseJson page app socket next)
    (hbase64 : crates.base64.DecodeInvertsEncode) {roomId : Uuid}
    (hroom : app.activeRoomRef = some roomId) (uid : UserUid) (sdp : String) :
    ∃ page', Execution.exec (Page.step parseJson)
        ((page.peerConnection next (uidText crates uid)).2.await next
          (.createOffer (page.peerConnection next (uidText crates uid)).1 (uidText crates uid)
            page.activeRoomRef))
        [.settle next (.text sdp), .settle next .done] = some page' ∧
      Handled crates page next page'
        (app.setPeer uid { app.peerConnection uid with localOffer := some sdp })
        [.sendWebRtcSdp roomId uid .offer sdp] := by
  have hmet : Handled crates page next _ _ [] :=
    .met h hbase64 uid { app.peerConnection uid with localOffer := some sdp }
  have hopen := isOpen_met (peers_of_reachable hlistening.reachable) next (uidText crates uid)
  generalize page.peerConnection next (uidText crates uid) = met at hmet hopen
  obtain ⟨connection, met⟩ := met
  refine ⟨_, exec_settle (if_pos hopen) (exec_settle (if_pos hopen) rfl),
    ((hmet.await _).await _).finish.say hlistening _ ?_⟩
  rw [h.ref, hroom]
  rfl

/-- The page answers an offer. -/
lemma handled_answer (h : Shows crates page app)
    (hlistening : Listening crates parseJson page app socket next)
    (hbase64 : crates.base64.DecodeInvertsEncode) {roomId : Uuid}
    (hroom : app.activeRoomRef = some roomId) (uid : UserUid) (offer sdp : String) :
    ∃ page', Execution.exec (Page.step parseJson)
        ((page.peerConnection next (uidText crates uid)).2.await next
          (.remoteDescription (page.peerConnection next (uidText crates uid)).1
            (uidText crates uid) "offer" offer))
        [.settle next .done, .settle next (.text sdp), .settle next .done] = some page' ∧
      Handled crates page next page'
        (app.setPeer uid { app.peerConnection uid with localOffer := none })
        [.sendWebRtcSdp roomId uid .answer sdp] := by
  have hmet : Handled crates page next _ _ [] :=
    .met h hbase64 uid { app.peerConnection uid with localOffer := none }
  have hopen := isOpen_met (peers_of_reachable hlistening.reachable) next (uidText crates uid)
  generalize page.peerConnection next (uidText crates uid) = met at hmet hopen
  obtain ⟨connection, met⟩ := met
  refine ⟨_, exec_settle (if_pos hopen) (exec_settle (if_pos hopen)
    (exec_settle (if_pos hopen) rfl)),
    (((hmet.await _).await _).await _).finish.say hlistening _ ?_⟩
  have href : met.activeRoomRef = some roomId.hyphenated := by
    rw [hmet.ref, h.ref, hroom]
    rfl
  change tagged _ (("room_id", nullable met.activeRoomRef) :: _) = _
  rw [href]
  rfl

lemma unused_cleanup {k : ℕ} (h : page.unused k = true) : page.cleanupMedia.unused k = true := by
  obtain ⟨hcall, hsocket, hstream, hconnection⟩ := unused_iff.mp h
  refine unused_iff.mpr ⟨hcall, hsocket, ?_, congrArg (Option.map _) hconnection⟩
  cases h : page.cleanupMedia.streams k with
  | none => rfl
  | some s =>
    rcases onLocalStream_eq_some h with ⟨-, s', hs', -⟩ | ⟨-, hs'⟩
    · rw [hstream] at hs'
      cases hs'
    · rw [hstream] at hs'
      cases hs'

/-- The handler of a message runs to its end and does what the client does. -/
lemma handled_of_message (h : Shows crates page app)
    (hlistening : Listening crates parseJson page app socket next)
    (hbase64 : crates.base64.DecodeInvertsEncode) (huuid : crates.ReadsHyphenated)
    (sign : String → UInt64 → Except String String) (sdp : String) {message : ServerMessage}
    (hfailure : ∀ reason, message ≠ .authFailure reason) :
    ∃ page', Execution.exec (Page.step parseJson)
        (page.handleServerMessage (app.identity.map (uidText crates)) next
          (some (message.serialize crates)))
        ((promises sign sdp app message).map (.settle next)) = some page' ∧
      Handled crates page next page'
        ((app.handleServerMessage sign sdp message).getD (app, [])).1
        ((app.handleServerMessage sign sdp message).getD (app, [])).2 := by
  have hsame : Handled crates page next page app [] :=
    .same h rfl rfl rfl rfl rfl (fun _ _ => id) rfl
  have hroom : ∀ roomId : Uuid, some (.str roomId.hyphenated : JsonValue) =
      some (nullable page.activeRoomRef) ↔ app.activeRoomRef = some roomId := by
    intro roomId
    rw [h.ref]
    exact inRoom_iff huuid
  cases message with
  | authChallenge nonceBase64 serverTimestamp =>
    simp only [App.handleServerMessage, promises]
    cases sign nonceBase64 serverTimestamp with
    | ok signatureBase64 =>
      exact ⟨_, exec_settle rfl rfl, (hsame.await _).finish.say hlistening _ rfl⟩
    | error _ =>
      refine ⟨_, exec_settle rfl rfl, ?_⟩
      have hfinished := (hsame.await (.signature nonceBase64 (.int serverTimestamp.toNat))).finish
      exact { hfinished with shows := { hfinished.shows with error := rfl } }
  | authSuccess verifiedUid assignedName serverName =>
    exact ⟨_, rfl, .same { h with status := rfl, error := rfl } rfl rfl rfl rfl rfl
      (fun _ _ => id) rfl⟩
  | authFailure reason => exact absurd rfl (hfailure reason)
  | voiceRoomJoined roomId =>
    refine ⟨_, rfl, .same ?_ rfl rfl rfl rfl rfl ?_ rfl⟩
    · exact { h with room := rfl, peers := fun _ => rfl, messages := rfl }
    · exact fun k _ hunused => unused_of hunused rfl rfl rfl (congrArg (Option.map _))
  | voiceRoomLeft roomId =>
    refine ⟨_, rfl, .same ?_ rfl rfl rfl rfl rfl ?_ rfl⟩
    · exact { h with room := rfl, peers := fun _ => rfl, messages := rfl }
    · intro k _ hunused
      exact unused_cleanup (unused_of hunused rfl rfl rfl id)
  | peerJoinedRoom roomId peerUid peerName =>
    simp only [handle_peerJoined, hroom, isSelf_iff hbase64, App.handleServerMessage, promises]
    by_cases hdropped : ¬app.activeRoomRef = some roomId ∨ app.identity = some peerUid
    · simp only [if_pos hdropped]
      exact ⟨page, rfl, hsame⟩
    · simp only [if_neg hdropped]
      exact handled_offer h hlistening hbase64 (not_not.mp (not_or.mp hdropped).1) peerUid sdp
  | peerLeftRoom roomId peerUid =>
    simp only [handle_peerLeft, hroom, App.handleServerMessage, promises]
    by_cases hactive : app.activeRoomRef = some roomId
    · simp only [if_pos hactive]
      exact ⟨_, rfl, .same (h.removed hbase64 peerUid) rfl rfl rfl rfl rfl
        (fun k _ hunused => unused_of hunused rfl rfl rfl (congrArg (Option.map _))) rfl⟩
    · simp only [if_neg hactive]
      exact ⟨page, rfl, hsame⟩
  | forwardWebRtcSdp roomId senderUid sdpType sdpRaw =>
    simp only [handle_sdp, hroom, App.handleServerMessage, promises]
    by_cases hactive : app.activeRoomRef = some roomId
    · simp only [if_pos hactive]
      cases sdpType with
      | offer => exact handled_answer h hlistening hbase64 hactive senderUid sdpRaw sdp
      | answer =>
        have hopen := isOpen_met (peers_of_reachable hlistening.reachable) next
          (uidText crates senderUid)
        exact ⟨_, exec_settle (if_pos hopen) rfl, ((Handled.met h hbase64 senderUid _).await _).finish⟩
    · simp only [if_neg hactive]
      exact ⟨page, rfl, hsame⟩
  | forwardWebRtcIce roomId senderUid candidate =>
    simp only [handle_ice, hroom, App.handleServerMessage, promises]
    by_cases hactive : app.activeRoomRef = some roomId ∧ App.isObject candidate.tree
    · simp only [if_pos hactive]
      have hopen := isOpen_met (peers_of_reachable hlistening.reachable) next
        (uidText crates senderUid)
      exact ⟨_, exec_settle (if_pos hopen) rfl, ((Handled.met h hbase64 senderUid _).await _).finish⟩
    · simp only [if_neg hactive]
      exact ⟨page, rfl, hsame⟩
  | broadcastTextMessage roomId senderUid senderName textContent serverTimestamp =>
    simp only [handle_text, hroom, App.handleServerMessage, promises]
    by_cases hactive : app.activeRoomRef = some roomId
    · simp only [if_pos hactive]
      refine ⟨_, rfl, .same { h with messages := ?_ } rfl rfl rfl rfl rfl (fun _ _ => id) rfl⟩
      simp [h.messages]
    · simp only [if_neg hactive]
      exact ⟨page, rfl, hsame⟩

/-- The effect of the next render copies the room. -/
lemma ref_settled (h : Listening crates parseJson page app socket next)
    (href : page'.activeRoomRef = page.activeRoomRef) (heffect : page'.effect = page.effect)
    (hrendered : page'.rendered = page.rendered) :
    page'.render.runEffect.activeRoomRef = page'.activeRoomId := by
  have hnone : page'.effect = none := heffect.trans h.effect
  by_cases hroom : page'.activeRoomId = page'.rendered.activeRoomId
  · simp only [Page.runEffect, Page.render, hnone, if_pos hroom, Option.getD_none]
    rw [hroom, hrendered, h.rendered, href, h.ref]
  · simp only [Page.runEffect, Page.render, if_neg hroom, Option.getD_some]

/-- React renders what the handler has set, and its effect runs. -/
lemma Handled.settled (h : Handled crates page next page' app' sent)
    (hlistening : Listening crates parseJson page app socket next)
    (hidentity : app'.identity = app.identity)
    (hreach : Execution.Reachable (Page.step parseJson) Page.start page') :
    Shows crates page'.render.runEffect app'.settle ∧
      Listening crates parseJson page'.render.runEffect app'.settle socket (next + 1) := by
  have href := ref_settled hlistening h.ref h.effect h.rendered
  refine ⟨{ h.shows with ref := href.trans h.shows.room }, ?_⟩
  obtain ⟨s, hs, hopened, hsame⟩ := hlistening.known
  exact
    { reachable := Execution.Reachable.tail (a := .effect)
        (Execution.Reachable.tail (a := .render) hreach rfl) rfl
      ref := href
      rendered := rfl
      effect := rfl
      current := h.current.trans hlistening.current
      known := ⟨s, by rw [← hs, ← h.sockets]; rfl, hopened, hsame.trans (by rw [← hidentity]; rfl)⟩
      fresh := fun k hk => h.fresh k (by omega) (hlistening.fresh k (by omega)) }

/-- A failure is shown, and the socket is closed. -/
lemma exec_failure (h : Shows crates page app)
    (hlistening : Listening crates parseJson page app socket next)
    {reason : AuthFailureReason}
    (hparse : parseJson text = some ((ServerMessage.authFailure reason).serialize crates)) :
    ∃ page', Execution.exec (Page.step parseJson) page
        [.message socket next text, .render, .effect] = some page' ∧
      Shows crates page' (App.settle { app with
        errorMessage := some (if reason = .requestExpired then
            "The authentication challenge expired. Please connect again."
          else "Authentication was rejected by the server.") }) ∧
      page'.sent = page.sent := by
  rw [Execution.exec_cons, step_message hlistening hparse]
  refine ⟨_, rfl, { h with ref := ?_, error := ?_ }, rfl⟩
  · exact (ref_settled hlistening rfl rfl rfl).trans h.room
  · cases reason <;> rfl

end Messages

/-! ### A log -/

/-- An entry of a log with the text that has come for it, and what a peer connection would describe
itself by. -/
structure Heard where
  message : ServerMessage
  text : String
  sdp : String

/-- The client after a log. -/
def hearAll (sign : String → UInt64 → Except String String) (client : Client) (log : List Heard) :
    Client :=
  log.foldl (fun client heard => (client.hear sign heard.sdp heard.message).1) client

/-- The events of a page that takes in a log on a socket. -/
def hearing (sign : String → UInt64 → Except String String) (socket : ℕ) :
    ℕ → Client → List Heard → List PageEvent
  | _, _, [] => []
  | next, client, heard :: log =>
    .message socket next heard.text ::
      (promises sign heard.sdp client.app heard.message).map (.settle next) ++
        .render :: .effect ::
          hearing sign socket (next + 1) (client.hear sign heard.sdp heard.message).1 log

section Logs

variable {crates : Crates} {parseJson : String → Option JsonValue} {page : Page}
  {client : Client} {socket next : ℕ}

/-- Every handler runs to its end before React renders. A failure may come last. -/
lemma exec_hearing (sign : String → UInt64 → Except String String)
    (hbase64 : crates.base64.DecodeInvertsEncode) (huuid : crates.ReadsHyphenated)
    (log : List Heard)
    (hparse : ∀ heard ∈ log, parseJson heard.text = some (heard.message.serialize crates))
    (hfailure : ∀ heard ∈ log.dropLast, ∀ reason, heard.message ≠ .authFailure reason)
    (hshows : Shows crates page client.app)
    (hlistening : Listening crates parseJson page client.app socket next) :
    ∃ page' frames sent, Execution.exec (Page.step parseJson) page
        (hearing sign socket next client log) = some page' ∧
      Shows crates page' (hearAll sign client log).app ∧
      page'.sent = page.sent ++ frames ∧
      (hearAll sign client log).outgoing = client.outgoing ++ sent ∧
      Conveys crates frames sent := by
  induction log generalizing page client next with
  | nil => exact ⟨page, [], [], rfl, hshows, by simp, by simp [hearAll], rfl⟩
  | cons heard log ih =>
    have hheard := hparse heard List.mem_cons_self
    by_cases hfails : ∃ reason, heard.message = .authFailure reason
    · obtain ⟨reason, hmessage⟩ := hfails
      have hlast : log = [] := by
        by_contra hne
        rw [List.dropLast_cons_of_ne_nil hne] at hfailure
        exact hfailure heard List.mem_cons_self reason hmessage
      subst hlast
      rw [hmessage] at hheard
      obtain ⟨page', hexec, hshows', hsent⟩ := exec_failure hshows hlistening hheard
      refine ⟨page', [], [], ?_, ?_, by simpa using hsent, ?_, rfl⟩
      · rw [hearing, hmessage]
        exact hexec
      · rw [hearAll, List.foldl_cons, hmessage]
        exact hshows'
      · rw [hearAll, List.foldl_cons, hmessage]
        rfl
    · obtain ⟨page₁, hexec, hhandled⟩ := handled_of_message hshows hlistening hbase64 huuid sign
        heard.sdp (fun reason he => hfails ⟨reason, he⟩)
      have hexec₁ : Execution.exec (Page.step parseJson) page (.message socket next heard.text ::
          (promises sign heard.sdp client.app heard.message).map (.settle next)) = some page₁ := by
        rw [Execution.exec_cons, step_message hlistening hheard]
        exact hexec
      obtain ⟨as, has⟩ := hlistening.reachable
      obtain ⟨hshows₁, hlistening₁⟩ := hhandled.settled hlistening
        (identity_hear sign heard.sdp client heard.message)
        ⟨_, Execution.exec_append_of _ has hexec₁⟩
      have hlater : ∀ later ∈ log.dropLast, ∀ reason, later.message ≠ .authFailure reason := by
        intro later hmem
        apply hfailure later
        rw [List.dropLast_cons_of_ne_nil (by rintro rfl; cases hmem)]
        exact List.mem_cons_of_mem _ hmem
      obtain ⟨page', frames, sent, hexec', hshows', hsent', houtgoing', hconveys'⟩ :=
        @ih page₁.render.runEffect (client.hear sign heard.sdp heard.message).1 (next + 1)
          (fun later hmem => hparse later (List.mem_cons_of_mem _ hmem)) hlater hshows₁ hlistening₁
      obtain ⟨frames₁, hsent₁, hconveys₁⟩ := hhandled.frames
      refine ⟨page', frames₁ ++ frames, _, Execution.exec_append_of _ hexec₁ hexec', hshows', ?_,
        houtgoing'.trans (List.append_assoc ..), ?_⟩
      · rw [hsent', ← List.append_assoc, ← hsent₁]
        rfl
      · rw [Conveys, List.map_append, List.map_append, hconveys₁, hconveys']
        rfl

/-- A user opens the page and connects. -/
def opening (userUid : String) : List PageEvent :=
  [.settle 0 (.text userUid), .render, .connect 1, .settle 1 (.text userUid), .opened 1]

/-- A page that has connected knows what a connected client knows. -/
lemma listening_of_opening (crates : Crates) (parseJson : String → Option JsonValue)
    (uid : UserUid) : ∃ page,
      Execution.exec (Page.step parseJson) Page.start (opening (uidText crates uid)) = some page ∧
      Shows crates page (Client.connected uid).app ∧
      Listening crates parseJson page (Client.connected uid).app 1 2 ∧
      Conveys crates page.sent (Client.connected uid).outgoing := by
  refine ⟨_, rfl, ⟨⟨rfl, fun _ => rfl⟩, rfl, rfl, rfl, rfl⟩, ⟨⟨opening (uidText crates uid), rfl⟩,
    rfl, rfl, rfl, rfl, ⟨_, rfl, rfl, rfl⟩, fun k hk => ?_⟩, rfl⟩
  refine unused_iff.mpr ⟨rfl, ?_, rfl, rfl⟩
  have hother : k ≠ 1 := by omega
  exact (Function.update_of_ne hother ..).trans (Function.update_of_ne hother ..)

end Logs

/-- A page that has connected, on any log of the server: where every handler runs to its end and
React renders before the next message, the page shows what the client has come to know, and its
frames say what the messages of the client say. A failure to authenticate comes last. -/
theorem page_follows_client {crates : Crates} {parseJson : String → Option JsonValue}
    (hbase64 : crates.base64.DecodeInvertsEncode) (huuid : crates.ReadsHyphenated)
    (sign : String → UInt64 → Except String String) (uid : UserUid) (log : List Heard)
    (hparse : ∀ heard ∈ log, parseJson heard.text = some (heard.message.serialize crates))
    (hfailure : ∀ heard ∈ log.dropLast, ∀ reason, heard.message ≠ .authFailure reason) :
    ∃ page, Execution.exec (Page.step parseJson) Page.start
        (opening (uidText crates uid) ++ hearing sign 1 2 (Client.connected uid) log) = some page ∧
      Shows crates page (hearAll sign (Client.connected uid) log).app ∧
      Conveys crates page.sent (hearAll sign (Client.connected uid) log).outgoing := by
  obtain ⟨page, hopening, hshows, hlistening, hconveys⟩ := listening_of_opening crates parseJson uid
  obtain ⟨page', frames, sent, hexec, hshows', hsent, houtgoing, hconveys'⟩ :=
    exec_hearing sign hbase64 huuid log hparse hfailure hshows hlistening
  refine ⟨page', Execution.exec_append_of _ hopening hexec, hshows', ?_⟩
  rw [hsent, houtgoing, Conveys, List.map_append, List.map_append, hconveys, hconveys']

/-- An entry whose text the server has written. -/
def written (message : ServerMessage) (sdp : String) : Heard :=
  ⟨message, String.ofList (message.serialize Reference.wireCrates).text, sdp⟩

lemma parse_written {message : ServerMessage} {sdp : String}
    (hintegral : (message.serialize Reference.wireCrates).integral = true) :
    Reference.wireCrates.parseJson (written message sdp).text =
      some (message.serialize Reference.wireCrates) :=
  Reference.parseJson_text hintegral

/-- The first login enters the room, and the second one comes in and answers. -/
def pageLog : List Heard :=
  [written (.voiceRoomJoined Reference.room) "",
    written (.peerJoinedRoom Reference.room ⟨Reference.second.key⟩ "second") "offer",
    written (.forwardWebRtcSdp Reference.room ⟨Reference.second.key⟩ .answer "answer") ""]

theorem page_follows_client_meeting : ∃ page,
    Execution.exec (Page.step Reference.wireCrates.parseJson) Page.start
      (opening (uidText Reference.wireCrates ⟨Reference.first.key⟩) ++
        hearing (fun _ _ => .error "") 1 2 (Client.connected ⟨Reference.first.key⟩) pageLog) =
        some page ∧
      page.activeRoomId = some Reference.room.hyphenated ∧
      (page.peerConnectionsRef
        (uidText Reference.wireCrates ⟨Reference.second.key⟩)).isSome = true := by
  have hparse : ∀ heard ∈ pageLog, Reference.wireCrates.parseJson heard.text =
      some (heard.message.serialize Reference.wireCrates) := by
    intro heard hheard
    simp only [pageLog, List.mem_cons, List.not_mem_nil, or_false] at hheard
    rcases hheard with rfl | rfl | rfl
    · exact parse_written rfl
    · exact parse_written rfl
    · exact parse_written rfl
  have hfailure : ∀ heard ∈ pageLog.dropLast, ∀ reason, heard.message ≠ .authFailure reason := by
    intro heard hheard reason
    simp only [pageLog, List.dropLast, List.mem_cons, List.not_mem_nil, or_false] at hheard
    rcases hheard with rfl | rfl
    · nofun
    · nofun
  obtain ⟨page, hexec, hshows, -⟩ := page_follows_client Reference.base64_decodes
    (fun uuid => Reference.readsHyphenated uuid) (fun _ _ => .error "") ⟨Reference.first.key⟩
    pageLog hparse hfailure
  refine ⟨page, hexec, hshows.room.trans ?_, (hshows.peers _).trans ?_⟩
  · decide +kernel
  · decide +kernel

end VTNet.Proofs
