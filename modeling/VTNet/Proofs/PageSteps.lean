import VTNet.Page
import VTNet.Lib.Execution

/-!
# What an event can do to the client

Every branch of every handler is one of a few moves, up to what only the screen shows.
-/

namespace VTNet.Proofs

/-- What decides nothing but what the screen shows. -/
structure Shown where
  identity : Option String
  roomIdInput : String
  textInput : String
  messages : List PageMessage
  errorMessage : Option String

def Shown.on (shown : Shown) (page : Page) : Page :=
  { page with
    identity := shown.identity, roomIdInput := shown.roomIdInput, textInput := shown.textInput
    messages := shown.messages, errorMessage := shown.errorMessage }

def shownOf (page : Page) : Shown :=
  ⟨page.identity, page.roomIdInput, page.textInput, page.messages, page.errorMessage⟩

/-- The message of an event arrives on an open socket. -/
def Hears (page : Page) (event : PageEvent) : Prop :=
  ∃ socket call rawPayload s, event = .message socket call rawPayload ∧
    page.sockets socket = some s ∧ s.readyState = .opened

/-- The message of an event has this name and payload. -/
def Bears (parseJson : String → Option JsonValue) (event : PageEvent) (name : String)
    (payload : String → Option JsonValue) : Prop :=
  ∃ socket call rawPayload message value, event = .message socket call rawPayload ∧
    parseJson rawPayload = some message ∧
    property "event" (some message) = some (some (.str name)) ∧
    (property "payload" (some message)).join = some value ∧
    payload = fun field => (property field (some value)).join

/-- The messages that are about a peer, and where they name it. -/
def peerFields : List (String × String) :=
  [("peer_joined_room", "peer_uid"), ("forward_web_rtc_sdp", "sender_uid"),
    ("forward_web_rtc_ice", "sender_uid")]

/-- A message about a peer in the room of the ref. -/
def Introduces (parseJson : String → Option JsonValue) (page : Page) (event : PageEvent)
    (peerUid : String) : Prop :=
  ∃ name field payload, Bears parseJson event name payload ∧ (name, field) ∈ peerFields ∧
    asString (payload field) = some peerUid ∧
    payload "room_id" = some (nullable page.activeRoomRef)

/-- What a click sends. -/
inductive Said (page : Page) : String → List (String × JsonValue) → Prop
  | join (valid : isUuid page.rendered.roomIdInput = true) :
      Said page "join_voice_room" [("room_id", .str page.rendered.roomIdInput)]
  | leave {activeRoomId : String} (shown : page.rendered.activeRoomId = some activeRoomId) :
      Said page "leave_voice_room" [("room_id", .str activeRoomId)]
  | text {activeRoomId : String} (shown : page.rendered.activeRoomId = some activeRoomId)
      (content : isBlank page.rendered.textInput = false) :
      Said page "send_text_message"
        [("room_id", .str activeRoomId), ("text_content", .str page.rendered.textInput)]

/-- The connection whose promise a call waits for. -/
def connectionOf : Await → Option ℕ
  | .createOffer connection _ _ => some connection
  | .localOffer connection _ _ _ => some connection
  | .remoteDescription connection _ _ _ => some connection
  | .createAnswer connection _ => some connection
  | .localAnswer connection _ _ => some connection
  | .iceCandidate connection _ => some connection
  | _ => none

/-- The peer of that connection, where the call will send to it. -/
def peerOf : Await → Option String
  | .createOffer _ peerUid _ => some peerUid
  | .localOffer _ peerUid _ _ => some peerUid
  | .remoteDescription _ peerUid _ _ => some peerUid
  | .createAnswer _ peerUid => some peerUid
  | .localAnswer _ peerUid _ => some peerUid
  | _ => none

/-- The connection and the room of an offer that is being made. -/
def offerOf : Await → Option (ℕ × Option String)
  | .createOffer connection _ roomId => some (connection, roomId)
  | .localOffer connection _ roomId _ => some (connection, roomId)
  | _ => none

/-- What a handler does before React renders. -/
inductive Move (parseJson : String → Option JsonValue) (page : Page) (event : PageEvent) :
    Page → Prop
  | idle : Move parseJson page event page
  | finish {call : ℕ} {promise : Await} (pending : page.calls call = some promise)
      (other : ∀ identity, promise ≠ .identity identity) : Move parseJson page event (page.finish call)
  | sign {call : ℕ} (hears : Hears page event) (unused : page.unused call = true)
      (nonceBase64 : String) (serverTimestamp : JsonValue) :
      Move parseJson page event (page.await call (.signature nonceBase64 serverTimestamp))
  | dial {call : ℕ} {identity : Option String} (userUid : String)
      (pending : page.calls call = some (.identity identity))
      (settled : event = .settle call (.text userUid)) :
      Move parseJson page event { page.finish call with
        sockets := Function.update page.sockets call (some ⟨.connecting, userUid, identity⟩)
        socketRef := some call }
  | unidentified {call : ℕ} {identity : Option String}
      (pending : page.calls call = some (.identity identity)) :
      Move parseJson page event { page.finish call with connectionStatus := .disconnected }
  | hangUp : Move parseJson page event page.closeSocket
  | opened {socket : ℕ} {s : Socket} (known : page.sockets socket = some s)
      (connecting : s.readyState = .connecting) :
      Move parseJson page event ({ page with
        sockets := Function.update page.sockets socket (some { s with readyState := .opened })
        connectionStatus := .authenticating }.sendMessage none "auth_identify"
          [("protocol_version", .int protocolVersion.toNat), ("client_uid", .str s.userUid)])
  | authenticated (hears : Hears page event) :
      Move parseJson page event { page with connectionStatus := .connected }
  | entered (hears : Hears page event) (roomId : String) {payload : String → Option JsonValue}
      (bears : Bears parseJson event "voice_room_joined" payload)
      (told : asString (payload "room_id") = some roomId) :
      Move parseJson page event (page.closePeers.setActiveRoomId (some roomId))
  | left (hears : Hears page event) : Move parseJson page event (page.setActiveRoomId none).cleanupMedia
  | closed {socket : ℕ} {failed : Bool} {s : Socket} (fired : event = .closed socket failed)
      (known : page.sockets socket = some s) (running : s.readyState ≠ .closed) :
      Move parseJson page event { page.setActiveRoomId none with
        sockets := Function.update page.sockets socket (some { s with readyState := .closed })
        socketRef := none, activeRoomRef := none
        connectionStatus := .disconnected }.cleanupMedia
  | meet {call : ℕ} (hears : Hears page event) (unused : page.unused call = true)
      (peerUid : String) {promise : Await}
      (waits : connectionOf promise = some (page.peerConnection call peerUid).1)
      (peer : ∀ uid, peerOf promise = some uid → uid = peerUid)
      (room : ∀ k roomId, offerOf promise = some (k, roomId) → roomId = page.activeRoomRef)
      (introduced : Introduces parseJson page event peerUid) :
      Move parseJson page event ((page.peerConnection call peerUid).2.await call promise)
  | dropPeer (hears : Hears page event) (peerUid : String) :
      Move parseJson page event (page.removePeer peerUid)
  | advance {call connection : ℕ} {promise promise' : Await}
      (pending : page.calls call = some promise) (waits : connectionOf promise = some connection)
      (opened : page.isOpen connection = true) (waits' : connectionOf promise' = some connection)
      (peer : peerOf promise' = peerOf promise)
      (kept : ∀ offer, offerOf promise' = some offer → offerOf promise = some offer) :
      Move parseJson page event (page.await call promise')
  | describe {call connection : ℕ} {promise : Await} (pending : page.calls call = some promise)
      (waits : connectionOf promise = some connection) (opened : page.isOpen connection = true)
      {peerUid : String} (peer : peerOf promise = some peerUid) (sdpType sdp : String)
      (roomId : Option String)
      (room : roomId = page.activeRoomRef ∨ offerOf promise = some (connection, roomId))
      (kind : sdpType = "offer" ∨ sdpType = "answer") :
      Move parseJson page event ((page.finish call).sendMessage (some connection) "send_web_rtc_sdp"
        [("room_id", nullable roomId), ("target_uid", .str peerUid), ("sdp_type", .str sdpType),
          ("sdp_raw", .str sdp)])
  | offerCandidate {connection : ℕ} {rtc : RtcConnection} {roomId : String}
      (known : page.connections connection = some rtc) (running : rtc.closed = false)
      (room : page.activeRoomRef = some roomId) (candidate : JsonValue) :
      Move parseJson page event (page.sendMessage (some connection) "send_web_rtc_ice"
        [("room_id", .str roomId), ("target_uid", .str rtc.peerUid), ("candidate", candidate)])
  | track {connection : ℕ} {rtc : RtcConnection} (known : page.connections connection = some rtc)
      (running : rtc.closed = false) (audio : ℕ) :
      Move parseJson page event { page with
        remoteAudioRef := Function.update page.remoteAudioRef rtc.peerUid (some audio) }
  | say (name : String) (other : name ≠ "auth_identify") (payload : List (String × JsonValue))
      (said : Said page name payload) :
      Move parseJson page event (page.sendMessage none name payload)
  | respond {call : ℕ} {nonceBase64 : String} {serverTimestamp : JsonValue}
      (pending : page.calls call = some (.signature nonceBase64 serverTimestamp))
      (signatureBase64 : String) :
      Move parseJson page event ((page.finish call).sendMessage none "auth_response"
        [("signature_base64", .str signatureBase64)])
  | askMicrophone {call : ℕ} (join : event = .join call) (unused : page.unused call = true)
      (connected : page.rendered.connectionStatus = .connected)
      (silent : page.localStreamRef = none)
      (valid : isUuid page.rendered.roomIdInput = true) :
      Move parseJson page event
        (page.await call (.microphone page.rendered.roomIdInput page.rendered.isMuted))
  | granted {call : ℕ} {roomIdInput : String} {isMuted : Bool}
      (pending : page.calls call = some (.microphone roomIdInput isMuted)) :
      Move parseJson page event ({ page.finish call with
        streams := Function.update page.streams call (some ⟨!isMuted, true⟩)
        localStreamRef := some call }.sendMessage none "join_voice_room"
          [("room_id", .str roomIdInput)])
  | effect : Move parseJson page event page.runEffect
  | unmount (fired : event = .unmount) :
      Move parseJson page event page.closeSocket.cleanupMedia

/-- The clicks that change what the next click depends on. -/
inductive Press (page : Page) (event : PageEvent) : Page → Prop
  | connect {call : ℕ} (unused : page.unused call = true)
      (disconnected : page.rendered.connectionStatus = .disconnected) :
      Press page event ({ page with connectionStatus := .connecting }.await call
        (.identity page.rendered.identity))
  | toggle (click : event = .toggleMute) :
      Press page event { page with
        streams := page.onLocalStream fun stream =>
          { stream with enabled := page.rendered.isMuted }
        isMuted := !page.rendered.isMuted }

/-- A step is a move. What is typed or clicked is rendered at once. -/
inductive PageStepped (parseJson : String → Option JsonValue) (page : Page) (event : PageEvent) :
    Page → Prop
  | plain {moved : Page} (move : Move parseJson page event moved) (shown : Shown) :
      PageStepped parseJson page event (shown.on moved)
  | click {moved : Page} (move : Move parseJson page event moved) (shown : Shown) :
      PageStepped parseJson page event (shown.on moved).render
  | press {moved : Page} (press : Press page event moved) (shown : Shown) :
      PageStepped parseJson page event (shown.on moved).render

lemma updated_iff {α : Type*} {objects : ℕ → Option α} {k j : ℕ} {made object : α} :
    Function.update objects k (some made) j = some object ↔
      j = k ∧ object = made ∨ j ≠ k ∧ objects j = some object := by
  by_cases hj : j = k
  · subst hj
    simp [eq_comm]
  · simp [hj]

lemma lookup_cons_ne {pending : List (ℕ × Await)} {call call' : ℕ} {promise : Await}
    (h : call' ≠ call) : ((call, promise) :: pending).lookup call' = pending.lookup call' := by
  simp [List.lookup_cons, beq_false_of_ne h]

lemma lookup_filter (pending : List (ℕ × Await)) (call call' : ℕ) :
    (pending.filter (·.1 ≠ call)).lookup call' =
      if call' = call then none else pending.lookup call' := by
  induction pending with
  | nil => simp
  | cons entry pending ih =>
    obtain ⟨other, promise⟩ := entry
    by_cases hother : other = call
    · rw [List.filter_cons_of_neg (by simp [hother]), ih]
      split
      · rfl
      · rename_i hcall
        rw [lookup_cons_ne (by rwa [hother])]
    · rw [List.filter_cons_of_pos (by simp [hother])]
      by_cases hcall : call' = other
      · rw [hcall, List.lookup_cons_self, List.lookup_cons_self, if_neg hother]
      · rw [lookup_cons_ne hcall, lookup_cons_ne hcall, ih]

lemma finish_calls (page : Page) (call : ℕ) :
    (page.finish call).calls = Function.update page.calls call none := by
  funext call'
  rw [Page.calls, Page.finish, lookup_filter, Function.update_apply]
  rfl

lemma await_calls (page : Page) (call : ℕ) (promise : Await) :
    (page.await call promise).calls = Function.update page.calls call (some promise) := by
  funext call'
  rw [Page.calls, Page.await, Function.update_apply]
  by_cases hcall : call' = call
  · rw [hcall, List.lookup_cons_self, if_pos rfl]
  · rw [lookup_cons_ne hcall, lookup_filter, if_neg hcall, if_neg hcall]
    rfl

/-- A component that has just been mounted waits for its identity. -/
lemma start_calls {call : ℕ} {promise : Await} (h : Page.start.calls call = some promise) :
    promise = .loading := by
  rw [Page.calls, Page.start] at h
  by_cases hcall : call = 0
  · rw [hcall, List.lookup_cons_self] at h
    exact (Option.some.inj h).symm
  · rw [lookup_cons_ne hcall] at h
    cases h

lemma peerConnection_eq (page : Page) (call : ℕ) (peerUid : String) :
    (page.peerConnection call peerUid).2 = { page with
      connections := (page.peerConnection call peerUid).2.connections
      peerConnectionsRef := (page.peerConnection call peerUid).2.peerConnectionsRef } := by
  unfold Page.peerConnection
  cases page.peerConnectionsRef peerUid <;> rfl

lemma unused_iff {page : Page} {call : ℕ} : page.unused call = true ↔ page.calls call = none ∧
    page.sockets call = none ∧ page.streams call = none ∧ page.connections call = none := by
  simp only [Page.unused, Bool.and_eq_true, Option.isNone_iff_eq_none, and_assoc]

section Steps

variable {parseJson : String → Option JsonValue} {page page' moved : Page} {event : PageEvent}

lemma PageStepped.of_move (move : Move parseJson page event moved) :
    PageStepped parseJson page event moved :=
  .plain move (shownOf moved)

lemma PageStepped.of_click (move : Move parseJson page event moved) :
    PageStepped parseJson page event moved.render :=
  .click move (shownOf moved)

lemma PageStepped.of_error (move : Move parseJson page event moved) (errorMessage : String) :
    PageStepped parseJson page event (moved.setErrorMessage errorMessage) :=
  .plain move { shownOf moved with errorMessage := some errorMessage }

lemma stepped_of_event {call : ℕ} (hears : Hears page event) (unused : page.unused call = true)
    (identity : Option String) (name : String) (payload : String → Option JsonValue)
    (bears : Bears parseJson event name payload) :
    PageStepped parseJson page event (page.handleEvent identity call name payload) := by
  unfold Page.handleEvent
  dsimp only
  split
  · split
    · exact .of_move (.sign hears unused _ _)
    · exact .of_error .idle _
  · exact .of_error .hangUp _
  · split
    · rename_i roomId hroomId
      exact .plain (.entered hears roomId bears hroomId) { shownOf page with messages := [] }
    · exact .of_move .idle
  · split
    · rename_i peerUid hpeer
      split
      · exact .of_move .idle
      · rename_i hroom
        have hintroduced : Introduces parseJson page event peerUid :=
          ⟨_, "peer_uid", payload, bears, by simp [peerFields], hpeer,
            Classical.not_not.mp (not_or.mp hroom).1⟩
        exact .of_move (.meet hears unused peerUid rfl (fun _ he => by cases he; rfl)
          (fun _ _ he => by cases he; rfl) hintroduced)
    · exact .of_move .idle
  · split
    · rename_i peerUid _
      split
      · exact .of_move (.dropPeer hears peerUid)
      · exact .of_move .idle
    · exact .of_move .idle
  · split
    · rename_i peerUid sdpType sdpRaw hpeer _ _
      split
      · rename_i hroom
        have hintroduced : Introduces parseJson page event peerUid :=
          ⟨_, "sender_uid", payload, bears, by simp [peerFields], hpeer, hroom⟩
        exact .of_move (.meet hears unused peerUid rfl (fun _ he => by cases he; rfl) nofun
          hintroduced)
      · exact .of_move .idle
    · exact .of_move .idle
  · split
    · rename_i senderUid candidate hpeer _
      split
      · rename_i hroom
        have hintroduced : Introduces parseJson page event senderUid :=
          ⟨_, "sender_uid", payload, bears, by simp [peerFields], hpeer, hroom.1⟩
        exact .of_move (.meet hears unused senderUid rfl nofun nofun hintroduced)
      · exact .of_move .idle
    · exact .of_move .idle
  · split
    · split
      · exact .plain .idle { shownOf page with messages := _ }
      · exact .of_move .idle
    · exact .of_move .idle
  · exact .of_move .idle

lemma stepped_of_message {socket call : ℕ} {rawPayload : String} {s : Socket}
    (fired : event = .message socket call rawPayload) (known : page.sockets socket = some s)
    (opened : s.readyState = .opened) (unused : page.unused call = true) :
    PageStepped parseJson page event
      (page.handleServerMessage s.identity call (parseJson rawPayload)) := by
  have hears : Hears page event := ⟨socket, call, rawPayload, s, fired, known, opened⟩
  cases hmessage : parseJson rawPayload with
  | none => exact .of_error .idle _
  | some message =>
    rw [Page.handleServerMessage]
    split
    · exact .plain (.authenticated hears) { shownOf page with errorMessage := none }
    · exact .plain (.left hears) { shownOf page with messages := [] }
    · rename_i name _ _ hname
      split
      · exact .of_move .idle
      · exact .of_move .idle
      · rename_i value _ hvalue
        exact stepped_of_event hears unused s.identity name _
          ⟨socket, call, rawPayload, message, value, fired, hmessage, hname, hvalue, rfl⟩
    · exact .of_move .idle

lemma stepped_of_resume {call : ℕ} {promise : Await} {outcome : Settlement}
    (settled : event = .settle call outcome) (pending : page.calls call = some promise)
    (h : page.resume call promise outcome = some page') : PageStepped parseJson page event page' := by
  cases promise with
  | loading =>
    have hmove : Move parseJson page event (page.finish call) := .finish pending nofun
    cases outcome with
    | text userUid =>
      cases h
      exact .plain hmove { shownOf page with identity := some userUid }
    | rejected =>
      cases h
      exact .of_error hmove _
    | done => cases h
  | identity identity =>
    cases outcome with
    | text userUid =>
      cases h
      exact .plain (.dial userUid pending settled) { shownOf page with identity := some userUid }
    | rejected =>
      cases h
      exact .of_error (.unidentified pending) _
    | done => cases h
  | signature nonceBase64 serverTimestamp =>
    cases outcome with
    | text signatureBase64 =>
      cases h
      exact .of_move (.respond pending signatureBase64)
    | rejected =>
      cases h
      exact .of_error (.finish pending nofun) _
    | done => cases h
  | microphone roomIdInput isMuted =>
    cases outcome with
    | done =>
      cases h
      exact .of_move (.granted pending)
    | rejected =>
      cases h
      exact .of_error (.finish pending nofun) _
    | text value => cases h
  | createOffer connection peerUid roomId =>
    cases outcome with
    | text sdp =>
      obtain ⟨hopen, he⟩ := Option.ite_none_right_eq_some.mp h
      cases he
      exact .of_move (.advance pending rfl hopen rfl rfl (fun _ he => he))
    | rejected =>
      obtain ⟨-, he⟩ := Option.ite_none_right_eq_some.mp h
      cases he
      exact .of_move (.finish pending nofun)
    | done => cases h
  | localOffer connection peerUid roomId sdp =>
    cases outcome with
    | done =>
      obtain ⟨hopen, he⟩ := Option.ite_none_right_eq_some.mp h
      cases he
      exact .of_move (.describe pending rfl hopen rfl "offer" sdp roomId (Or.inr rfl)
        (Or.inl rfl))
    | rejected =>
      obtain ⟨-, he⟩ := Option.ite_none_right_eq_some.mp h
      cases he
      exact .of_move (.finish pending nofun)
    | text value => cases h
  | remoteDescription connection peerUid sdpType sdpRaw =>
    cases outcome with
    | done =>
      obtain ⟨hopen, he⟩ := Option.ite_none_right_eq_some.mp h
      cases he
      split
      · exact .of_move (.advance pending rfl hopen rfl rfl nofun)
      · exact .of_move (.finish pending nofun)
    | rejected =>
      obtain ⟨-, he⟩ := Option.ite_none_right_eq_some.mp h
      cases he
      exact .of_move (.finish pending nofun)
    | text value => cases h
  | createAnswer connection peerUid =>
    cases outcome with
    | text sdp =>
      obtain ⟨hopen, he⟩ := Option.ite_none_right_eq_some.mp h
      cases he
      exact .of_move (.advance pending rfl hopen rfl rfl nofun)
    | rejected =>
      obtain ⟨-, he⟩ := Option.ite_none_right_eq_some.mp h
      cases he
      exact .of_move (.finish pending nofun)
    | done => cases h
  | localAnswer connection peerUid sdp =>
    cases outcome with
    | done =>
      obtain ⟨hopen, he⟩ := Option.ite_none_right_eq_some.mp h
      cases he
      exact .of_move (.describe pending rfl hopen rfl "answer" sdp _ (Or.inl rfl)
        (Or.inr rfl))
    | rejected =>
      obtain ⟨-, he⟩ := Option.ite_none_right_eq_some.mp h
      cases he
      exact .of_move (.finish pending nofun)
    | text value => cases h
  | iceCandidate connection candidate =>
    cases outcome with
    | done =>
      obtain ⟨-, he⟩ := Option.ite_none_right_eq_some.mp h
      cases he
      exact .of_move (.finish pending nofun)
    | rejected =>
      obtain ⟨-, he⟩ := Option.ite_none_right_eq_some.mp h
      cases he
      exact .of_move (.finish pending nofun)
    | text value => cases h

theorem pageStepped_of_step {parseJson : String → Option JsonValue}
    (h : page.step parseJson event = some page') : PageStepped parseJson page event page' := by
  cases event with
  | settle call outcome =>
    obtain ⟨promise, pending, h⟩ := Option.bind_eq_some_iff.mp h
    exact stepped_of_resume rfl pending h
  | inputRoom value =>
    obtain ⟨-, he⟩ := Option.ite_none_right_eq_some.mp h
    cases he
    exact .click .idle { shownOf page with roomIdInput := value }
  | inputText value =>
    obtain ⟨-, he⟩ := Option.ite_none_right_eq_some.mp h
    cases he
    exact .click .idle { shownOf page with textInput := value }
  | connect call =>
    obtain ⟨⟨unused, -, disconnected⟩, he⟩ := Option.ite_none_right_eq_some.mp h
    cases he
    exact .press (.connect unused disconnected) { shownOf page with errorMessage := none }
  | disconnect =>
    obtain ⟨-, he⟩ := Option.ite_none_right_eq_some.mp h
    cases he
    exact .of_click .hangUp
  | join call =>
    obtain ⟨⟨unused, connected⟩, h⟩ := Option.ite_none_right_eq_some.mp h
    split at h
    · cases h
      exact .click .idle { shownOf page with errorMessage := some _ }
    · rename_i hvalid
      have valid : isUuid page.rendered.roomIdInput = true := by simpa using hvalid
      split at h
      · cases h
        exact .of_click (.say _ (by decide) _ (.join valid))
      · rename_i hsilent
        cases h
        exact .of_click (.askMicrophone rfl unused connected
          (Option.not_isSome_iff_eq_none.mp hsilent) valid)
  | toggleMute =>
    obtain ⟨-, he⟩ := Option.ite_none_right_eq_some.mp h
    rw [Bool.not_not] at he
    cases he
    exact .press (.toggle rfl) (shownOf page)
  | leave =>
    obtain ⟨activeRoomId, hshown, he⟩ := Option.bind_eq_some_iff.mp h
    cases he
    exact .of_click (.say _ (by decide) _ (.leave (Option.filter_eq_some_iff.mp hshown).1))
  | sendText now =>
    obtain ⟨activeRoomId, hshown, h⟩ := Option.bind_eq_some_iff.mp h
    obtain ⟨content, h⟩ := Option.ite_none_left_eq_some.mp h
    split at h
    · cases h
      have said := Said.text (Option.filter_eq_some_iff.mp hshown).1
        (Bool.eq_false_of_not_eq_true content)
      exact .click (.say "send_text_message" (by decide) _ said)
        { shownOf page with messages := _, textInput := "" }
    · cases h
      exact .of_click .idle
  | opened socket =>
    obtain ⟨s, known, h⟩ := Option.bind_eq_some_iff.mp h
    obtain ⟨connecting, he⟩ := Option.ite_none_right_eq_some.mp h
    cases he
    exact .of_move (.opened known connecting)
  | message socket call rawPayload =>
    obtain ⟨s, known, h⟩ := Option.bind_eq_some_iff.mp h
    obtain ⟨⟨unused, opened⟩, he⟩ := Option.ite_none_right_eq_some.mp h
    cases he
    exact stepped_of_message rfl known opened unused
  | closed socket failed =>
    obtain ⟨s, known, h⟩ := Option.bind_eq_some_iff.mp h
    obtain ⟨running, he⟩ := Option.ite_none_right_eq_some.mp h
    cases he
    have hmove := @Move.closed parseJson page _ _ _ _ (rfl : PageEvent.closed socket failed = _)
      known running
    cases failed with
    | true =>
      exact .plain hmove { shownOf page with
        messages := [], errorMessage := some "Could not connect to the local server." }
    | false => exact .plain hmove { shownOf page with messages := [] }
  | icecandidate connection candidate =>
    obtain ⟨rtc, known, h⟩ := Option.bind_eq_some_iff.mp h
    split at h
    · cases h
    · rename_i running
      split at h
      · rename_i candidate roomId hroom _
        cases h
        have room := (Option.filter_eq_some_iff.mp hroom).1
        exact .of_move (.offerCandidate known (Bool.eq_false_iff.mpr running) room candidate)
      · cases h
        exact .of_move .idle
  | track connection audio =>
    obtain ⟨rtc, known, h⟩ := Option.bind_eq_some_iff.mp h
    obtain ⟨running, he⟩ := Option.ite_none_left_eq_some.mp h
    cases he
    exact .of_move (.track known (Bool.eq_false_iff.mpr running) audio)
  | render =>
    cases h
    exact .of_click .idle
  | effect =>
    cases h
    exact .of_move .effect
  | unmount =>
    cases h
    exact .of_move (.unmount rfl)

end Steps

end VTNet.Proofs
