import VTNet.Proofs.PagePeers
import VTNet.Proofs.RoomText
import VTNet.Proofs.WireRoundTrip

/-!
# The server reads what the client sends

As long as the messages that come in can be read, so can the frames that go out. Only the text of a
chat message may be refused.
-/

namespace VTNet.Proofs

/-! ### Texts that can be read -/

def IsUser (crates : Crates) (userUid : String) : Prop :=
  ∃ uid, UserUid.deserialize crates (.str userUid) = some uid

def IsRoom (crates : Crates) (roomId : String) : Prop := ∃ uuid, crates.parseUuid roomId = some uuid

/-- The room that a frame asks to join is the text that was typed, but for the case of its digits. -/
def AsTyped (f : Sent) (message : ClientMessage) : Prop :=
  f.event = "join_voice_room" → ∃ roomIdInput uuid, ("room_id", .str roomIdInput) ∈ f.payload ∧
    message = .joinVoiceRoom uuid ∧
    roomIdInput.toList.map Char.toLower = uuid.hyphenated.toList

/-- The server reads a message from the frame, unless it refuses the text of a chat message. -/
def Legible (crates : Crates) (f : Sent) : Prop :=
  (∃ message, ClientMessage.deserialize crates (tagged f.event f.payload) = some message ∧
    AsTyped f message) ∨
    f.event = "send_text_message" ∧
      ∃ text error, ("text_content", .str text) ∈ f.payload ∧ RoomTextContent.new text = .error error

/-- A call may send what it has in its scope. -/
structure Proper (crates : Crates) (promise : Await) : Prop where
  peer : ∀ peerUid, peerOf promise = some peerUid → IsUser crates peerUid
  offer : ∀ k roomId, offerOf promise = some (k, roomId) →
    ∃ room, roomId = some room ∧ IsRoom crates room
  input : ∀ roomIdInput isMuted, promise = .microphone roomIdInput isMuted →
    isUuid roomIdInput = true

/-- Everything that can get into a frame can be read. -/
structure Texts (crates : Crates) (page : Page) : Prop where
  active : ∀ roomId, page.activeRoomId = some roomId → IsRoom crates roomId
  rendered : ∀ roomId, page.rendered.activeRoomId = some roomId → IsRoom crates roomId
  ref : ∀ roomId, page.activeRoomRef = some roomId → IsRoom crates roomId
  effect : ∀ roomId, page.effect = some (some roomId) → IsRoom crates roomId
  users : ∀ socket s, page.sockets socket = some s → IsUser crates s.userUid
  peers : ∀ k rtc, page.connections k = some rtc → IsUser crates rtc.peerUid
  inside : ∀ k, page.isOpen k = true → ∃ roomId, page.activeRoomId = some roomId
  calls : ∀ call promise, page.calls call = some promise → Proper crates promise
  sent : ∀ f ∈ page.sent, Legible crates f

section Values

variable {crates : Crates}

lemma lookup_of_field {name : String} {value : JsonValue} {fields : List (String × JsonValue)}
    (h : field? name fields = some value) : fields.reverse.lookup name = some value := by
  have hlookup : ∀ entries : List (String × JsonValue),
      entries.lookup name = (entries.filter (fun entry => entry.1 = name)).head?.map Prod.snd := by
    intro entries
    induction entries with
    | nil => rfl
    | cons entry entries ih =>
      obtain ⟨field, value⟩ := entry
      by_cases hfield : field = name
      · simp [hfield]
      · rw [List.lookup_cons, beq_false_of_ne (Ne.symm hfield), List.filter_cons_of_neg (by
          simpa using hfield)]
        exact ih
  unfold field? at h
  split at h
  · rename_i field _ hfilter
    cases h
    rw [hlookup, List.filter_reverse, hfilter]
    rfl
  · cases h

lemma room_of_uuid {value : JsonValue} {uuid : Uuid} (h : uuid? crates value = some uuid) :
    ∃ roomId, value = .str roomId ∧ IsRoom crates roomId := by
  obtain ⟨roomId, hstring, huuid⟩ := Option.bind_eq_some_iff.mp h
  cases value with
  | str text =>
    cases hstring
    exact ⟨roomId, rfl, uuid, huuid⟩
  | _ => cases hstring

lemma user_of_uid {value : JsonValue} {uid : UserUid}
    (h : UserUid.deserialize crates value = some uid) :
    ∃ userUid, value = .str userUid ∧ IsUser crates userUid := by
  cases value with
  | str userUid => exact ⟨userUid, rfl, uid, h⟩
  | _ => cases h

lemma deserialize_tagged (event : String) (payload : List (String × JsonValue)) :
    ClientMessage.deserialize crates (tagged event payload) =
      ClientMessage.deserializeVariant crates false event payload := by
  rw [ClientMessage.deserialize, deserializeTagged_tagged]

/-! ### What comes in -/

/-- The payload of a message that the server's own types read has the fields of its variant. -/
lemma fields_of_bears {parseJson : String → Option JsonValue} {event : PageEvent} {name : String}
    {payload : String → Option JsonValue} (bears : Bears parseJson event name payload)
    (hreads : ∀ socket call rawPayload, event = .message socket call rawPayload →
      ∃ message, (parseJson rawPayload).bind (ServerMessage.deserialize crates) = some message) :
    ∃ buffered fields message,
      ServerMessage.deserializeVariant crates buffered name fields = some message ∧
      ∀ field value, field? field fields = some value → payload field = some value := by
  obtain ⟨socket, call, rawPayload, tree, value, rfl, hparse, hname, hvalue, rfl⟩ := bears
  obtain ⟨message, hmessage⟩ := hreads socket call rawPayload rfl
  rw [hparse, Option.bind_some] at hmessage
  cases tree with
  | obj frame =>
    obtain ⟨event, hevent, hmessage⟩ := Option.bind_eq_some_iff.mp hmessage
    obtain ⟨tag, htag, hvariant⟩ := Option.bind_eq_some_iff.mp hevent
    have hfound : frame.reverse.lookup "event" = some (.str name) := Option.some.inj hname
    obtain rfl := Option.some.inj ((lookup_of_field htag).symm.trans hfound)
    cases hvariant
    split at hmessage
    · rename_i fields hfields
      have hpayload : (some (frame.reverse.lookup "payload")).join = some value := hvalue
      rw [lookup_of_field hfields] at hpayload
      cases hpayload
      refine ⟨_, fields, message, hmessage, fun field value hfield => ?_⟩
      exact congrArg (fun found => (some found).join) (lookup_of_field hfield)
    · cases hmessage
  | _ => cases hname

variable {parseJson : String → Option JsonValue} {page : Page} {event : PageEvent}
  {payload : String → Option JsonValue}

lemma room_of_joined (bears : Bears parseJson event "voice_room_joined" payload)
    (hreads : ∀ socket call rawPayload, event = .message socket call rawPayload →
      ∃ message, (parseJson rawPayload).bind (ServerMessage.deserialize crates) = some message)
    {roomId : String} (told : asString (payload "room_id") = some roomId) :
    IsRoom crates roomId := by
  obtain ⟨buffered, fields, message, hmessage, hfields⟩ := fields_of_bears bears hreads
  obtain ⟨uuid, hroom, -⟩ := Option.bind_eq_some_iff.mp hmessage
  obtain ⟨value, hvalue, huuid⟩ := Option.bind_eq_some_iff.mp hroom
  obtain ⟨room, rfl, hisRoom⟩ := room_of_uuid huuid
  rw [hfields _ _ hvalue] at told
  cases told
  exact hisRoom

/-- A message about a peer names a user, and a room that the ref has. -/
lemma fields_of_peer {buffered : Bool} {name field : String} {fields : List (String × JsonValue)}
    {message : ServerMessage} (hfield : (name, field) ∈ peerFields)
    (h : ServerMessage.deserializeVariant crates buffered name fields = some message) :
    ∃ userUid roomId, field? field fields = some (.str userUid) ∧ IsUser crates userUid ∧
      field? "room_id" fields = some (.str roomId) ∧ IsRoom crates roomId := by
  have hread : ∃ uuid uid, field? "room_id" fields >>= uuid? crates = some uuid ∧
      field? field fields >>= UserUid.deserialize crates = some uid := by
    simp only [peerFields, List.mem_cons, Prod.mk.injEq, List.not_mem_nil, or_false] at hfield
    rcases hfield with ⟨rfl, rfl⟩ | ⟨rfl, rfl⟩ | ⟨rfl, rfl⟩
    all_goals
      obtain ⟨uuid, hroom, h⟩ := Option.bind_eq_some_iff.mp h
      obtain ⟨uid, hpeer, -⟩ := Option.bind_eq_some_iff.mp h
      exact ⟨uuid, uid, hroom, hpeer⟩
  obtain ⟨uuid, uid, hroom, hpeer⟩ := hread
  obtain ⟨value, hvalue, huuid⟩ := Option.bind_eq_some_iff.mp hroom
  obtain ⟨value', hvalue', huid⟩ := Option.bind_eq_some_iff.mp hpeer
  obtain ⟨roomId, rfl, hisRoom⟩ := room_of_uuid huuid
  obtain ⟨userUid, rfl, hisUser⟩ := user_of_uid huid
  exact ⟨userUid, roomId, hvalue', hisUser, hvalue, hisRoom⟩

lemma user_of_introduces {peerUid : String} (introduced : Introduces parseJson page event peerUid)
    (hreads : ∀ socket call rawPayload, event = .message socket call rawPayload →
      ∃ message, (parseJson rawPayload).bind (ServerMessage.deserialize crates) = some message) :
    IsUser crates peerUid ∧ ∃ roomId, page.activeRoomRef = some roomId := by
  obtain ⟨name, field, payload, bears, hfield, htold, hroom⟩ := introduced
  obtain ⟨buffered, fields, message, hmessage, hfields⟩ := fields_of_bears bears hreads
  obtain ⟨userUid, roomId, huser, hisUser, hvalue, -⟩ := fields_of_peer hfield hmessage
  rw [hfields _ _ huser] at htold
  rw [hfields _ _ hvalue] at hroom
  cases htold
  refine ⟨hisUser, ?_⟩
  cases href : page.activeRoomRef with
  | none =>
    rw [href] at hroom
    cases hroom
  | some roomId => exact ⟨roomId, rfl⟩

/-! ### What goes out -/

variable {socket visit : ℕ} {connection : Option ℕ} {activeRoomId : Option String}
  {roomId userUid : String}

lemma legible_of_variant {name : String} {payload : List (String × JsonValue)}
    (message : ClientMessage) (other : name ≠ "join_voice_room")
    (h : ClientMessage.deserializeVariant crates false name payload = some message) :
    Legible crates ⟨socket, name, payload, connection, visit, activeRoomId⟩ :=
  Or.inl ⟨message, (deserialize_tagged _ _).trans h, fun he => absurd he other⟩

lemma legible_identify (h : IsUser crates userUid) :
    Legible crates ⟨socket, "auth_identify", [("protocol_version", .int protocolVersion.toNat),
      ("client_uid", .str userUid)], connection, visit, activeRoomId⟩ := by
  obtain ⟨uid, huid⟩ := h
  refine legible_of_variant (.authIdentify protocolVersion uid) (by decide) ?_
  simp [ClientMessage.deserializeVariant, field?, huid, uint16?_toNat]

lemma legible_respond (signatureBase64 : String) :
    Legible crates ⟨socket, "auth_response", [("signature_base64", .str signatureBase64)],
      connection, visit, activeRoomId⟩ := by
  refine legible_of_variant (.authResponse signatureBase64) (by decide) ?_
  simp [ClientMessage.deserializeVariant, field?, string?]

lemma legible_join (hcase : crates.ReadsEitherCase) (h : isUuid roomId = true) :
    Legible crates ⟨socket, "join_voice_room", [("room_id", .str roomId)], connection, visit,
      activeRoomId⟩ := by
  obtain ⟨uuid, hlower⟩ := exists_uuid h
  have huuid := hcase uuid roomId hlower
  refine Or.inl ⟨.joinVoiceRoom uuid, ?_, fun _ => ⟨roomId, uuid, by simp, rfl, hlower⟩⟩
  rw [deserialize_tagged]
  simp [ClientMessage.deserializeVariant, field?, uuid?, string?, huuid]

lemma legible_leave (h : IsRoom crates roomId) :
    Legible crates ⟨socket, "leave_voice_room", [("room_id", .str roomId)], connection, visit,
      activeRoomId⟩ := by
  obtain ⟨uuid, huuid⟩ := h
  refine legible_of_variant (.leaveVoiceRoom uuid) (by decide) ?_
  simp [ClientMessage.deserializeVariant, field?, uuid?, string?, huuid]

lemma legible_text (h : IsRoom crates roomId) (text : String) :
    Legible crates ⟨socket, "send_text_message",
      [("room_id", .str roomId), ("text_content", .str text)], connection, visit,
      activeRoomId⟩ := by
  obtain ⟨uuid, huuid⟩ := h
  cases htext : RoomTextContent.new text with
  | error error => exact Or.inr ⟨rfl, text, error, by simp, htext⟩
  | ok content =>
    refine legible_of_variant (.sendTextMessage uuid content) (by decide) ?_
    simp [ClientMessage.deserializeVariant, field?, uuid?, string?, huuid,
      RoomTextContent.deserialize, htext, Except.toOption]

lemma legible_describe (hroom : IsRoom crates roomId) (huser : IsUser crates userUid)
    {sdpType : String} (hkind : sdpType = "offer" ∨ sdpType = "answer") (sdp : String) :
    Legible crates ⟨socket, "send_web_rtc_sdp", [("room_id", .str roomId),
      ("target_uid", .str userUid), ("sdp_type", .str sdpType), ("sdp_raw", .str sdp)],
      connection, visit, activeRoomId⟩ := by
  obtain ⟨uuid, huuid⟩ := hroom
  obtain ⟨uid, huid⟩ := huser
  have hsdpType : ∃ kind, SdpType.deserialize false (.str sdpType) = some kind := by
    rcases hkind with rfl | rfl
    · exact ⟨.offer, rfl⟩
    · exact ⟨.answer, rfl⟩
  obtain ⟨kind, hkind⟩ := hsdpType
  refine legible_of_variant (.sendWebRtcSdp uuid uid kind sdp) (by decide) ?_
  simp [ClientMessage.deserializeVariant, field?, uuid?, string?, huuid, huid, hkind]

lemma legible_candidate (hroom : IsRoom crates roomId) (huser : IsUser crates userUid)
    (candidate : JsonValue) :
    Legible crates ⟨socket, "send_web_rtc_ice", [("room_id", .str roomId),
      ("target_uid", .str userUid), ("candidate", candidate)], connection, visit,
      activeRoomId⟩ := by
  obtain ⟨uuid, huuid⟩ := hroom
  obtain ⟨uid, huid⟩ := huser
  refine legible_of_variant (.sendWebRtcIce uuid uid (.ofTree candidate)) (by decide) ?_
  simp [ClientMessage.deserializeVariant, field?, uuid?, string?, huuid, huid]

end Values

/-! ### What a step does to the texts -/

section Steps

variable {crates : Crates} {parseJson : String → Option JsonValue} {page page' moved : Page}
  {event : PageEvent} {call : ℕ} {promise : Await}

lemma proper_of_none (hpeer : peerOf promise = none) (hoffer : offerOf promise = none)
    (hinput : ∀ roomIdInput isMuted, promise ≠ .microphone roomIdInput isMuted) :
    Proper crates promise := by
  refine ⟨fun peerUid h => ?_, fun k roomId h => ?_, fun roomIdInput isMuted h => ?_⟩
  · rw [hpeer] at h
    cases h
  · rw [hoffer] at h
    cases h
  · exact absurd h (hinput roomIdInput isMuted)

lemma texts_start : Texts crates Page.start := by
  refine ⟨nofun, nofun, nofun, nofun, nofun, nofun, nofun, fun call promise h => ?_, nofun⟩
  rw [start_calls h]
  exact proper_of_none rfl rfl nofun

lemma Texts.finish (h : Texts crates page) (call : ℕ) : Texts crates (page.finish call) :=
  { h with calls := fun call' promise hcall => h.calls call' promise (calls_finish hcall) }

lemma Texts.await (h : Texts crates page) (call : ℕ) (proper : Proper crates promise) :
    Texts crates (page.await call promise) := by
  refine { h with calls := fun call' promise' hcall => ?_ }
  rw [await_calls] at hcall
  rcases updated_iff.mp hcall with ⟨-, rfl⟩ | ⟨-, hcall⟩
  · exact proper
  · exact h.calls call' promise' hcall

lemma Texts.sendMessage (h : Texts crates page) {connection : Option ℕ} {name : String}
    {payload : List (String × JsonValue)}
    (legible : ∀ socket, Legible crates
      ⟨socket, name, payload, connection, page.visit, page.activeRoomId⟩) :
    Texts crates (page.sendMessage connection name payload) := by
  refine { h with sent := fun f hf => ?_ }
  rcases List.mem_append.mp hf with hf | hf
  · exact h.sent f hf
  · obtain ⟨socket, -, rfl⟩ := Option.map_eq_some_iff.mp (Option.mem_toList.mp hf)
    exact legible socket

/-- A socket keeps the identity that it was made with. -/
lemma Texts.socket (h : Texts crates page) (socket : ℕ) (s : Socket)
    (hs : IsUser crates s.userUid) :
    Texts crates { page with sockets := Function.update page.sockets socket (some s) } := by
  refine { h with users := fun k s' hk => ?_ }
  rcases updated_iff.mp hk with ⟨-, rfl⟩ | ⟨-, hk⟩
  · exact hs
  · exact h.users k s' hk

lemma Texts.closeSocket (h : Texts crates page) : Texts crates page.closeSocket := by
  refine { h with users := fun k s hk => ?_ }
  cases href : page.socketRef with
  | none =>
    simp only [Page.closeSocket, href] at hk
    exact h.users k s hk
  | some socket =>
    simp only [Page.closeSocket, href] at hk
    by_cases hsocket : k = socket
    · rw [hsocket, Function.update_self] at hk
      obtain ⟨s', hs', rfl⟩ := Option.map_eq_some_iff.mp hk
      have huser := h.users socket s' hs'
      split
      · exact huser
      · exact huser
    · rw [Function.update_of_ne hsocket] at hk
      exact h.users k s hk

lemma peers_closing (h : Texts crates page) (which : ℕ → RtcConnection → Bool) :
    ∀ k rtc, page.closing which k = some rtc → IsUser crates rtc.peerUid := by
  intro k rtc hrtc
  obtain ⟨rtc', hrtc', rfl⟩ := Option.map_eq_some_iff.mp hrtc
  by_cases hwhich : which k rtc' = true
  · simpa [hwhich] using h.peers k rtc' hrtc'
  · simpa [hwhich] using h.peers k rtc' hrtc'

/-- With all connections closed the client may go on to another room. -/
lemma Texts.move_room (h : Texts crates page) (hpeers : Peers page) {activeRoomId : Option String}
    (hroom : ∀ roomId, activeRoomId = some roomId → IsRoom crates roomId) :
    Texts crates (page.closePeers.setActiveRoomId activeRoomId) where
  active := hroom
  rendered := h.rendered
  ref := h.ref
  effect := h.effect
  users := h.users
  peers := peers_closing h _
  inside k hk := by
    have hclosed : page.closePeers.isOpen k = true := hk
    rw [isOpen_closePeers hpeers] at hclosed
    cases hclosed
  calls := h.calls
  sent := h.sent

lemma Texts.meet (h : Texts crates page) {peerUid : String} (huser : IsUser crates peerUid)
    (hinside : ∃ roomId, page.activeRoomId = some roomId) :
    Texts crates (page.peerConnection call peerUid).2 := by
  unfold Page.peerConnection
  cases page.peerConnectionsRef peerUid with
  | some existing => exact h
  | none =>
    refine { h with peers := fun k rtc hrtc => ?_, inside := fun _ _ => hinside }
    rcases updated_iff.mp hrtc with ⟨-, rfl⟩ | ⟨-, hrtc⟩
    · exact huser
    · exact h.peers k rtc hrtc

lemma Texts.render (h : Texts crates page) : Texts crates page.render := by
  have href : ∀ roomId, page.effect.getD page.activeRoomRef = some roomId →
      IsRoom crates roomId := by
    intro roomId hroom
    cases heffect : page.effect with
    | none =>
      rw [heffect] at hroom
      exact h.ref roomId hroom
    | some room =>
      rw [heffect] at hroom
      exact h.effect roomId (heffect.trans (congrArg some hroom))
  refine { h with rendered := h.active, ref := href, effect := fun roomId heffect => ?_ }
  obtain ⟨-, heffect⟩ := Option.ite_none_left_eq_some.mp heffect
  exact h.active roomId (Option.some.inj heffect)

lemma Texts.move (h : Texts crates page) (hcase : crates.ReadsEitherCase) (hpeers : Peers page)
    (hsituated : Situated page)
    (hreads : ∀ socket call rawPayload, event = .message socket call rawPayload →
      ∃ message, (parseJson rawPayload).bind (ServerMessage.deserialize crates) = some message)
    (hidentity : ∀ call userUid identity, event = .settle call (.text userUid) →
      page.calls call = some (.identity identity) → IsUser crates userUid)
    (hfresh : Hears page event → page.activeRoomRef = page.activeRoomId)
    (move : Move parseJson page event moved) : Texts crates moved := by
  have hnone : ∀ roomId, (none : Option String) = some roomId → IsRoom crates roomId := nofun
  cases move with
  | idle => exact h
  | finish => exact h.finish _
  | sign => exact h.await _ (proper_of_none rfl rfl nofun)
  | @dial call identity userUid pending settled =>
    have huser := hidentity call userUid identity settled pending
    exact { (h.finish call).socket call ⟨.connecting, userUid, identity⟩ huser with }
  | unidentified => exact { h.finish _ with }
  | hangUp => exact h.closeSocket
  | @opened socket s known connecting =>
    have huser := h.users socket s known
    refine Texts.sendMessage ?_ fun _ => legible_identify huser
    exact { h.socket socket { s with readyState := .opened } huser with }
  | authenticated => exact { h with }
  | entered hears roomId bears told =>
    refine h.move_room hpeers fun room hroom => ?_
    cases hroom
    exact room_of_joined bears hreads told
  | left => exact { h.move_room hpeers hnone with }
  | @closed socket failed s fired known running =>
    have hclosed := h.socket socket { s with readyState := .closed } (h.users socket s known)
    exact { h.move_room hpeers hnone with ref := nofun, users := hclosed.users }
  | @meet call hears unused peerUid promise waits peer room introduced =>
    obtain ⟨huser, roomId, href⟩ := user_of_introduces introduced hreads
    have hinside : ∃ roomId, page.activeRoomId = some roomId := ⟨roomId, (hfresh hears) ▸ href⟩
    refine (h.meet huser hinside).await _ ⟨fun uid huid => ?_, fun k offered hoffer => ?_,
      fun _ _ he => ?_⟩
    · rw [peer uid huid]
      exact huser
    · exact ⟨roomId, (room k offered hoffer).trans href, h.ref roomId href⟩
    · rw [he] at waits
      cases waits
  | dropPeer hears peerUid =>
    exact { h with peers := peers_closing h _, inside := fun k hk => h.inside k (isOpen_removePeer hk) }
  | @advance call k promise promise' pending waits opened waits' peer kept =>
    have hproper := h.calls call promise pending
    refine h.await _ ⟨fun uid huid => hproper.peer uid (peer ▸ huid),
      fun k roomId hoffer => hproper.offer k roomId (kept _ hoffer), fun _ _ he => ?_⟩
    rw [he] at waits'
    cases waits'
  | @describe call k promise pending waits opened peerUid peer sdpType sdp roomId room kind =>
    have hproper := h.calls call promise pending
    have hroom : ∃ room, roomId = some room ∧ IsRoom crates room := by
      rcases room with href | hoffer
      · obtain ⟨active, hactive⟩ := h.inside k opened
        have hsame := href.trans ((hsituated.inside k opened).trans hactive)
        exact ⟨active, hsame, h.active active hactive⟩
      · exact hproper.offer k roomId hoffer
    obtain ⟨room, rfl, hisRoom⟩ := hroom
    exact (h.finish call).sendMessage fun _ =>
      legible_describe hisRoom (hproper.peer peerUid peer) kind sdp
  | @offerCandidate k rtc roomId known running room candidate =>
    exact h.sendMessage fun _ =>
      legible_candidate (h.ref roomId room) (h.peers k rtc known) candidate
  | track => exact { h with }
  | say name other payload said =>
    cases said with
    | join valid => exact h.sendMessage fun _ => legible_join hcase valid
    | leave shown => exact h.sendMessage fun _ => legible_leave (h.rendered _ shown)
    | text shown => exact h.sendMessage fun _ => legible_text (h.rendered _ shown) _
  | respond => exact (h.finish _).sendMessage fun _ => legible_respond _
  | askMicrophone _ _ _ _ valid =>
    refine h.await _ ⟨nofun, nofun, fun roomIdInput isMuted he => ?_⟩
    cases he
    exact valid
  | granted pending =>
    have hvalid := (h.calls _ _ pending).input _ _ rfl
    refine Texts.sendMessage ?_ fun _ => legible_join hcase hvalid
    exact { h.finish _ with }
  | effect => exact { h with ref := h.render.ref, effect := nofun }
  | unmount =>
    exact { h.closeSocket with
      peers := peers_closing h _
      inside := fun k hk => by
        have hclosed : page.closePeers.isOpen k = true := hk
        rw [isOpen_closePeers hpeers] at hclosed
        cases hclosed }

/-- Messages are handled up to date, and the server's own types read them and the identity that a
socket is made for. -/
def honest (crates : Crates) (parseJson : String → Option JsonValue) (page : Page)
    (event : PageEvent) : Bool :=
  upToDate page event && match event with
    | .message _ _ rawPayload =>
      ((parseJson rawPayload).bind (ServerMessage.deserialize crates)).isSome
    | .settle call (.text userUid) =>
      match page.calls call with
      | some (.identity _) => (UserUid.deserialize crates (.str userUid)).isSome
      | _ => true
    | _ => true

lemma Texts.step (h : Texts crates page) (hcase : crates.ReadsEitherCase) (hpeers : Peers page)
    (hsituated : Situated page) (hhonest : honest crates parseJson page event = true)
    (hstep : page.step parseJson event = some page') : Texts crates page' := by
  obtain ⟨hupToDate, hreadable⟩ := Bool.and_eq_true_iff.mp hhonest
  have hreads : ∀ socket call rawPayload, event = .message socket call rawPayload →
      ∃ message, (parseJson rawPayload).bind (ServerMessage.deserialize crates) =
        some message := by
    rintro socket call rawPayload rfl
    exact Option.isSome_iff_exists.mp hreadable
  have hidentity : ∀ call userUid identity, event = .settle call (.text userUid) →
      page.calls call = some (.identity identity) → IsUser crates userUid := by
    rintro call userUid identity rfl pending
    dsimp only at hreadable
    rw [pending] at hreadable
    exact Option.isSome_iff_exists.mp hreadable
  have hfresh : Hears page event → page.activeRoomRef = page.activeRoomId := by
    rintro ⟨socket, call, rawPayload, -, rfl, -⟩
    exact of_decide_eq_true hupToDate
  cases pageStepped_of_step hstep with
  | plain move shown =>
    exact { h.move hcase hpeers hsituated hreads hidentity hfresh move with }
  | click move shown =>
    refine Texts.render ?_
    exact { h.move hcase hpeers hsituated hreads hidentity hfresh move with }
  | press press shown =>
    refine Texts.render ?_
    cases press with
    | connect unused disconnected =>
      have proper : Proper crates (.identity page.rendered.identity) :=
        proper_of_none rfl rfl nofun
      exact { h.await _ proper with }
    | toggle click => exact { h with }

end Steps

/-- As long as the texts of messages and identities can be read by the server's own types, and
messages are handled while the ref and the state agree, the server reads every frame that the client
sends, however its calls are delayed, and only the text of a chat message can be refused. The room
that it is asked to join is the one that was typed. -/
theorem frames_legible {crates : Crates} {parseJson : String → Option JsonValue}
    (hcase : crates.ReadsEitherCase) {page : Page}
    (h : Execution.Reachable (Execution.within (Page.step parseJson) (honest crates parseJson))
      Page.start page) :
    ∀ f ∈ page.sent, Legible crates f := by
  have hinvariant : OneSocket page ∧ Peers page ∧ Situated page ∧ Texts crates page := by
    refine @Execution.invariant_of_step _ _ _
      (fun page => OneSocket page ∧ Peers page ∧ Situated page ∧ Texts crates page)
      _ ⟨oneSocket_start, peers_start, situated_start, texts_start⟩ ?_ _ h
    rintro page event page' ⟨hone, hpeers, hsituated, htexts⟩ hwithin
    obtain ⟨hhonest, hstep⟩ := Execution.within_eq_some.mp hwithin
    have hupToDate := (Bool.and_eq_true_iff.mp hhonest).1
    exact ⟨hone.step hstep, hpeers.step hone hstep, hsituated.step hone hpeers hupToDate hstep,
      htexts.step hcase hpeers hsituated hhonest hstep⟩
  exact hinvariant.2.2.2.sent

/-- A user types a room in capitals and enters it, and another one comes in. -/
def pageIntroduced : List PageEvent :=
  let me := Reference.base64.encode Reference.first.key.toList
  let you := Reference.base64.encode Reference.second.key.toList
  let room := "abababab-0101-4101-8101-010101010101"
  let told (event : String) (payload : List (String × String)) : String :=
    sendMessageText event (payload.map fun field => (field.1, ofString field.2))
  [.settle 0 (.text me), .render, .connect 1, .settle 1 (.text me), .opened 1,
    .message 1 2 (told "auth_success"
      [("verified_uid", me), ("assigned_name", "Guest"), ("server_name", "VTNet")]),
    .render, .inputRoom "ABABABAB-0101-4101-8101-010101010101", .join 3, .settle 3 .done,
    .message 1 4 (told "voice_room_joined" [("room_id", room)]), .render, .effect,
    .message 1 5 (told "peer_joined_room"
      [("room_id", room), ("peer_uid", you), ("peer_name", "Guest")]),
    .settle 5 (.text "sdp"), .settle 5 .done]

theorem frames_legible_introduced : ∃ page, Execution.exec
    (Execution.within (Page.step Reference.parseJson) (honest Reference.crates Reference.parseJson))
      Page.start pageIntroduced = some page ∧
    page.sent.map (·.event) = ["auth_identify", "join_voice_room", "send_web_rtc_sdp"] ∧
    ∀ f ∈ page.sent, Legible Reference.crates f := by
  have hrun : (Execution.exec (Execution.within (Page.step Reference.parseJson)
      (honest Reference.crates Reference.parseJson)) Page.start pageIntroduced).map
        (fun page => page.sent.map (·.event)) =
      some ["auth_identify", "join_voice_room", "send_web_rtc_sdp"] := by
    decide +kernel
  obtain ⟨page, hexec, hsent⟩ := Option.map_eq_some_iff.mp hrun
  exact ⟨page, hexec, hsent, frames_legible reference_readsEitherCase ⟨_, hexec⟩⟩

end VTNet.Proofs
