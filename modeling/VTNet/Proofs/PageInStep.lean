import VTNet.Proofs.Mesh
import VTNet.Proofs.PageFollows

/-!
# The room, the peers and the chat of a page in any order of events

However long the handlers of a page wait and whatever its user does meanwhile, the room on its
screen, the peers it is connected to and what it shows of the others' texts depend only on the
messages it has taken in.
-/

namespace VTNet.Proofs

lemma hearAll_concat (signed : String → UInt64 → Except String String) (client : Client)
    (log : List Heard) (heard : Heard) : hearAll signed client (log ++ [heard]) =
      ((hearAll signed client log).hear signed heard.sdp heard.message).1 := by
  simp [hearAll]

lemma identity_hearAll (signed : String → UInt64 → Except String String) (client : Client)
    (log : List Heard) : (hearAll signed client log).app.identity = client.app.identity := by
  induction log using List.reverseRecOn with
  | nil => rfl
  | append_singleton log heard ih => rw [hearAll_concat, identity_hear, ih]

/-- The text that an event brings on a socket. -/
def textOn (socket : ℕ) : PageEvent → Option String
  | .message k _ rawPayload => if k = socket then some rawPayload else none
  | _ => none

/-- Messages are handled up to date, and the component stays while it has a socket. -/
def mounted (page : Page) : PageEvent → Bool
  | .unmount => page.socketRef = none
  | event => upToDate page event

/-- The texts that are not the user's own. -/
def ofOthers (messages : List PageMessage) : List PageMessage :=
  messages.filter (·.senderName ≠ "You")

/-- What the page makes of the chat of a client. -/
def shownChat (messages : List ChatMessage) : List PageMessage :=
  messages.map fun m => ⟨m.senderName, m.text, .int m.timestamp.toNat⟩

/-- The page also shows what others say to the client. -/
structure InTune (crates : Crates) (page : Page) (app : App) : Prop extends
    InStep crates page app where
  texts : ofOthers page.messages = ofOthers (shownChat app.messages)

section Messages

variable {crates : Crates} {page : Page} {app : App}

lemma InStep.await (h : InStep crates page app) (call : ℕ) (promise : Await) :
    InStep crates (page.await call promise) app := { h with }

/-- What a message does before its handler first waits. -/
lemma InStep.hear (h : InStep crates page app) (hbase64 : crates.base64.DecodeInvertsEncode)
    (huuid : crates.ReadsHyphenated) (hfresh : page.activeRoomRef = page.activeRoomId)
    (hsettled : app.activeRoomRef = app.activeRoomId)
    (sign : String → UInt64 → Except String String) (sdp : String) (call : ℕ)
    (message : ServerMessage) :
    InStep crates (page.handleServerMessage (app.identity.map (uidText crates)) call
        (some (message.serialize crates)))
      (((app.handleServerMessage sign sdp message).map Prod.fst).getD app) := by
  have hroom : ∀ roomId : Uuid, some (.str roomId.hyphenated : JsonValue) =
      some (nullable page.activeRoomRef) ↔ app.activeRoomRef = some roomId := by
    intro roomId
    rw [hfresh, h.room, ← hsettled]
    exact inRoom_iff huuid
  cases message with
  | authChallenge nonceBase64 serverTimestamp =>
    simp only [App.handleServerMessage]
    cases sign nonceBase64 serverTimestamp with
    | ok signatureBase64 => exact h.await _ _
    | error _ => exact { h.await _ _ with }
  | authSuccess verifiedUid assignedName serverName => exact { h with }
  | authFailure reason => exact { h with }
  | voiceRoomJoined roomId => exact ⟨rfl, fun _ => rfl⟩
  | voiceRoomLeft roomId => exact ⟨rfl, fun _ => rfl⟩
  | peerJoinedRoom roomId peerUid peerName =>
    simp only [handle_peerJoined, hroom, isSelf_iff hbase64, App.handleServerMessage]
    by_cases hdropped : ¬app.activeRoomRef = some roomId ∨ app.identity = some peerUid
    · simp only [if_pos hdropped]
      exact h
    · simp only [if_neg hdropped]
      exact (h.met hbase64 call peerUid _).await _ _
  | peerLeftRoom roomId peerUid =>
    simp only [handle_peerLeft, hroom, App.handleServerMessage]
    by_cases hactive : app.activeRoomRef = some roomId
    · simp only [if_pos hactive]
      exact h.removed hbase64 peerUid
    · simp only [if_neg hactive]
      exact h
  | forwardWebRtcSdp roomId senderUid sdpType sdpRaw =>
    simp only [handle_sdp, hroom, App.handleServerMessage]
    by_cases hactive : app.activeRoomRef = some roomId
    · simp only [if_pos hactive]
      cases sdpType with
      | offer => exact (h.met hbase64 call senderUid _).await _ _
      | answer => exact (h.met hbase64 call senderUid _).await _ _
    · simp only [if_neg hactive]
      exact h
  | forwardWebRtcIce roomId senderUid candidate =>
    simp only [handle_ice, hroom, App.handleServerMessage]
    by_cases hactive : app.activeRoomRef = some roomId ∧ App.isObject candidate.tree
    · simp only [if_pos hactive]
      exact (h.met hbase64 call senderUid _).await _ _
    · simp only [if_neg hactive]
      exact h
  | broadcastTextMessage roomId senderUid senderName textContent serverTimestamp =>
    simp only [handle_text, hroom, App.handleServerMessage]
    by_cases hactive : app.activeRoomRef = some roomId
    · simp only [if_pos hactive]
      exact { h with }
    · simp only [if_neg hactive]
      exact h

lemma messages_met (page : Page) (call : ℕ) (peerUid : String) :
    (page.peerConnection call peerUid).2.messages = page.messages := by
  unfold Page.peerConnection
  split
  · rfl
  · rfl

lemma InTune.hear (h : InTune crates page app) (hbase64 : crates.base64.DecodeInvertsEncode)
    (huuid : crates.ReadsHyphenated) (hfresh : page.activeRoomRef = page.activeRoomId)
    (hsettled : app.activeRoomRef = app.activeRoomId)
    (sign : String → UInt64 → Except String String) (sdp : String) (call : ℕ)
    (message : ServerMessage) :
    InTune crates (page.handleServerMessage (app.identity.map (uidText crates)) call
        (some (message.serialize crates)))
      (((app.handleServerMessage sign sdp message).map Prod.fst).getD app) := by
  refine ⟨h.toInStep.hear hbase64 huuid hfresh hsettled sign sdp call message, ?_⟩
  have htexts := h.texts
  cases message with
  | voiceRoomJoined roomId => rfl
  | voiceRoomLeft roomId => rfl
  | authSuccess verifiedUid assignedName serverName => exact htexts
  | authFailure reason => exact htexts
  | authChallenge nonceBase64 serverTimestamp =>
    simp only [App.handleServerMessage]
    cases sign nonceBase64 serverTimestamp <;> exact htexts
  | broadcastTextMessage roomId senderUid senderName textContent serverTimestamp =>
    have hroom : some (.str roomId.hyphenated : JsonValue) =
        some (nullable page.activeRoomRef) ↔ app.activeRoomRef = some roomId := by
      rw [hfresh, h.room, ← hsettled]
      exact inRoom_iff huuid
    simp only [handle_text, hroom, App.handleServerMessage]
    by_cases hactive : app.activeRoomRef = some roomId
    · simp only [if_pos hactive, Option.map_some, Option.getD_some, ofOthers, shownChat,
        List.map_append, List.filter_append] at htexts ⊢
      rw [htexts]
      rfl
    · simp only [if_neg hactive]
      exact htexts
  | _ =>
    simp only [handle_peerJoined, handle_peerLeft, handle_sdp, handle_ice, App.handleServerMessage]
    repeat' split
    all_goals first
      | exact htexts
      | exact (congrArg ofOthers (messages_met ..)).trans htexts

end Messages

/-! ### What a step does to the socket, the room, the peers and the texts -/

/-- The same sockets, each made under the same identity. -/
def SameSockets (page page' : Page) : Prop :=
  ∀ k, (page'.sockets k).map Socket.identity = (page.sockets k).map Socket.identity

section Steps

variable {parseJson : String → Option JsonValue} {page page' moved : Page} {event : PageEvent}

lemma sameSockets_update {socket : ℕ} {s s' : Socket} (known : page.sockets socket = some s)
    (hidentity : s'.identity = s.identity) (k : ℕ) :
    (Function.update page.sockets socket (some s') k).map Socket.identity =
      (page.sockets k).map Socket.identity := by
  by_cases hk : k = socket
  · rw [hk, Function.update_self, known, Option.map_some, Option.map_some, hidentity]
  · rw [Function.update_of_ne hk]

lemma sameSockets_close (page : Page) : SameSockets page page.closeSocket := by
  intro k
  cases href : page.socketRef with
  | none => simp only [Page.closeSocket, href]
  | some socket =>
    simp only [Page.closeSocket, href]
    by_cases hk : k = socket
    · rw [hk, Function.update_self, Option.map_map]
      cases page.sockets socket with
      | none => rfl
      | some s =>
        simp only [Option.map_some, Function.comp_apply]
        split
        · rfl
        · rfl
    · rw [Function.update_of_ne hk]

/-- A socket is made for a call to connect, and given up when it is closed. -/
lemma sockets_of_move (move : Move parseJson page event moved) :
    (moved.socketRef = page.socketRef ∧ SameSockets page moved) ∨
      (∃ call userUid identity, event = .settle call (.text userUid) ∧
        page.calls call = some (.identity identity) ∧ moved.socketRef = some call ∧
        moved.sockets = Function.update page.sockets call
          (some ⟨.connecting, userUid, identity⟩)) ∨
      (∃ socket failed, event = .closed socket failed) ∧ moved.socketRef = none ∧
        moved.activeRoomId = none ∧ SameSockets page moved := by
  have hsame : SameSockets page page := fun _ => rfl
  cases move with
  | dial userUid pending settled =>
    exact Or.inr (Or.inl ⟨_, userUid, _, settled, pending, rfl, rfl⟩)
  | closed fired known running =>
    exact Or.inr (Or.inr ⟨⟨_, _, fired⟩, rfl, rfl, sameSockets_update known rfl⟩)
  | opened known connecting => exact Or.inl ⟨rfl, sameSockets_update known rfl⟩
  | hangUp => exact Or.inl ⟨rfl, sameSockets_close page⟩
  | unmount => exact Or.inl ⟨rfl, sameSockets_close page⟩
  | meet =>
    rw [peerConnection_eq]
    exact Or.inl ⟨rfl, hsame⟩
  | _ => exact Or.inl ⟨rfl, hsame⟩

/-- Only messages, and the ends of a socket and of the component, lead to another room or other
peers. -/
lemma room_of_move (move : Move parseJson page event moved) (hquiet : ¬Hears page event)
    (hclosed : ∀ socket failed, event ≠ .closed socket failed) (hunmount : event ≠ .unmount) :
    moved.activeRoomId = page.activeRoomId ∧
      moved.peerConnectionsRef = page.peerConnectionsRef := by
  cases move with
  | entered hears | left hears | meet hears | dropPeer hears => exact absurd hears hquiet
  | closed fired => exact absurd fired (hclosed _ _)
  | unmount fired => exact absurd fired hunmount
  | _ => exact ⟨rfl, rfl⟩

lemma messages_of_resume {call : ℕ} {promise : Await} {outcome : Settlement}
    (h : page.resume call promise outcome = some page') : page'.messages = page.messages := by
  unfold Page.resume at h
  split at h
  all_goals try split_ifs at h
  all_goals cases h
  all_goals rfl

/-- Only messages and the end of a socket change what others have said. -/
lemma texts_of_step (hstep : page.step parseJson event = some page')
    (hmessage : ∀ socket call rawPayload, event ≠ .message socket call rawPayload)
    (hclosed : ∀ socket failed, event ≠ .closed socket failed) :
    ofOthers page'.messages = ofOthers page.messages := by
  cases event with
  | settle call outcome =>
    obtain ⟨promise, -, hresume⟩ := Option.bind_eq_some_iff.mp hstep
    rw [messages_of_resume hresume]
  | message socket call rawPayload => exact absurd rfl (hmessage socket call rawPayload)
  | closed socket failed => exact absurd rfl (hclosed socket failed)
  | sendText now =>
    obtain ⟨roomId, -, hstep⟩ := Option.bind_eq_some_iff.mp hstep
    obtain ⟨-, hstep⟩ := Option.ite_none_left_eq_some.mp hstep
    split_ifs at hstep
    · cases hstep
      simp [ofOthers, Page.render, Page.runEffect, Page.sendMessage]
    · cases hstep
      rfl
  | leave =>
    obtain ⟨roomId, -, hstep⟩ := Option.bind_eq_some_iff.mp hstep
    cases hstep
    rfl
  | opened socket =>
    obtain ⟨s, -, hstep⟩ := Option.bind_eq_some_iff.mp hstep
    obtain ⟨-, hstep⟩ := Option.ite_none_right_eq_some.mp hstep
    cases hstep
    rfl
  | icecandidate connection candidate =>
    obtain ⟨rtc, -, hstep⟩ := Option.bind_eq_some_iff.mp hstep
    obtain ⟨-, hstep⟩ := Option.ite_none_left_eq_some.mp hstep
    split at hstep
    · cases hstep
      rfl
    · cases hstep
      rfl
  | track connection audio =>
    obtain ⟨rtc, -, hstep⟩ := Option.bind_eq_some_iff.mp hstep
    obtain ⟨-, hstep⟩ := Option.ite_none_left_eq_some.mp hstep
    cases hstep
    rfl
  | join call =>
    obtain ⟨-, hstep⟩ := Option.ite_none_right_eq_some.mp hstep
    split_ifs at hstep
    all_goals
      cases hstep
      rfl
  | inputRoom | inputText | connect | disconnect | toggleMute =>
    obtain ⟨-, hstep⟩ := Option.ite_none_right_eq_some.mp hstep
    cases hstep
    rfl
  | render | effect | unmount =>
    cases hstep
    rfl

lemma sockets_of_step (hstep : page.step parseJson event = some page') :
    (page'.socketRef = page.socketRef ∧ SameSockets page page') ∨
      (∃ call userUid identity, event = .settle call (.text userUid) ∧
        page.calls call = some (.identity identity) ∧ page'.socketRef = some call ∧
        page'.sockets = Function.update page.sockets call
          (some ⟨.connecting, userUid, identity⟩)) ∨
      (∃ socket failed, event = .closed socket failed) ∧ page'.socketRef = none ∧
        page'.activeRoomId = none ∧ SameSockets page page' := by
  cases pageStepped_of_step hstep with
  | plain move shown =>
    have hmoved := sockets_of_move move
    exact hmoved
  | click move shown =>
    have hmoved := sockets_of_move move
    exact hmoved
  | press press shown => cases press <;> exact Or.inl ⟨rfl, fun _ => rfl⟩

lemma room_of_step (hstep : page.step parseJson event = some page') (hquiet : ¬Hears page event)
    (hclosed : ∀ socket failed, event ≠ .closed socket failed) (hunmount : event ≠ .unmount) :
    page'.activeRoomId = page.activeRoomId ∧
      page'.peerConnectionsRef = page.peerConnectionsRef := by
  cases pageStepped_of_step hstep with
  | plain move shown =>
    have hmoved := room_of_move move hquiet hclosed hunmount
    exact hmoved
  | click move shown =>
    have hmoved := room_of_move move hquiet hclosed hunmount
    exact hmoved
  | press press shown => cases press <;> exact ⟨rfl, rfl⟩

end Steps

/-! ### Runs -/

/-- What the page has made of the texts on its socket is what the client makes of their messages. -/
structure TakesIn (crates : Crates) (parseJson : String → Option JsonValue)
    (sign : String → UInt64 → Except String String) (events : List PageEvent) (page : Page) :
    Prop where
  unheard : ∀ k, page.sockets k = none → events.filterMap (textOn k) = []
  idle : page.socketRef = none → page.activeRoomId = none ∧ ofOthers page.messages = []
  inTune : ∀ socket uid log, page.socketRef = some socket →
    (page.sockets socket).map Socket.identity = some (some (uidText crates uid)) →
    log.map Heard.text = events.filterMap (textOn socket) →
    (∀ heard ∈ log, parseJson heard.text = some (heard.message.serialize crates)) →
    InTune crates page (hearAll sign (Client.connected uid) log).app

section Runs

variable {crates : Crates} {parseJson : String → Option JsonValue}
  {sign : String → UInt64 → Except String String} {events : List PageEvent}
  {page page' : Page} {event : PageEvent}

lemma takesIn_start : TakesIn crates parseJson sign [] Page.start :=
  ⟨fun _ _ => rfl, fun _ => ⟨rfl, rfl⟩, nofun⟩

lemma settled_hearAll (sign : String → UInt64 → Except String String) (uid : UserUid)
    (log : List Heard) : (hearAll sign (Client.connected uid) log).app.activeRoomRef =
      (hearAll sign (Client.connected uid) log).app.activeRoomId := by
  induction log using List.reverseRecOn with
  | nil => rfl
  | append_singleton log heard =>
    rw [hearAll_concat, app_hear]
    rfl

lemma filterMap_quiet (hevent : ∀ k, textOn k event = none) (events : List PageEvent) (k : ℕ) :
    (events ++ [event]).filterMap (textOn k) = events.filterMap (textOn k) := by
  rw [List.filterMap_append, List.filterMap_cons_none (hevent k), List.filterMap_nil,
    List.append_nil]

lemma sockets_none (h : SameSockets page page') {k : ℕ} (hk : page'.sockets k = none) :
    page.sockets k = none := by
  have hsame := h k
  rw [hk] at hsame
  exact Option.map_eq_none_iff.mp hsame.symm

/-- A message is taken in by the handler of the socket in use. -/
lemma TakesIn.message (h : TakesIn crates parseJson sign events page)
    (hbase64 : crates.base64.DecodeInvertsEncode) (huuid : crates.ReadsHyphenated)
    (hone : OneSocket page) {socket call : ℕ} {rawPayload : String}
    (hfresh : page.activeRoomRef = page.activeRoomId)
    (hstep : page.step parseJson (.message socket call rawPayload) = some page') :
    TakesIn crates parseJson sign (events ++ [.message socket call rawPayload]) page' := by
  have hsockets : page'.socketRef = page.socketRef ∧ SameSockets page page' := by
    rcases sockets_of_step hstep with hsame | ⟨_, _, _, he, -⟩ | ⟨⟨_, _, he⟩, -⟩
    · exact hsame
    · cases he
    · cases he
  obtain ⟨s, known, hstep⟩ := Option.bind_eq_some_iff.mp hstep
  obtain ⟨⟨-, opened⟩, he⟩ := Option.ite_none_right_eq_some.mp hstep
  cases he
  have hcurrent : page.socketRef = some socket := hone.live socket s known (by rw [opened]; nofun)
  have htext : textOn socket (.message socket call rawPayload) = some rawPayload := if_pos rfl
  refine ⟨fun k hk => ?_, fun hnone => ?_, fun socket' uid log href hidentity hlog hparse => ?_⟩
  · have hunknown := sockets_none hsockets.2 hk
    have hother : socket ≠ k := by
      rintro rfl
      rw [known] at hunknown
      cases hunknown
    have hsilent : textOn k (.message socket call rawPayload) = none := if_neg hother
    rw [List.filterMap_append, h.unheard k hunknown, List.filterMap_cons_none hsilent]
    rfl
  · rw [hsockets.1, hcurrent] at hnone
    cases hnone
  · rw [hsockets.1, hcurrent] at href
    obtain rfl := Option.some.inj href
    rw [hsockets.2 socket] at hidentity
    rw [List.filterMap_append, List.filterMap_cons_some htext, List.filterMap_nil] at hlog
    obtain ⟨before, last, rfl, hbefore, hlast⟩ := List.map_eq_append_iff.mp hlog
    obtain ⟨heard, rfl, rfl⟩ := List.map_eq_singleton_iff.mp hlast
    have hinTune := h.inTune socket uid before hcurrent hidentity hbefore
      (fun earlier hmem => hparse earlier (List.mem_append_left _ hmem))
    have hself : s.identity =
        (hearAll sign (Client.connected uid) before).app.identity.map (uidText crates) := by
      rw [known] at hidentity
      rw [identity_hearAll]
      exact Option.some.inj hidentity
    have hheard := hinTune.hear hbase64 huuid hfresh (settled_hearAll sign uid before) sign
      heard.sdp call heard.message
    rw [hearAll_concat, app_hear, hparse heard (by simp), hself]
    exact { hheard with }

/-- A new socket starts in no room and without peers. -/
lemma TakesIn.dial (h : TakesIn crates parseJson sign events page) (hone : OneSocket page)
    (hpeers : Peers page) {call : ℕ} {userUid : String} {identity : Option String}
    (pending : page.calls call = some (.identity identity))
    (href : page'.socketRef = some call)
    (hsockets : page'.sockets = Function.update page.sockets call
      (some ⟨.connecting, userUid, identity⟩))
    (hroom : page'.activeRoomId = page.activeRoomId)
    (hrefs : page'.peerConnectionsRef = page.peerConnectionsRef)
    (htexts : ofOthers page'.messages = ofOthers page.messages) :
    TakesIn crates parseJson sign events page' := by
  obtain ⟨hnone, -, hfree⟩ := hone.dialing call identity pending
  obtain ⟨hnoRoom, hnoTexts⟩ := h.idle hnone
  refine ⟨fun k hk => ?_, fun hnone' => ?_, fun socket uid log href' _ hlog _ => ?_⟩
  · rw [hsockets] at hk
    by_cases hcall : k = call
    · rw [hcall, Function.update_self] at hk
      cases hk
    · rw [Function.update_of_ne hcall] at hk
      exact h.unheard k hk
  · rw [href] at hnone'
    cases hnone'
  · rw [href] at href'
    obtain rfl := Option.some.inj href'
    rw [h.unheard call hfree] at hlog
    obtain rfl := List.map_eq_nil_iff.mp hlog
    refine ⟨⟨hroom.trans hnoRoom, fun uid' => ?_⟩, htexts.trans hnoTexts⟩
    rw [hrefs]
    cases hpeer : page.peerConnectionsRef (uidText crates uid') with
    | none => rfl
    | some k =>
      obtain ⟨rtc, hrtc, hopen, -⟩ := hpeers.registered _ k hpeer
      have hsocket := (hpeers.running k rtc hrtc hopen).2.1
      rw [hnone] at hsocket
      cases hsocket

/-- Nothing happens to the socket, the room, the peers and the texts. -/
lemma TakesIn.kept (h : TakesIn crates parseJson sign events page)
    (href : page'.socketRef = page.socketRef) (hsockets : SameSockets page page')
    (hroom : page'.activeRoomId = page.activeRoomId)
    (hrefs : page'.peerConnectionsRef = page.peerConnectionsRef)
    (htexts : ofOthers page'.messages = ofOthers page.messages) :
    TakesIn crates parseJson sign events page' := by
  refine ⟨fun k hk => h.unheard k (sockets_none hsockets hk), fun hnone => ?_,
    fun socket uid log href' hidentity hlog hparse => ?_⟩
  · rw [hroom, htexts]
    exact h.idle (href.symm.trans hnone)
  · rw [href] at href'
    rw [hsockets socket] at hidentity
    have hinTune := h.inTune socket uid log href' hidentity hlog hparse
    refine ⟨⟨hroom.trans hinTune.room, fun uid' => ?_⟩, htexts.trans hinTune.texts⟩
    rw [hrefs]
    exact hinTune.peers uid'

/-- Without a socket there is nothing to be in step with. -/
lemma TakesIn.without (h : TakesIn crates parseJson sign events page)
    (hnone : page'.socketRef = none) (hsockets : SameSockets page page')
    (hidle : page'.activeRoomId = none ∧ ofOthers page'.messages = []) :
    TakesIn crates parseJson sign events page' := by
  refine ⟨fun k hk => h.unheard k (sockets_none hsockets hk), fun _ => hidle,
    fun socket uid log href => ?_⟩
  rw [hnone] at href
  cases href

lemma TakesIn.step (h : TakesIn crates parseJson sign events page)
    (hbase64 : crates.base64.DecodeInvertsEncode) (huuid : crates.ReadsHyphenated)
    (hone : OneSocket page) (hpeers : Peers page) (hmounted : mounted page event = true)
    (hstep : page.step parseJson event = some page') :
    TakesIn crates parseJson sign (events ++ [event]) page' := by
  by_cases hmessage : ∃ socket call rawPayload, event = .message socket call rawPayload
  · obtain ⟨socket, call, rawPayload, rfl⟩ := hmessage
    exact h.message hbase64 huuid hone (of_decide_eq_true hmounted) hstep
  have hsilent : ∀ k, textOn k event = none := by
    intro k
    cases event with
    | message socket call rawPayload => exact absurd ⟨_, _, _, rfl⟩ hmessage
    | _ => rfl
  have hevents : TakesIn crates parseJson sign (events ++ [event]) page := by
    refine ⟨fun k hk => ?_, h.idle, fun socket uid log href hidentity hlog => ?_⟩
    · rw [filterMap_quiet hsilent, h.unheard k hk]
    · rw [filterMap_quiet hsilent] at hlog
      exact h.inTune socket uid log href hidentity hlog
  have hquiet : ¬Hears page event := by
    rintro ⟨socket, call, rawPayload, -, rfl, -⟩
    exact hmessage ⟨_, _, _, rfl⟩
  by_cases hclosed : ∃ socket failed, event = .closed socket failed
  · obtain ⟨socket, failed, rfl⟩ := hclosed
    have hgone : page'.socketRef = none ∧ (page'.activeRoomId = none ∧ ofOthers page'.messages = []) ∧
        SameSockets page page' := by
      obtain ⟨s, known, hstep⟩ := Option.bind_eq_some_iff.mp hstep
      obtain ⟨-, he⟩ := Option.ite_none_right_eq_some.mp hstep
      cases he
      cases failed with
      | true => exact ⟨rfl, ⟨rfl, rfl⟩, sameSockets_update known rfl⟩
      | false => exact ⟨rfl, ⟨rfl, rfl⟩, sameSockets_update known rfl⟩
    exact hevents.without hgone.1 hgone.2.2 hgone.2.1
  by_cases hunmount : event = .unmount
  · subst hunmount
    have hnone : page.socketRef = none := of_decide_eq_true hmounted
    cases hstep
    exact hevents.without hnone (sameSockets_close page) (h.idle hnone)
  obtain ⟨hroom, hrefs⟩ := room_of_step hstep hquiet
    (fun socket failed he => hclosed ⟨socket, failed, he⟩) hunmount
  have htexts := texts_of_step hstep
    (fun socket call rawPayload he => hmessage ⟨socket, call, rawPayload, he⟩)
    (fun socket failed he => hclosed ⟨socket, failed, he⟩)
  rcases sockets_of_step hstep with ⟨href, hsame⟩ | ⟨call, userUid, identity, rfl, pending, href,
    hsockets⟩ | ⟨hfired, -⟩
  · exact hevents.kept href hsame hroom hrefs htexts
  · exact hevents.dial hone hpeers pending href hsockets hroom hrefs htexts
  · exact absurd hfired hclosed

lemma takesIn_of_run (hbase64 : crates.base64.DecodeInvertsEncode) (huuid : crates.ReadsHyphenated)
    (sign : String → UInt64 → Except String String)
    (h : Execution.exec (Execution.within (Page.step parseJson) mounted) Page.start events =
      some page) : TakesIn crates parseJson sign events page := by
  have hall : OneSocket page ∧ Peers page ∧ TakesIn crates parseJson sign events page := by
    refine Execution.exec_induction _ (motive := fun events page =>
      OneSocket page ∧ Peers page ∧ TakesIn crates parseJson sign events page)
      ⟨oneSocket_start, peers_start, takesIn_start⟩ ?_ events page h
    rintro before now event next - ⟨hone, hpeers, htakesIn⟩ hwithin
    obtain ⟨hmounted, hstep⟩ := Execution.within_eq_some.mp hwithin
    exact ⟨hone.step hstep, hpeers.step hone hstep,
      htakesIn.step hbase64 huuid hone hpeers hmounted hstep⟩
  exact hall.2.2

end Runs

/-- In any order of events in which messages are handled up to date and the component stays while it
has a socket, the page on a socket is in the room, and has connections to the peers, that a client
knows of which has handled the messages of that socket in one go. -/
theorem page_in_step {crates : Crates} {parseJson : String → Option JsonValue}
    (hbase64 : crates.base64.DecodeInvertsEncode) (huuid : crates.ReadsHyphenated)
    (sign : String → UInt64 → Except String String) {events : List PageEvent} {page : Page}
    {socket : ℕ} {uid : UserUid} {log : List Heard}
    (h : Execution.exec (Execution.within (Page.step parseJson) mounted) Page.start events =
      some page)
    (href : page.socketRef = some socket)
    (hidentity : (page.sockets socket).map Socket.identity = some (some (uidText crates uid)))
    (hlog : log.map Heard.text = events.filterMap (textOn socket))
    (hparse : ∀ heard ∈ log, parseJson heard.text = some (heard.message.serialize crates)) :
    InStep crates page (hearAll sign (Client.connected uid) log).app :=
  ((takesIn_of_run hbase64 huuid sign h).inTune socket uid log href hidentity hlog hparse).toInStep

/-- The texts of the log of the second login. -/
def meshedLog : List Heard := heardBySecond.map (written · "")

/-- The second user mutes while the handler of the offer waits, and says something before the first
one does. -/
def pageMeshed : List PageEvent :=
  let text (i : ℕ) : String := (meshedLog[i]?.map Heard.text).getD ""
  opening (uidText Reference.wireCrates ⟨Reference.second.key⟩) ++
    [.message 1 2 (text 0), .settle 2 (.text "signature"), .message 1 3 (text 1), .render,
      .message 1 4 (text 2), .render, .effect, .message 1 5 (text 3), .toggleMute,
      .settle 5 .done, .inputText "hello", .sendText 0, .message 1 6 (text 4)]

lemma texts_pageMeshed : meshedLog.map Heard.text = pageMeshed.filterMap (textOn 1) := by
  decide +kernel

lemma pageMeshed_leaves : ∃ page, Execution.exec
    (Execution.within (Page.step Reference.wireCrates.parseJson) mounted) Page.start pageMeshed =
      some page ∧ page.socketRef = some 1 ∧ (page.sockets 1).map Socket.identity =
        some (some (uidText Reference.wireCrates ⟨Reference.second.key⟩)) := by
  have hrun : (Execution.exec (Execution.within (Page.step Reference.wireCrates.parseJson) mounted)
      Page.start pageMeshed).map (fun page =>
        (page.socketRef, (page.sockets 1).map Socket.identity)) =
      some (some 1, some (some (uidText Reference.wireCrates ⟨Reference.second.key⟩))) := by
    decide +kernel
  obtain ⟨page, hexec, hpage⟩ := Option.map_eq_some_iff.mp hrun
  exact ⟨page, hexec, Prod.mk.inj hpage⟩

theorem page_in_step_meshed : ∃ page, Execution.exec
    (Execution.within (Page.step Reference.wireCrates.parseJson) mounted) Page.start pageMeshed =
      some page ∧ page.activeRoomId = some Reference.room.hyphenated ∧
      (page.peerConnectionsRef
        (uidText Reference.wireCrates ⟨Reference.first.key⟩)).isSome = true := by
  obtain ⟨page, hexec, href, hidentity⟩ := pageMeshed_leaves
  have hplain : ∀ message ∈ heardBySecond,
      (message.serialize Reference.wireCrates).integral = true := by decide +kernel
  have hparse : ∀ heard ∈ meshedLog, Reference.wireCrates.parseJson heard.text =
      some (heard.message.serialize Reference.wireCrates) := by
    intro heard hheard
    obtain ⟨message, hmessage, rfl⟩ := List.mem_map.mp hheard
    exact parse_written (hplain message hmessage)
  obtain ⟨hroom, hpeers⟩ := page_in_step Reference.base64_decodes
    (fun uuid => Reference.readsHyphenated uuid) (fun _ _ => .error "") hexec href hidentity
    texts_pageMeshed hparse
  refine ⟨page, hexec, hroom.trans ?_, (hpeers _).trans ?_⟩
  · decide +kernel
  · decide +kernel

end VTNet.Proofs
