import VTNet.Proofs.PageInStep

/-!
# What the screen shows is what the server has

A page that has taken in the texts of the log of its connection shows the room of its session, and
has peer connections to members of that room. Between the server, in any interleaving, and the page,
in its own order of events, stands a client that handles every message in one go.
-/

namespace VTNet.Proofs

/-! ### The chat -/

/-- The chat after an entry of the log about its room. -/
def chatStep (shown : List ChatMessage) : ServerMessage → List ChatMessage
  | .voiceRoomJoined _ => []
  | .voiceRoomLeft _ => []
  | .broadcastTextMessage _ _ senderName textContent serverTimestamp =>
    shown ++ [⟨senderName, textContent.value, serverTimestamp⟩]
  | _ => shown

def chat (log : List ServerMessage) : List ChatMessage := log.foldl chatStep []

lemma messages_hear {client : Client} (signed : String → UInt64 → Except String String) (sdp : String)
    {m : ServerMessage} (hactive : m.isPeerEvent = true → client.app.activeRoomRef = m.roomId?) :
    (client.hear signed sdp m).1.app.messages = chatStep client.app.messages m := by
  rw [app_hear]
  cases m with
  | broadcastTextMessage roomId senderUid senderName textContent serverTimestamp =>
    have hroom : client.app.activeRoomRef = some roomId := hactive rfl
    simp [App.handleServerMessage, hroom, App.settle, chatStep]
  | voiceRoomJoined | voiceRoomLeft => rfl
  | _ =>
    simp only [App.handleServerMessage, chatStep]
    repeat' split
    all_goals rfl

/-! ### A log of the server -/

/-- A client is in the room, and has the connections and the chat, that a log tells of. -/
structure Retraces (log : List ServerMessage) (app : App) : Prop where
  state : app.activeRoomId = bracketRoom log
  peers : ∀ v, (app.peerConnections v).isSome = linked v log
  messages : app.messages = chat log

/-- The session of the stage, if there is one, is that of `uid`. -/
def Stage.IsOf (uid : UserUid) : Stage → Prop
  | .unauth => True
  | .lobby self => self = uid
  | .inRoom self _ => self = uid

section ServerLogs

variable {crates : Crates} {sign : String → UInt64 → Except String String} {system : System}
  {c : ConnId} {s : Session} {stage stage' : Stage} {uid : UserUid} {m : ServerMessage}

/-- A session stays one of its user. -/
lemma isOf_before (h : outboundStep stage m = some stage') (hof : stage'.IsOf uid) :
    stage.IsOf uid := by
  cases stage with
  | unauth => trivial
  | lobby self =>
    cases m with
    | voiceRoomJoined roomId =>
      cases h
      exact hof
    | _ => cases h
  | inRoom self here =>
    by_cases hpeer : m.isPeerEvent = true
    · rwa [(room_of_peer h hpeer).2] at hof
    · cases m with
      | voiceRoomJoined | voiceRoomLeft =>
        simp only [outboundStep] at h
        split_ifs at h
        cases h
        exact hof
      | authChallenge | authSuccess | authFailure =>
        simp only [outboundStep] at h
        split_ifs at h with haccepted
        exact absurd haccepted.1 hpeer
      | _ => exact absurd rfl hpeer

/-- Nobody is told of its own coming. -/
lemma other_of_accepted {roomId : Uuid} {v : UserUid} {peerName : String}
    (h : outboundStep stage (.peerJoinedRoom roomId v peerName) = some stage')
    (hof : stage.IsOf uid) : uid ≠ v := by
  cases stage with
  | inRoom self here =>
    simp only [outboundStep] at h
    split_ifs at h with haccepted
    rintro rfl
    exact haccepted.2.2 (congrArg some (show self = uid from hof).symm)
  | _ => cases h

lemma retraces_of_accepted {log : List Heard}
    (h : Execution.exec outboundStep .unauth (log.map Heard.message) = some stage)
    (hof : stage.IsOf uid) :
    Retraces (log.map Heard.message) (hearAll sign (Client.connected uid) log).app := by
  induction log using List.reverseRecOn generalizing stage with
  | nil => exact ⟨rfl, fun _ => rfl, rfl⟩
  | append_singleton log heard ih =>
    rw [List.map_append, List.map_singleton] at h ⊢
    obtain ⟨before, hbefore, hstep⟩ := (Execution.exec_concat ..).mp h
    have hofBefore := isOf_before hstep hof
    have hretraces := ih hbefore hofBefore
    have hidentity := identity_hearAll sign (Client.connected uid) log
    have hactive : heard.message.isPeerEvent = true →
        (hearAll sign (Client.connected uid) log).app.activeRoomRef = heard.message.roomId? := by
      intro hpeer
      rw [settled_hearAll, hretraces.state, (room_of_peer hstep hpeer).1, room_of_accepted hbefore]
    have hself : ∀ roomId v peerName, heard.message = .peerJoinedRoom roomId v peerName →
        (hearAll sign (Client.connected uid) log).app.identity ≠ some v := by
      intro roomId v peerName hmessage
      rw [hmessage] at hstep
      rw [hidentity]
      exact fun hv => other_of_accepted hstep hofBefore (Option.some.inj hv)
    rw [hearAll_concat]
    constructor
    · rw [app_hear, bracketRoom_concat, ← hretraces.state]
      exact (app_after_message sign heard.sdp _ heard.message).2.2
    · intro v
      rw [linked_hear sign heard.sdp hactive hself, linked_concat, hretraces.peers]
    · rw [messages_hear sign heard.sdp hactive, hretraces.messages, chat, chat, List.foldl_append]
      rfl

/-- What a client of a session makes of the log of its connection, whatever the server has got from
others. -/
lemma retraces_of_roster (h : Reachable crates system) (hs : system.roster c = some s)
    {log : List Heard} (hlog : log.map Heard.message = system.outbound c) :
    Retraces (system.outbound c) (hearAll sign (Client.connected s.userUid) log).app := by
  obtain ⟨actions, hactions⟩ := h
  obtain ⟨stage, haccepted, hstaged⟩ := staged_of_run hactions c
  obtain ⟨task, htask, hsession⟩ := Option.bind_eq_some_iff.mp hs
  have hof : stage.IsOf s.userUid := by
    by_cases hreplying : ∃ m, task.phase = .replying m
    · obtain ⟨m, hm⟩ := hreplying
      rw [hstaged.replying task m htask hm]
      trivial
    · rw [hstaged.active task s htask hsession (fun m hm => hreplying ⟨m, hm⟩), Stage.of]
      cases s.activeVoiceRoomId <;> rfl
  rw [← hlog] at haccepted ⊢
  exact retraces_of_accepted haccepted hof

/-- A page that has taken in the texts of a log is in tune with a client that retraces the log. -/
lemma page_retraces {toJson : JsonWriter} {parseJson : String → Option JsonValue}
    {events : List PageEvent} {page : Page} {socket : ℕ}
    (hbase64 : crates.base64.DecodeInvertsEncode) (huuid : crates.ReadsHyphenated)
    (h : Reachable crates system) (hs : system.roster c = some s)
    (hread : ∀ message ∈ system.outbound c, ∃ text,
      encodeServerMessage crates toJson message = some text ∧
        parseJson text = some (message.serialize crates))
    (hpage : Execution.exec (Execution.within (Page.step parseJson) mounted) Page.start events =
      some page)
    (href : page.socketRef = some socket)
    (hidentity : (page.sockets socket).map Socket.identity =
      some (some (uidText crates s.userUid)))
    (htexts : (events.filterMap (textOn socket)).map some =
      (system.outbound c).map (encodeServerMessage crates toJson)) :
    ∃ app, InTune crates page app ∧ Retraces (system.outbound c) app := by
  let log : List Heard := (system.outbound c).map fun message =>
    ⟨message, (encodeServerMessage crates toJson message).getD "", ""⟩
  have hmessages : log.map Heard.message = system.outbound c := by
    rw [List.map_map]
    exact List.map_id _
  have hlog : log.map Heard.text = events.filterMap (textOn socket) := by
    have htext := congrArg (List.map fun text => Option.getD text "") htexts
    rw [List.map_map, List.map_map] at htext
    rw [List.map_map]
    exact htext.symm.trans (List.map_id _)
  have hparse : ∀ heard ∈ log, parseJson heard.text = some (heard.message.serialize crates) := by
    intro heard hheard
    obtain ⟨message, hmessage, rfl⟩ := List.mem_map.mp hheard
    obtain ⟨text, htext, hparse⟩ := hread message hmessage
    rwa [htext]
  have htakesIn := takesIn_of_run hbase64 huuid (fun _ _ => .error "") hpage
  exact ⟨_, htakesIn.inTune socket s.userUid log href hidentity hlog hparse,
    retraces_of_roster h hs hmessages⟩

end ServerLogs

/-- Whatever frames the server has got, in any interleaving of its tasks: a page that has taken in
the texts of the log of its connection, in any order of events in which messages are handled up to
date and the component stays while it has a socket, shows the room of its session, and has peer
connections to members of that room only. -/
theorem page_agrees_with_server {crates : Crates} {toJson : JsonWriter}
    {parseJson : String → Option JsonValue} {system : System} {c : ConnId} {s : Session}
    {events : List PageEvent} {page : Page} {socket : ℕ}
    (hbase64 : crates.base64.DecodeInvertsEncode) (huuid : crates.ReadsHyphenated)
    (h : Reachable crates system) (hs : system.roster c = some s)
    (hread : ∀ message ∈ system.outbound c, ∃ text,
      encodeServerMessage crates toJson message = some text ∧
        parseJson text = some (message.serialize crates))
    (hpage : Execution.exec (Execution.within (Page.step parseJson) mounted) Page.start events =
      some page)
    (href : page.socketRef = some socket)
    (hidentity : (page.sockets socket).map Socket.identity =
      some (some (uidText crates s.userUid)))
    (htexts : (events.filterMap (textOn socket)).map some =
      (system.outbound c).map (encodeServerMessage crates toJson)) :
    page.activeRoomId = s.activeVoiceRoomId.map Uuid.hyphenated ∧
      ∀ v, (page.peerConnectionsRef (uidText crates v)).isSome = true → Beside system s v := by
  obtain ⟨app, hinTune, hretraces⟩ :=
    page_retraces hbase64 huuid h hs hread hpage href hidentity htexts
  refine ⟨?_, fun v hv => ?_⟩
  · rw [hinTune.room, hretraces.state, bracketRoom_of_roster h hs]
  · rw [hinTune.peers, hretraces.peers] at hv
    obtain ⟨k, m, roomId, hk, hmeets, htogether⟩ := met_of_linked hv
    exact ⟨roomId, room_of_together h hs hk hmeets htogether,
      metArePresent_of_reachable h c s k m roomId v hs hk hmeets htogether⟩

lemma readable_of_plain {log : List ServerMessage} (h : ∀ message ∈ log, isPlain message = true) :
    ∀ message ∈ log, ∃ text,
      encodeServerMessage Reference.crates Reference.toJson message = some text ∧
        Reference.wireCrates.parseJson text = some (message.serialize Reference.crates) :=
  fun message hmessage => ⟨_, rfl, Reference.parseJson_text (h message hmessage)⟩

lemma log_pageMeshed : (pageMeshed.filterMap (textOn 1)).map some =
    heardBySecond.map (encodeServerMessage Reference.crates Reference.toJson) := by
  rw [← texts_pageMeshed, meshedLog, List.map_map, List.map_map]
  exact List.map_congr_left fun message _ => rfl

theorem page_agrees_with_server_meshed : ∃ page, Execution.exec
    (Execution.within (Page.step Reference.wireCrates.parseJson) mounted) Page.start pageMeshed =
      some page ∧ page.activeRoomId = some Reference.room.hyphenated := by
  obtain ⟨page, hexec, href, hidentity⟩ := pageMeshed_leaves
  obtain ⟨network, client, s, hnetwork, hclient, hs, ⟨-, hsecond⟩, hroom, -, houtbound⟩ :=
    meshed_leaves
  obtain ⟨hactive, -⟩ := page_agrees_with_server Reference.base64_decodes
    Reference.readsHyphenated (reachable_system ⟨_, hnetwork⟩) hs
    (readable_of_plain (atRest_of_isAtRest hsecond hclient).plain) hexec href
    (by rw [session_meshed hnetwork hs]; exact hidentity) (by rw [houtbound, log_pageMeshed])
  refine ⟨page, hexec, ?_⟩
  rw [hactive, hroom]
  rfl

/-! ### A network at rest -/

end VTNet.Proofs
