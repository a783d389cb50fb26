import VTNet.App

/-!
# The client and the browser around it (`client/src/App.tsx`)

The component as the browser runs it: one event at a time, and each handler up to its next `await`.
A handler that waits is a call, and what a call makes (a socket, a stream, a peer connection) goes
by its number. Closures see what was last rendered. Strings that are not Unicode are left out.
-/

namespace VTNet

/-! ### Values of JavaScript -/

/-- `value.name`, where the inner `none` is `undefined`, and the outer one an exception. -/
def property (name : String) : Option JsonValue → Option (Option JsonValue)
  | none => none
  | some .null => none
  | some (.obj fields) => some (fields.reverse.lookup name)
  | some _ => some none

/-- `typeof value === "string"` -/
def asString : Option JsonValue → Option String
  | some (.str value) => some value
  | _ => none

/-- `typeof value === "number"` -/
def asNumber : Option JsonValue → Option JsonValue
  | some (.int value) => some (.int value)
  | some (.float digits) => some (.float digits)
  | _ => none

/-- A string or `null`. -/
def nullable : Option String → JsonValue
  | some value => .str value
  | none => .null

/-- A string that is neither `null` nor empty. -/
def truthy (value : Option String) : Option String := value.filter (· ≠ "")

def isHexDigit (c : Char) : Bool :=
  ('0' ≤ c && c ≤ '9') || ('a' ≤ c && c ≤ 'f') || ('A' ≤ c && c ≤ 'F')

/-- The regular expression takes five groups of hexadecimal digits, the third one with a version and
the fourth one with a variant. -/
def isUuid (value : String) : Bool :=
  match value.toList.splitOn '-' with
  | [a, b, c, d, e] =>
    [(a, 8), (b, 4), (c, 4), (d, 4), (e, 12)].all
      (fun (group, length) => group.length = length && group.all isHexDigit) &&
      c.head?.any (fun v => '1' ≤ v && v ≤ '8') && d.head?.any ("89abAB".toList.contains ·)
  | _ => false

/-- `!value.trim()` -/
def isBlank (value : String) : Bool :=
  value.toList.all fun c => c.toNat < 2 ^ 16 && isJsWhitespace (.ofNat c.toNat)

/-! ### Objects of the browser -/

inductive ReadyState
  | connecting
  | opened
  | closing
  | closed
  deriving DecidableEq

structure Socket where
  readyState : ReadyState
  /-- `currentIdentity.user_uid` -/
  userUid : String
  /-- What `identity` is in the closure of `handleServerMessage`. -/
  identity : Option String

/-- A microphone stream, by its audio track. -/
structure Stream where
  enabled : Bool
  live : Bool

/-- Where and when it was made is remembered. -/
structure RtcConnection where
  peerUid : String
  /-- The stream whose tracks it sends. -/
  stream : Option ℕ
  closed : Bool
  socket : Option ℕ
  visit : ℕ

/-- A frame that the client has sent. For which connection, in which stay and with which room on the
screen is remembered. -/
structure Sent where
  socket : ℕ
  event : String
  payload : List (String × JsonValue)
  connection : Option ℕ
  visit : ℕ
  activeRoomId : Option String

/-- What a call waits for, with what it still needs of its scope. -/
inductive Await
  /-- `get_or_create_identity`, when the component is mounted -/
  | loading
  /-- `get_or_create_identity`, in `connect` -/
  | identity (identity : Option String)
  | signature (nonceBase64 : String) (serverTimestamp : JsonValue)
  | microphone (roomIdInput : String) (isMuted : Bool)
  | createOffer (connection : ℕ) (peerUid : String) (roomId : Option String)
  | localOffer (connection : ℕ) (peerUid : String) (roomId : Option String) (sdp : String)
  | remoteDescription (connection : ℕ) (peerUid : String) (sdpType sdpRaw : String)
  | createAnswer (connection : ℕ) (peerUid : String)
  | localAnswer (connection : ℕ) (peerUid : String) (sdp : String)
  | iceCandidate (connection : ℕ) (candidate : JsonValue)

/-- What a promise settles with. -/
inductive Settlement
  | rejected
  | done
  | text (value : String)

/-! ### The component -/

structure PageMessage where
  senderName : String
  text : String
  timestamp : JsonValue

/-- What the closures of a render see. -/
structure Rendered where
  identity : Option String
  connectionStatus : ConnectionStatus
  activeRoomId : Option String
  roomIdInput : String
  textInput : String
  isMuted : Bool

structure Page where
  socketRef : Option ℕ
  activeRoomRef : Option String
  localStreamRef : Option ℕ
  peerConnectionsRef : String → Option ℕ
  remoteAudioRef : String → Option ℕ
  identity : Option String
  connectionStatus : ConnectionStatus
  activeRoomId : Option String
  roomIdInput : String
  textInput : String
  messages : List PageMessage
  isMuted : Bool
  errorMessage : Option String
  rendered : Rendered
  /-- The value that the effect still to run gives to `activeRoomRef`. -/
  effect : Option (Option String)
  /-- The calls that wait, by their numbers. -/
  pending : List (ℕ × Await)
  sockets : ℕ → Option Socket
  streams : ℕ → Option Stream
  connections : ℕ → Option RtcConnection
  sent : List Sent
  /-- How often the room on the screen has been set. -/
  visit : ℕ

inductive PageEvent
  | settle (call : ℕ) (outcome : Settlement)
  | inputRoom (value : String)
  | inputText (value : String)
  | connect (call : ℕ)
  | disconnect
  | join (call : ℕ)
  | toggleMute
  | leave
  | sendText (now : ℕ)
  | opened (socket : ℕ)
  | message (socket : ℕ) (call : ℕ) (rawPayload : String)
  | closed (socket : ℕ) (failed : Bool)
  | icecandidate (connection : ℕ) (candidate : Option JsonValue)
  | track (connection : ℕ) (audio : ℕ)
  | render
  | effect
  /-- The cleanup of the third effect. -/
  | unmount

namespace Page

/-- The component after its first render, with its effects on their way. -/
def start : Page where
  socketRef := none
  activeRoomRef := none
  localStreamRef := none
  peerConnectionsRef := fun _ => none
  remoteAudioRef := fun _ => none
  identity := none
  connectionStatus := .disconnected
  activeRoomId := none
  roomIdInput := ""
  textInput := ""
  messages := []
  isMuted := false
  errorMessage := none
  rendered := ⟨none, .disconnected, none, "", "", false⟩
  effect := some none
  pending := [(0, .loading)]
  sockets := fun _ => none
  streams := fun _ => none
  connections := fun _ => none
  sent := []
  visit := 0

/-! ### React -/

def runEffect (page : Page) : Page :=
  { page with activeRoomRef := page.effect.getD page.activeRoomRef, effect := none }

/-- The effect of an earlier render runs first. It has `activeRoomId` as its only dependency. -/
def render (page : Page) : Page :=
  { page.runEffect with
    rendered := ⟨page.identity, page.connectionStatus, page.activeRoomId, page.roomIdInput,
      page.textInput, page.isMuted⟩
    effect := if page.activeRoomId = page.rendered.activeRoomId then none
      else some page.activeRoomId }

def setActiveRoomId (page : Page) (activeRoomId : Option String) : Page :=
  { page with activeRoomId, visit := page.visit + 1 }

def setErrorMessage (page : Page) (errorMessage : String) : Page :=
  { page with errorMessage := some errorMessage }

/-! ### Calls -/

def calls (page : Page) (call : ℕ) : Option Await := page.pending.lookup call

def await (page : Page) (call : ℕ) (promise : Await) : Page :=
  { page with pending := (call, promise) :: page.pending.filter (·.1 ≠ call) }

def finish (page : Page) (call : ℕ) : Page :=
  { page with pending := page.pending.filter (·.1 ≠ call) }

def unused (page : Page) (call : ℕ) : Bool :=
  (page.calls call).isNone && (page.sockets call).isNone && (page.streams call).isNone &&
    (page.connections call).isNone

/-! ### The functions of the component -/

/-- The socket that `sendMessage` sends to. -/
def openSocket (page : Page) : Option ℕ :=
  page.socketRef.filter fun socket => (page.sockets socket).any (·.readyState = .opened)

/-- `connection` is what the frame is about. -/
def sendMessage (page : Page) (connection : Option ℕ) (event : String)
    (payload : List (String × JsonValue)) : Page :=
  { page with sent := page.sent ++ (page.openSocket.map fun socket =>
    ⟨socket, event, payload, connection, page.visit, page.activeRoomId⟩).toList }

/-- `socketRef.current?.close()` -/
def closeSocket (page : Page) : Page :=
  { page with sockets := match page.socketRef with
    | some socket => Function.update page.sockets socket ((page.sockets socket).map fun s =>
        if s.readyState = .closed then s else { s with readyState := .closing })
    | none => page.sockets }

def isOpen (page : Page) (connection : ℕ) : Bool := (page.connections connection).any (!·.closed)

/-- The connections, with some of them closed. -/
def closing (page : Page) (which : ℕ → RtcConnection → Bool) : ℕ → Option RtcConnection :=
  fun k => (page.connections k).map fun connection =>
    if which k connection then { connection with closed := true } else connection

def closePeers (page : Page) : Page :=
  { page with
    connections := page.closing fun k connection =>
      page.peerConnectionsRef connection.peerUid = some k
    peerConnectionsRef := fun _ => none
    remoteAudioRef := fun _ => none }

/-- The streams, with the local one changed. -/
def onLocalStream (page : Page) (change : Stream → Stream) : ℕ → Option Stream :=
  match page.localStreamRef with
  | some stream => Function.update page.streams stream ((page.streams stream).map change)
  | none => page.streams

def cleanupMedia (page : Page) : Page :=
  { page.closePeers with
    streams := page.onLocalStream fun stream => { stream with live := false }
    localStreamRef := none
    isMuted := false }

/-- The connection to a peer, made under the number `call` if there is none. -/
def peerConnection (page : Page) (call : ℕ) (peerUid : String) : ℕ × Page :=
  match page.peerConnectionsRef peerUid with
  | some existing => (existing, page)
  | none =>
    (call, { page with
      connections := Function.update page.connections call
        (some ⟨peerUid, page.localStreamRef, false, page.socketRef, page.visit⟩)
      peerConnectionsRef := Function.update page.peerConnectionsRef peerUid (some call) })

def removePeer (page : Page) (peerUid : String) : Page :=
  { page with
    connections := page.closing fun k _ => page.peerConnectionsRef peerUid = some k
    peerConnectionsRef := Function.update page.peerConnectionsRef peerUid none
    remoteAudioRef := Function.update page.remoteAudioRef peerUid none }

/-- The branches of `handleServerMessage` with their payload, up to the first `await`. -/
def handleEvent (page : Page) (identity : Option String) (call : ℕ) (event : String)
    (payload : String → Option JsonValue) : Page :=
  let inRoom := payload "room_id" = some (nullable page.activeRoomRef)
  match event with
  | "auth_challenge" =>
    match asString (payload "nonce_base64"), asNumber (payload "server_timestamp") with
    | some nonceBase64, some serverTimestamp =>
      page.await call (.signature nonceBase64 serverTimestamp)
    | _, _ => page.setErrorMessage "The authentication challenge was incomplete."
  | "auth_failure" =>
    (page.setErrorMessage (if payload "reason" = some (.str "request_expired") then
        "The authentication challenge expired. Please connect again."
      else "Authentication was rejected by the server.")).closeSocket
  | "voice_room_joined" =>
    match asString (payload "room_id") with
    | some roomId => { page.closePeers.setActiveRoomId (some roomId) with messages := [] }
    | none => page
  | "peer_joined_room" =>
    match asString (payload "peer_uid") with
    | some peerUid =>
      if ¬inRoom ∨ some peerUid = identity then page
      else
        let (connection, met) := page.peerConnection call peerUid
        met.await call (.createOffer connection peerUid page.activeRoomRef)
    | none => page
  | "peer_left_room" =>
    match asString (payload "peer_uid") with
    | some peerUid => if inRoom then page.removePeer peerUid else page
    | none => page
  | "forward_web_rtc_sdp" =>
    match asString (payload "sender_uid"), asString (payload "sdp_type"),
      asString (payload "sdp_raw") with
    | some peerUid, some sdpType, some sdpRaw =>
      if inRoom then
        let (connection, met) := page.peerConnection call peerUid
        met.await call (.remoteDescription connection peerUid sdpType sdpRaw)
      else page
    | _, _, _ => page
  | "forward_web_rtc_ice" =>
    match asString (payload "sender_uid"), payload "candidate" with
    | some senderUid, some candidate =>
      if inRoom ∧ App.isObject candidate then
        let (connection, met) := page.peerConnection call senderUid
        met.await call (.iceCandidate connection candidate)
      else page
    | _, _ => page
  | "broadcast_text_message" =>
    match asString (payload "sender_name"), asString (payload "text_content"),
      asNumber (payload "server_timestamp") with
    | some senderName, some text, some timestamp =>
      if inRoom then { page with messages := page.messages ++ [⟨senderName, text, timestamp⟩] }
      else page
    | _, _, _ => page
  | _ => page

/-- An exception changes nothing, as nobody waits for the handler. -/
def handleServerMessage (page : Page) (identity : Option String) (call : ℕ) :
    Option JsonValue → Page
  | none => page.setErrorMessage "The server sent an invalid protocol message."
  | some message =>
    match property "event" (some message) with
    | some (some (.str "auth_success")) =>
      { page with connectionStatus := .connected, errorMessage := none }
    | some (some (.str "voice_room_left")) =>
      { page.setActiveRoomId none with messages := [] }.cleanupMedia
    | some (some (.str event)) =>
      match (property "payload" (some message)).join with
      | none => page
      | some .null => page
      | some payload =>
        page.handleEvent identity call event fun name => (property name (some payload)).join
    | _ => page

/-- The handler of a socket's `close` event. -/
def handleClose (page : Page) : Page :=
  { page.setActiveRoomId none with
    socketRef := none, activeRoomRef := none, connectionStatus := .disconnected
    messages := [] }.cleanupMedia

/-- What a call does when its promise settles. A peer connection that has been closed settles
nothing any more. -/
def resume (page : Page) (call : ℕ) : Await → Settlement → Option Page
  | .loading, .text userUid => some { page.finish call with identity := some userUid }
  | .loading, .rejected =>
    some ((page.finish call).setErrorMessage "Could not load the local identity.")
  | .identity identity, .text userUid =>
    some { page.finish call with
      identity := some userUid
      sockets := Function.update page.sockets call (some ⟨.connecting, userUid, identity⟩)
      socketRef := some call }
  | .identity _, .rejected =>
    some ({ page.finish call with connectionStatus := .disconnected }.setErrorMessage
      "Could not load the local identity.")
  | .signature _ _, .text signatureBase64 =>
    some ((page.finish call).sendMessage none "auth_response"
      [("signature_base64", .str signatureBase64)])
  | .signature _ _, .rejected =>
    some ((page.finish call).setErrorMessage "Could not sign the authentication challenge.")
  | .microphone roomIdInput isMuted, .done =>
    some ({ page.finish call with
      streams := Function.update page.streams call (some ⟨!isMuted, true⟩)
      localStreamRef := some call }.sendMessage none "join_voice_room"
        [("room_id", .str roomIdInput)])
  | .microphone _ _, .rejected =>
    some ((page.finish call).setErrorMessage
      "Microphone access is required to join a voice room.")
  | .createOffer connection peerUid roomId, .text sdp =>
    if page.isOpen connection then
      some (page.await call (.localOffer connection peerUid roomId sdp))
    else none
  | .localOffer connection peerUid roomId sdp, .done =>
    if page.isOpen connection then
      some ((page.finish call).sendMessage (some connection) "send_web_rtc_sdp"
        [("room_id", nullable roomId), ("target_uid", .str peerUid), ("sdp_type", .str "offer"),
          ("sdp_raw", .str sdp)])
    else none
  | .remoteDescription connection peerUid sdpType _, .done =>
    if page.isOpen connection then
      some (if sdpType = "offer" then page.await call (.createAnswer connection peerUid)
        else page.finish call)
    else none
  | .createAnswer connection peerUid, .text sdp =>
    if page.isOpen connection then some (page.await call (.localAnswer connection peerUid sdp))
    else none
  | .localAnswer connection peerUid sdp, .done =>
    if page.isOpen connection then
      some ((page.finish call).sendMessage (some connection) "send_web_rtc_sdp"
        [("room_id", nullable page.activeRoomRef), ("target_uid", .str peerUid),
          ("sdp_type", .str "answer"), ("sdp_raw", .str sdp)])
    else none
  | .iceCandidate connection _, .done =>
    if page.isOpen connection then some (page.finish call) else none
  | .createOffer connection _ _, .rejected | .localOffer connection _ _ _, .rejected
  | .remoteDescription connection _ _ _, .rejected | .createAnswer connection _, .rejected
  | .localAnswer connection _ _, .rejected | .iceCandidate connection _, .rejected =>
    if page.isOpen connection then some (page.finish call) else none
  | _, _ => none

/-- What is typed or clicked is rendered before the next event. -/
def step (parseJson : String → Option JsonValue) (page : Page) : PageEvent → Option Page
  | .settle call outcome => do page.resume call (← page.calls call) outcome
  | .inputRoom value =>
    if page.rendered.connectionStatus = .connected then
      some { page with roomIdInput := value }.render
    else none
  | .inputText value =>
    if (truthy page.rendered.activeRoomId).isSome then some { page with textInput := value }.render
    else none
  | .connect call =>
    if page.unused call ∧ page.rendered.identity.isSome ∧
      page.rendered.connectionStatus = .disconnected then
      some (({ page with connectionStatus := .connecting, errorMessage := none }.await call
        (.identity page.rendered.identity)).render)
    else none
  | .disconnect =>
    if page.rendered.connectionStatus ≠ .disconnected then some page.closeSocket.render else none
  | .join call =>
    if page.unused call ∧ page.rendered.connectionStatus = .connected then
      if ¬isUuid page.rendered.roomIdInput then
        some (page.setErrorMessage "Enter a valid room UUID.").render
      else if page.localStreamRef.isSome then
        some (page.sendMessage none "join_voice_room"
          [("room_id", .str page.rendered.roomIdInput)]).render
      else
        some (page.await call
          (.microphone page.rendered.roomIdInput page.rendered.isMuted)).render
    else none
  | .toggleMute =>
    if (truthy page.rendered.activeRoomId).isSome then
      let nextMuted := !page.rendered.isMuted
      some { page with
        streams := page.onLocalStream fun stream => { stream with enabled := !nextMuted }
        isMuted := nextMuted }.render
    else none
  | .leave => do
    let activeRoomId ← truthy page.rendered.activeRoomId
    some (page.sendMessage none "leave_voice_room" [("room_id", .str activeRoomId)]).render
  | .sendText now => do
    let activeRoomId ← truthy page.rendered.activeRoomId
    if isBlank page.rendered.textInput then none
    else
      let text := page.rendered.textInput
      if page.openSocket.isSome then
        let sent := page.sendMessage none "send_text_message"
          [("room_id", .str activeRoomId), ("text_content", .str text)]
        some { sent with
          messages := sent.messages ++ [PageMessage.mk "You" text (.int now)]
          textInput := "" }.render
      else some page.render
  | .opened socket => do
    let s ← page.sockets socket
    if s.readyState = .connecting then
      some ({ page with
        sockets := Function.update page.sockets socket (some { s with readyState := .opened })
        connectionStatus := .authenticating }.sendMessage none "auth_identify"
          [("protocol_version", .int protocolVersion.toNat), ("client_uid", .str s.userUid)])
    else none
  | .message socket call rawPayload => do
    let s ← page.sockets socket
    if page.unused call ∧ s.readyState = .opened then
      some (page.handleServerMessage s.identity call (parseJson rawPayload))
    else none
  | .closed socket failed => do
    let s ← page.sockets socket
    if s.readyState ≠ .closed then
      let page := { page with
        sockets := Function.update page.sockets socket (some { s with readyState := .closed }) }
      some (if failed then page.setErrorMessage "Could not connect to the local server." else page
        ).handleClose
    else none
  | .icecandidate connection candidate => do
    let rtc ← page.connections connection
    if rtc.closed then none
    else
      match candidate, truthy page.activeRoomRef with
      | some candidate, some roomId =>
        some (page.sendMessage (some connection) "send_web_rtc_ice" [("room_id", .str roomId),
          ("target_uid", .str rtc.peerUid), ("candidate", candidate)])
      | _, _ => some page
  | .track connection audio => do
    let rtc ← page.connections connection
    if rtc.closed then none
    else some { page with
      remoteAudioRef := Function.update page.remoteAudioRef rtc.peerUid (some audio) }
  | .render => some page.render
  | .effect => some page.runEffect
  | .unmount => some page.closeSocket.cleanupMedia

end Page

end VTNet
