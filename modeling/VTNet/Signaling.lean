import VTNet.App
import VTNet.Presence

/-!
# The server together with its clients

Every connection is that of a client, which handles the entries of its log one at a time and in
order, each of them to its end. Its ref is up to date whenever it does. The frames it sends reach the server in order
and after any delay, as texts that the server decodes to what has been sent.
-/

namespace VTNet

/-- The client of one connection. -/
structure Client where
  app : App
  /-- How many entries of its log it has handled. -/
  handled : ℕ
  /-- The frames that have not reached the server yet. -/
  outgoing : List ClientMessage

/-- A session description that a client has made for a peer and sent. -/
structure Description where
  maker : ConnId
  /-- The entry of its log on which the client has made it. -/
  entry : ℕ
  roomId : Uuid
  peerUid : UserUid
  sdp : String
  /-- The offer that it answers, if it is an answer. -/
  answers : Option String
  deriving DecidableEq

def Description.sdpType (r : Description) : SdpType :=
  match r.answers with
  | none => .offer
  | some _ => .answer

/-- The frame that its maker has sent it in. -/
def Description.frame (r : Description) : ClientMessage :=
  .sendWebRtcSdp r.roomId r.peerUid r.sdpType r.sdp

/-- All descriptions that have been made are remembered in order. -/
structure Network where
  system : System
  clients : ConnId → Option Client
  made : List Description

def Network.start : Network := ⟨System.default, fun _ => none, []⟩

inductive NetworkAction
  /-- A user connects: the socket opens and the client identifies itself. -/
  | connect (c : ConnId) (userUid : UserUid)
  /-- A user or a peer connection makes the client send something by itself. -/
  | act (c : ConnId) (message : ClientMessage)
  /-- A frame of the client reaches the server, or the connection ends. -/
  | deliver (c : ConnId) (frame : Frame) (nonce : Nonce) (serverTimestamp : UInt64) (now : Instant)
  /-- The task of a connection goes on without a frame. -/
  | serve (action : Action)
  /-- The client handles the next entry of its log, where its peer connection would describe
  itself by `sdp`. -/
  | hear (c : ConnId) (sdp : String)

/-- What is sent other than in answer to a message of the server. -/
def ClientMessage.isSpontaneous : ClientMessage → Bool
  | .joinVoiceRoom _ => true
  | .leaveVoiceRoom _ => true
  | .sendTextMessage _ _ => true
  | .sendWebRtcIce _ _ _ => true
  | _ => false

/-- The description that a frame carries. -/
def ClientMessage.sdp? : ClientMessage → Option String
  | .sendWebRtcSdp _ _ _ sdp => some sdp
  | _ => none

def ServerMessage.sdp? : ServerMessage → Option String
  | .forwardWebRtcSdp _ _ _ sdp => some sdp
  | _ => none

def Action.isInternal : Action → Bool
  | .accept _ => false
  | .receive _ _ _ _ _ => false
  | _ => true

def Client.connected (userUid : UserUid) : Client :=
  ⟨App.start userUid, 0, [.authIdentify protocolVersion userUid]⟩

/-- The client after a frame has arrived. A text is the first of its frames on their way. -/
def Client.deliver (crates : Crates) (client : Client) (frame : Frame) : Option Client :=
  match frame with
  | .text payload =>
    match client.outgoing with
    | [] => none
    | message :: outgoing =>
      match decodeClientMessage crates payload with
      | .ok decoded => if decoded = message then some { client with outgoing } else none
      | .error _ => none
  | _ => some client

/-- The effect that copies the room runs before the next message is handled. -/
def App.settle (app : App) : App := { app with activeRoomRef := app.activeRoomId }

/-- The client after an entry of its log, and what it sends. -/
def Client.hear (sign : String → UInt64 → Except String String) (sdp : String) (client : Client)
    (message : ServerMessage) : Client × List ClientMessage :=
  let (app, sent) := (client.app.handleServerMessage sign sdp message).getD (client.app, [])
  (⟨app.settle, client.handled + 1, client.outgoing ++ sent⟩, sent)

/-- What a client with this ref can send on an entry of its log. -/
inductive Sends (sdp : String) (activeRoomRef : Option Uuid) :
    ServerMessage → List ClientMessage → Prop
  | nothing {m : ServerMessage} : Sends sdp activeRoomRef m []
  | response {nonceBase64 : String} {serverTimestamp : UInt64} (signatureBase64 : String) :
      Sends sdp activeRoomRef (.authChallenge nonceBase64 serverTimestamp)
        [.authResponse signatureBase64]
  | offer {roomId : Uuid} {peerUid : UserUid} {peerName : String}
      (active : activeRoomRef = some roomId) :
      Sends sdp activeRoomRef (.peerJoinedRoom roomId peerUid peerName)
        [.sendWebRtcSdp roomId peerUid .offer sdp]
  | answer {roomId : Uuid} {senderUid : UserUid} {offer : String}
      (active : activeRoomRef = some roomId) :
      Sends sdp activeRoomRef (.forwardWebRtcSdp roomId senderUid .offer offer)
        [.sendWebRtcSdp roomId senderUid .answer sdp]

theorem Client.sends_of_hear (sign : String → UInt64 → Except String String) (sdp : String)
    (client : Client) (message : ServerMessage) :
    Sends sdp client.app.activeRoomRef message (client.hear sign sdp message).2 := by
  simp only [Client.hear]
  cases message with
  | authChallenge nonceBase64 serverTimestamp =>
    simp only [App.handleServerMessage]
    split
    · exact .response _
    · exact .nothing
  | peerJoinedRoom roomId peerUid peerName =>
    simp only [App.handleServerMessage]
    split_ifs with hdropped
    · exact .nothing
    · exact .offer (not_not.mp (not_or.mp hdropped).1)
  | forwardWebRtcSdp roomId senderUid sdpType sdpRaw =>
    simp only [App.handleServerMessage]
    split_ifs with hactive
    · cases sdpType with
      | offer => exact .answer hactive
      | answer => exact .nothing
    · exact .nothing
  | _ =>
    simp only [App.handleServerMessage]
    first
      | exact .nothing
      | (split_ifs <;> exact .nothing)

/-- The description in a frame that is sent on an entry of the log. -/
def ClientMessage.description (c : ConnId) (entry : ℕ) (heard : ServerMessage) :
    ClientMessage → Option Description
  | .sendWebRtcSdp roomId targetUid _ sdp =>
    some ⟨c, entry, roomId, targetUid, sdp, match heard with
      | .forwardWebRtcSdp _ _ .offer offer => some offer
      | _ => none⟩
  | _ => none

namespace Network

def setClient (network : Network) (c : ConnId) (client : Client) : Network :=
  { network with clients := Function.update network.clients c (some client) }

/-- The user of a connection, as its client knows it. -/
def uid (network : Network) (c : ConnId) : Option UserUid :=
  (network.clients c).bind fun client => client.app.identity

/-- `sign` is what the client of a connection makes of a challenge. No two descriptions that
peer connections create are the same text. -/
def step (crates : Crates) (sign : ConnId → String → UInt64 → Except String String)
    (network : Network) : NetworkAction → Option Network
  | .connect c userUid => do
    let system ← network.system.step crates (.accept c)
    return { network.setClient c (Client.connected userUid) with system }
  | .act c message => do
    let client ← network.clients c
    if message.isSpontaneous then
      return network.setClient c { client with outgoing := client.outgoing ++ [message] }
    else none
  | .deliver c frame nonce serverTimestamp now => do
    let client ← network.clients c
    let client ← client.deliver crates frame
    let system ← network.system.step crates (.receive c frame nonce serverTimestamp now)
    return { network.setClient c client with system }
  | .serve action => do
    let system ← network.system.step crates action
    if action.isInternal then return { network with system } else none
  | .hear c sdp => do
    let client ← network.clients c
    let heard ← (network.system.outbound c)[client.handled]?
    if sdp ∈ network.made.map (·.sdp) then none
    else
      let (client', sent) := client.hear (sign c) sdp heard
      return { network.setClient c client' with
        made := network.made ++ sent.filterMap (ClientMessage.description c client.handled heard) }

/-- Everything a step can do. -/
inductive Stepped (crates : Crates) (sign : ConnId → String → UInt64 → Except String String)
    (network : Network) : NetworkAction → Network → Prop
  | connect {c : ConnId} (userUid : UserUid) {system : System}
      (accepted : network.system.step crates (.accept c) = some system) :
      Stepped crates sign network (.connect c userUid)
        { network.setClient c (Client.connected userUid) with system }
  | act {c : ConnId} {client : Client} {message : ClientMessage}
      (running : network.clients c = some client) (spontaneous : message.isSpontaneous = true) :
      Stepped crates sign network (.act c message)
        (network.setClient c { client with outgoing := client.outgoing ++ [message] })
  | deliver {c : ConnId} {client client' : Client} {frame : Frame} {nonce : Nonce}
      {serverTimestamp : UInt64} {now : Instant} {system : System}
      (running : network.clients c = some client) (sent : client.deliver crates frame = some client')
      (received : network.system.step crates (.receive c frame nonce serverTimestamp now) =
        some system) :
      Stepped crates sign network (.deliver c frame nonce serverTimestamp now)
        { network.setClient c client' with system }
  | serve {action : Action} {system : System}
      (served : network.system.step crates action = some system)
      (internal : action.isInternal = true) :
      Stepped crates sign network (.serve action) { network with system }
  | hear {c : ConnId} {client : Client} {heard : ServerMessage} {sdp : String}
      (running : network.clients c = some client)
      (next : (network.system.outbound c)[client.handled]? = some heard)
      (fresh : sdp ∉ network.made.map (·.sdp)) :
      Stepped crates sign network (.hear c sdp)
        { network.setClient c (client.hear (sign c) sdp heard).1 with
          made := network.made ++ (client.hear (sign c) sdp heard).2.filterMap
            (ClientMessage.description c client.handled heard) }

theorem stepped_of_step {crates : Crates} {sign : ConnId → String → UInt64 → Except String String}
    {network network' : Network} {action : NetworkAction}
    (h : network.step crates sign action = some network') :
    Stepped crates sign network action network' := by
  cases action with
  | connect c userUid =>
    obtain ⟨system, hsystem, h⟩ := Option.bind_eq_some_iff.mp h
    cases h
    exact .connect userUid hsystem
  | act c message =>
    obtain ⟨client, hclient, h⟩ := Option.bind_eq_some_iff.mp h
    split at h
    · rename_i hspontaneous
      cases h
      exact .act hclient hspontaneous
    · cases h
  | deliver c frame nonce serverTimestamp now =>
    obtain ⟨client, hclient, h⟩ := Option.bind_eq_some_iff.mp h
    obtain ⟨client', hsent, h⟩ := Option.bind_eq_some_iff.mp h
    obtain ⟨system, hsystem, h⟩ := Option.bind_eq_some_iff.mp h
    cases h
    exact .deliver hclient hsent hsystem
  | serve action =>
    obtain ⟨system, hsystem, h⟩ := Option.bind_eq_some_iff.mp h
    split at h
    · rename_i hinternal
      cases h
      exact .serve hsystem hinternal
    · cases h
  | hear c sdp =>
    obtain ⟨client, hclient, h⟩ := Option.bind_eq_some_iff.mp h
    obtain ⟨heard, hheard, h⟩ := Option.bind_eq_some_iff.mp h
    split at h
    · cases h
    · rename_i hfresh
      cases h
      exact .hear hclient hheard hfresh

end Network

end VTNet
