import VTNet.Identity
import Mathlib.Data.List.DropRight
import Mathlib.Logic.Function.Basic

/-!
# The client (`client/src/App.tsx`)

Messages of the server are taken as decoded, since the two sides agree on their fields. A peer
connection is known by its outstanding local offer. Microphone and audio elements, whose
state decides no message, are left out.
-/

namespace VTNet

/-- `PROTOCOL_VERSION` -/
def protocolVersion : UInt16 := 1

/-! ### JavaScript strings -/

/-- A string by its UTF-16 code units. -/
abbrev JsString := List UInt16

/-- The WhiteSpace and LineTerminator of ECMAScript. -/
def isJsWhitespace (unit : UInt16) : Bool :=
  let n := unit.toNat
  (0x09 ≤ n && n ≤ 0x0D) || n = 0x20 || n = 0xA0 || n = 0x1680 || (0x2000 ≤ n && n ≤ 0x200A) ||
    n = 0x2028 || n = 0x2029 || n = 0x202F || n = 0x205F || n = 0x3000 || n = 0xFEFF

/-- `String.prototype.trim` -/
def jsTrim (text : JsString) : JsString :=
  (text.dropWhile isJsWhitespace).rdropWhile isJsWhitespace

def ofString (text : String) : List Utf16.CodePoint := text.toList.map .scalar

/-- `JSON.stringify({ event, payload })` for a payload of strings. -/
def sendMessageText (event : String) (payload : List (String × List Utf16.CodePoint)) : String :=
  String.ofList (Json.objectText [("event", Json.quote (ofString event)),
    ("payload", Json.objectText (Json.fieldTexts Prod.fst (fun field => Json.quote field.2) payload))])

/-- The tree of such a message, unless one of its strings has a lone surrogate. -/
def sendMessageTree (event : String) (payload : List (String × List Utf16.CodePoint)) :
    Option JsonValue :=
  (Json.fieldValues Prod.fst
    (fun field => (field.2.mapM Utf16.CodePoint.scalar?).map fun chars => .str (String.ofList chars))
    payload).map fun fields => .obj [("event", .str event), ("payload", .obj fields)]

/-- `serde_json` reads what `JSON.stringify` writes, and refuses escapes of lone surrogates. -/
def Crates.ReadsStringified (crates : Crates) : Prop :=
  ∀ event payload, crates.parseJson (sendMessageText event payload) = sendMessageTree event payload

/-- The form for `textInput` has sent this frame. -/
def sendText (activeRoomId : Option Uuid) (textInput : JsString) : Option String :=
  match activeRoomId with
  | none => none
  | some activeRoomId =>
    if jsTrim textInput ≠ [] then
      some (sendMessageText "send_text_message"
        [("room_id", ofString activeRoomId.hyphenated),
          ("text_content", Utf16.codePoints textInput)])
    else none

/-- The limit that the chat input puts on its text. -/
def maxLength : ℕ := 4096

/-! ### The state of the component -/

/-- A `RTCPeerConnection`, by the local offer that waits for its answer. -/
structure PeerConnection where
  localOffer : Option String
  deriving DecidableEq

inductive ConnectionStatus
  | disconnected
  | connecting
  | authenticating
  | connected
  deriving DecidableEq

structure ChatMessage where
  senderName : String
  text : String
  timestamp : UInt64

structure App where
  identity : Option UserUid
  connectionStatus : ConnectionStatus
  activeRoomId : Option Uuid
  /-- `activeRoomRef.current` -/
  activeRoomRef : Option Uuid
  peerConnections : UserUid → Option PeerConnection
  messages : List ChatMessage
  errorMessage : Option String

namespace App

/-- A component that has opened its socket. -/
def start (identity : UserUid) : App where
  identity := some identity
  connectionStatus := .authenticating
  activeRoomId := none
  activeRoomRef := none
  peerConnections := fun _ => none
  messages := []
  errorMessage := none

/-- The connection to a peer, made if there is none. -/
def peerConnection (app : App) (peerUid : UserUid) : PeerConnection :=
  (app.peerConnections peerUid).getD ⟨none⟩

def setPeer (app : App) (peerUid : UserUid) (connection : PeerConnection) : App :=
  { app with peerConnections := Function.update app.peerConnections peerUid (some connection) }

def removePeer (app : App) (peerUid : UserUid) : App :=
  { app with peerConnections := Function.update app.peerConnections peerUid none }

/-- `invoke("sign_auth_challenge")`, where `jsNumber` is what JavaScript makes of an integer. -/
def signChallenge (crates : Crates) (jsNumber : UInt64 → UInt64) (keyring : Keyring) (fresh : Seed)
    (identity : IdentitySeed) (nonceBase64 : String) (serverTimestamp : UInt64) :
    Except String String :=
  (identity.signAuthChallenge crates keyring fresh
    ⟨protocolVersion, nonceBase64, jsNumber serverTimestamp⟩).1

/-- `typeof candidate === "object"`, and not null. -/
def isObject : JsonValue → Bool
  | .arr _ => true
  | .obj _ => true
  | _ => false

/-- The state after a message of the server and the frames it makes the client send, or `none`
where the message is dropped. `sign` is `sign_auth_challenge` and `sdp` the description that a
peer connection creates, if one is asked to. -/
def handleServerMessage (sign : String → UInt64 → Except String String) (sdp : String) (app : App)
    (message : ServerMessage) : Option (App × List ClientMessage) :=
  match message with
  | .authChallenge nonceBase64 serverTimestamp =>
    match sign nonceBase64 serverTimestamp with
    | .ok signatureBase64 => some (app, [.authResponse signatureBase64])
    | .error _ =>
      some ({ app with errorMessage := some "Could not sign the authentication challenge." }, [])
  | .authSuccess _ _ _ => some ({ app with connectionStatus := .connected, errorMessage := none }, [])
  | .authFailure reason =>
    let error := if reason = .requestExpired then
        "The authentication challenge expired. Please connect again."
      else "Authentication was rejected by the server."
    some ({ app with errorMessage := some error }, [])
  | .voiceRoomJoined roomId =>
    some ({ app with
      peerConnections := fun _ => none, activeRoomId := some roomId, messages := [] }, [])
  | .voiceRoomLeft _ =>
    some ({ app with peerConnections := fun _ => none, activeRoomId := none, messages := [] }, [])
  | .peerJoinedRoom roomId peerUid _ =>
    if app.activeRoomRef ≠ some roomId ∨ app.identity = some peerUid then none
    else some (app.setPeer peerUid { app.peerConnection peerUid with localOffer := some sdp },
      [.sendWebRtcSdp roomId peerUid .offer sdp])
  | .peerLeftRoom roomId peerUid =>
    if app.activeRoomRef = some roomId then some (app.removePeer peerUid, []) else none
  | .forwardWebRtcSdp roomId senderUid sdpType _ =>
    if app.activeRoomRef = some roomId then
      match sdpType with
      | .offer =>
        -- an offer of its own is rolled back
        some (app.setPeer senderUid { app.peerConnection senderUid with localOffer := none },
          [.sendWebRtcSdp roomId senderUid .answer sdp])
      | .answer =>
        -- without an offer of its own the connection refuses the answer
        some (app.setPeer senderUid { app.peerConnection senderUid with localOffer := none }, [])
    else none
  | .forwardWebRtcIce roomId senderUid candidate =>
    if app.activeRoomRef = some roomId ∧ isObject candidate.tree then
      some (app.setPeer senderUid (app.peerConnection senderUid), [])
    else none
  | .broadcastTextMessage roomId _ senderName textContent serverTimestamp =>
    if app.activeRoomRef = some roomId then
      some ({ app with
        messages := app.messages ++ [⟨senderName, textContent.value, serverTimestamp⟩] }, [])
    else none

/-- The handler of the socket's `close` event. -/
def close (app : App) : App :=
  { app with
    activeRoomRef := none, connectionStatus := .disconnected, activeRoomId := none, messages := []
    peerConnections := fun _ => none }

end App

/-! ### Renders and their effects -/

/-- The component with the values that its renders have given to effects still to run. -/
structure Mounted where
  app : App
  effects : List (Option Uuid)

inductive UiEvent
  | message (message : ServerMessage)
  /-- React renders the component. -/
  | render
  /-- React runs the effect of the oldest render that still has one to run. -/
  | effect

def Mounted.start (identity : UserUid) : Mounted := ⟨App.start identity, []⟩

/-- A message that is dropped changes nothing. -/
def Mounted.step (sign : String → UInt64 → Except String String) (sdp : String) (mounted : Mounted) :
    UiEvent → Mounted
  | .message message =>
    match mounted.app.handleServerMessage sign sdp message with
    | some (app, _) => { mounted with app }
    | none => mounted
  | .render => { mounted with effects := mounted.effects ++ [mounted.app.activeRoomId] }
  | .effect =>
    match mounted.effects with
    | [] => mounted
    | activeRoomId :: effects => ⟨{ mounted.app with activeRoomRef := activeRoomId }, effects⟩

end VTNet
