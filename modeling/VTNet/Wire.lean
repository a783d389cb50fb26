import VTNet.Transport

/-!
# Encoding messages (`shared/src/lib.rs`, `server/src/transport.rs`)

The derived and hand-written `Serialize` implementations of `shared/src/lib.rs`, up to the tree
that is written, and the derived `Deserialize` implementation of `ServerMessage`.
-/

namespace VTNet

/-! ### Values -/

def Uuid.serialize (uuid : Uuid) : JsonValue := .str uuid.hyphenated

def UserUid.serialize (crates : Crates) (userUid : UserUid) : JsonValue :=
  .str (crates.base64.encode userUid.asBytes.toList)

def RoomTextContent.serialize (textContent : RoomTextContent) : JsonValue :=
  .str textContent.value

def SdpType.serialize : SdpType → JsonValue
  | .offer => .str "offer"
  | .answer => .str "answer"

def AuthFailureReason.serialize : AuthFailureReason → JsonValue
  | .invalidCredentials => .str "invalid_credentials"
  | .unsupportedProtocolVersion => .str "unsupported_protocol_version"
  | .requestExpired => .str "request_expired"
  | .rateLimited => .str "rate_limited"

def AuthFailureReason.deserialize (buffered : Bool) (value : JsonValue) :
    Option AuthFailureReason :=
  match variantName? buffered value with
  | some "invalid_credentials" => some .invalidCredentials
  | some "unsupported_protocol_version" => some .unsupportedProtocolVersion
  | some "request_expired" => some .requestExpired
  | some "rate_limited" => some .rateLimited
  | _ => none

def uint64? : JsonValue → Option UInt64
  | .int value => if 0 ≤ value ∧ value < 2 ^ 64 then some (UInt64.ofNat value.toNat) else none
  | _ => none

/-! ### Messages -/

/-- A variant with its name beside its fields. -/
def tagged (event : String) (payload : List (String × JsonValue)) : JsonValue :=
  .obj [("event", .str event), ("payload", .obj payload)]

def ClientMessage.serialize (crates : Crates) : ClientMessage → JsonValue
  | .authIdentify protocolVersion clientUid =>
    tagged "auth_identify" [("protocol_version", .int protocolVersion.toNat),
      ("client_uid", clientUid.serialize crates)]
  | .authResponse signatureBase64 =>
    tagged "auth_response" [("signature_base64", .str signatureBase64)]
  | .joinVoiceRoom roomId => tagged "join_voice_room" [("room_id", roomId.serialize)]
  | .leaveVoiceRoom roomId => tagged "leave_voice_room" [("room_id", roomId.serialize)]
  | .sendTextMessage roomId textContent =>
    tagged "send_text_message" [("room_id", roomId.serialize),
      ("text_content", textContent.serialize)]
  | .sendWebRtcSdp roomId targetUid sdpType sdpRaw =>
    tagged "send_web_rtc_sdp" [("room_id", roomId.serialize),
      ("target_uid", targetUid.serialize crates), ("sdp_type", sdpType.serialize),
      ("sdp_raw", .str sdpRaw)]
  | .sendWebRtcIce roomId targetUid candidate =>
    tagged "send_web_rtc_ice" [("room_id", roomId.serialize),
      ("target_uid", targetUid.serialize crates), ("candidate", candidate.tree)]

def ServerMessage.serialize (crates : Crates) : ServerMessage → JsonValue
  | .authChallenge nonceBase64 serverTimestamp =>
    tagged "auth_challenge" [("nonce_base64", .str nonceBase64),
      ("server_timestamp", .int serverTimestamp.toNat)]
  | .authSuccess verifiedUid assignedName serverName =>
    tagged "auth_success" [("verified_uid", verifiedUid.serialize crates),
      ("assigned_name", .str assignedName), ("server_name", .str serverName)]
  | .authFailure reason => tagged "auth_failure" [("reason", reason.serialize)]
  | .voiceRoomJoined roomId => tagged "voice_room_joined" [("room_id", roomId.serialize)]
  | .voiceRoomLeft roomId => tagged "voice_room_left" [("room_id", roomId.serialize)]
  | .peerJoinedRoom roomId peerUid peerName =>
    tagged "peer_joined_room" [("room_id", roomId.serialize),
      ("peer_uid", peerUid.serialize crates), ("peer_name", .str peerName)]
  | .peerLeftRoom roomId peerUid =>
    tagged "peer_left_room" [("room_id", roomId.serialize),
      ("peer_uid", peerUid.serialize crates)]
  | .broadcastTextMessage roomId senderUid senderName textContent serverTimestamp =>
    tagged "broadcast_text_message" [("room_id", roomId.serialize),
      ("sender_uid", senderUid.serialize crates), ("sender_name", .str senderName),
      ("text_content", textContent.serialize), ("server_timestamp", .int serverTimestamp.toNat)]
  | .forwardWebRtcSdp roomId senderUid sdpType sdpRaw =>
    tagged "forward_web_rtc_sdp" [("room_id", roomId.serialize),
      ("sender_uid", senderUid.serialize crates), ("sdp_type", sdpType.serialize),
      ("sdp_raw", .str sdpRaw)]
  | .forwardWebRtcIce roomId senderUid candidate =>
    tagged "forward_web_rtc_ice" [("room_id", roomId.serialize),
      ("sender_uid", senderUid.serialize crates), ("candidate", candidate.tree)]

/-- The fields of one variant, by the name of its tag. -/
def ServerMessage.deserializeVariant (crates : Crates) (buffered : Bool) (event : String)
    (fields : List (String × JsonValue)) : Option ServerMessage :=
  match event with
  | "auth_challenge" => do
    let nonceBase64 ← field? "nonce_base64" fields >>= string?
    let serverTimestamp ← field? "server_timestamp" fields >>= uint64?
    return .authChallenge nonceBase64 serverTimestamp
  | "auth_success" => do
    let verifiedUid ← field? "verified_uid" fields >>= UserUid.deserialize crates
    let assignedName ← field? "assigned_name" fields >>= string?
    let serverName ← field? "server_name" fields >>= string?
    return .authSuccess verifiedUid assignedName serverName
  | "auth_failure" => do
    let reason ← field? "reason" fields >>= AuthFailureReason.deserialize buffered
    return .authFailure reason
  | "voice_room_joined" => do
    let roomId ← field? "room_id" fields >>= uuid? crates
    return .voiceRoomJoined roomId
  | "voice_room_left" => do
    let roomId ← field? "room_id" fields >>= uuid? crates
    return .voiceRoomLeft roomId
  | "peer_joined_room" => do
    let roomId ← field? "room_id" fields >>= uuid? crates
    let peerUid ← field? "peer_uid" fields >>= UserUid.deserialize crates
    let peerName ← field? "peer_name" fields >>= string?
    return .peerJoinedRoom roomId peerUid peerName
  | "peer_left_room" => do
    let roomId ← field? "room_id" fields >>= uuid? crates
    let peerUid ← field? "peer_uid" fields >>= UserUid.deserialize crates
    return .peerLeftRoom roomId peerUid
  | "broadcast_text_message" => do
    let roomId ← field? "room_id" fields >>= uuid? crates
    let senderUid ← field? "sender_uid" fields >>= UserUid.deserialize crates
    let senderName ← field? "sender_name" fields >>= string?
    let textContent ← field? "text_content" fields >>= RoomTextContent.deserialize
    let serverTimestamp ← field? "server_timestamp" fields >>= uint64?
    return .broadcastTextMessage roomId senderUid senderName textContent serverTimestamp
  | "forward_web_rtc_sdp" => do
    let roomId ← field? "room_id" fields >>= uuid? crates
    let senderUid ← field? "sender_uid" fields >>= UserUid.deserialize crates
    let sdpType ← field? "sdp_type" fields >>= SdpType.deserialize buffered
    let sdpRaw ← field? "sdp_raw" fields >>= string?
    return .forwardWebRtcSdp roomId senderUid sdpType sdpRaw
  | "forward_web_rtc_ice" => do
    let roomId ← field? "room_id" fields >>= uuid? crates
    let senderUid ← field? "sender_uid" fields >>= UserUid.deserialize crates
    let candidate ← field? "candidate" fields
    return .forwardWebRtcIce roomId senderUid (.ofTree candidate)
  | _ => none

def ServerMessage.deserialize (crates : Crates) : JsonValue → Option ServerMessage :=
  deserializeTagged (deserializeVariant crates)

@[simp] lemma deserializeTagged_tagged {α : Type}
    (deserializeVariant : Bool → String → List (String × JsonValue) → Option α) (event : String)
    (payload : List (String × JsonValue)) :
    deserializeTagged deserializeVariant (tagged event payload) =
      deserializeVariant false event payload := by
  simp [deserializeTagged, tagged, field?, variantName?, payloadFirst]

lemma tagged_integral {event : String} {payload : List (String × JsonValue)}
    (h : ∀ field ∈ payload, field.2.integral = true) : (tagged event payload).integral = true := by
  simpa [tagged] using h

/-! ### Texts -/

/-- `serde_json::to_string` on a value with this tree. -/
abbrev JsonWriter := JsonValue → Option String

def encodeServerMessage (crates : Crates) (toJson : JsonWriter) (message : ServerMessage) :
    Option String :=
  toJson (message.serialize crates)

/-- What the parser of `serde_json` counts down from at each array and object it enters. -/
def recursionLimit : ℕ := 128

/-- The value is a `serde_json::Value` of integers, and the two objects of a message around it leave
it within the limit of the parser. -/
structure Transferable (value : JsonValue) : Prop where
  canonical : value.isCanonical = true
  integral : value.integral = true
  depth_lt : value.depth + 2 < recursionLimit

/-- A message of such values, with a name for each of them, is read back from its text. -/
def Crates.ReadsWritten (crates : Crates) (toJson : JsonWriter) : Prop :=
  ∀ (event : String) (payload : List (String × JsonValue)), (payload.map Prod.fst).Nodup →
    (∀ field ∈ payload, Transferable field.2) →
    ∃ text, toJson (tagged event payload) = some text ∧
      crates.parseJson text = some (tagged event payload)

/-- The text has no white space, and no byte of a string takes more than an escape of six bytes. -/
def JsonWriter.WithinEscapes (toJson : JsonWriter) : Prop :=
  ∀ (value : JsonValue) (text : String), value.integral = true → toJson value = some text →
    text.utf8ByteSize ≤ value.escapedSize

/-- Three bytes, or what remains of them, are four characters. -/
def Base64.Padded (base64 : Base64) : Prop :=
  ∀ bytes, (base64.encode bytes).utf8ByteSize = 4 * ((bytes.length + 2) / 3)

end VTNet
