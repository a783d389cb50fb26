import VTNet.Shared

/-!
# Decoding client frames (`server/src/transport.rs`)

The derived and hand-written `Deserialize` implementations of `shared/src/lib.rs`, read off
the tree of the JSON text. Unknown fields are ignored, repeated ones are refused.
-/

namespace VTNet

def field? (name : String) (fields : List (String × JsonValue)) : Option JsonValue :=
  match fields.filter (fun entry => entry.1 = name) with
  | [(_, value)] => some value
  | _ => none

/-- A unit variant is its name, or an object with the name as its only field, which is null. In what
`serde` has buffered it may also be an empty object. -/
def variantName? (buffered : Bool) : JsonValue → Option String
  | .str name => some name
  | .obj [(name, .null)] => some name
  | .obj [(name, .obj [])] => if buffered then some name else none
  | _ => none

def string? : JsonValue → Option String
  | .str value => some value
  | _ => none

def uint16? : JsonValue → Option UInt16
  | .int value => if 0 ≤ value ∧ value < 2 ^ 16 then some (UInt16.ofNat value.toNat) else none
  | _ => none

def uuid? (crates : Crates) (value : JsonValue) : Option Uuid :=
  string? value >>= crates.parseUuid

def UserUid.deserialize (crates : Crates) (value : JsonValue) : Option UserUid := do
  let encoded ← string? value
  let decoded ← crates.base64.decode encoded
  let bytes ← Bytes.Fixed.ofList? 32 decoded
  return ⟨bytes⟩

def RoomTextContent.deserialize (value : JsonValue) : Option RoomTextContent := do
  let value ← string? value
  (RoomTextContent.new value).toOption

def SdpType.deserialize (buffered : Bool) (value : JsonValue) : Option SdpType :=
  match variantName? buffered value with
  | some "offer" => some .offer
  | some "answer" => some .answer
  | _ => none

/-- The fields of one variant, by the name of its tag. -/
def ClientMessage.deserializeVariant (crates : Crates) (buffered : Bool) (event : String)
    (fields : List (String × JsonValue)) : Option ClientMessage :=
  match event with
  | "auth_identify" => do
    let protocolVersion ← field? "protocol_version" fields >>= uint16?
    let clientUid ← field? "client_uid" fields >>= UserUid.deserialize crates
    return .authIdentify protocolVersion clientUid
  | "auth_response" => do
    let signatureBase64 ← field? "signature_base64" fields >>= string?
    return .authResponse signatureBase64
  | "join_voice_room" => do
    let roomId ← field? "room_id" fields >>= uuid? crates
    return .joinVoiceRoom roomId
  | "leave_voice_room" => do
    let roomId ← field? "room_id" fields >>= uuid? crates
    return .leaveVoiceRoom roomId
  | "send_text_message" => do
    let roomId ← field? "room_id" fields >>= uuid? crates
    let textContent ← field? "text_content" fields >>= RoomTextContent.deserialize
    return .sendTextMessage roomId textContent
  | "send_web_rtc_sdp" => do
    let roomId ← field? "room_id" fields >>= uuid? crates
    let targetUid ← field? "target_uid" fields >>= UserUid.deserialize crates
    let sdpType ← field? "sdp_type" fields >>= SdpType.deserialize buffered
    let sdpRaw ← field? "sdp_raw" fields >>= string?
    return .sendWebRtcSdp roomId targetUid sdpType sdpRaw
  | "send_web_rtc_ice" => do
    let roomId ← field? "room_id" fields >>= uuid? crates
    let targetUid ← field? "target_uid" fields >>= UserUid.deserialize crates
    let candidate ← field? "candidate" fields
    return .sendWebRtcIce roomId targetUid (.ofTree candidate)
  | _ => none

/-- Whether `payload` comes before `event`, so that it has to be buffered until the tag is known. -/
def payloadFirst (frame : List (String × JsonValue)) : Bool :=
  (frame.map Prod.fst).find? (fun name => name = "payload" || name = "event") = some "payload"

/-- The derived implementation for an enum whose tag is beside its content, given that of its
variants. In an array the tag is an identifier, which can only be a string. -/
def deserializeTagged {α : Type}
    (deserializeVariant : Bool → String → List (String × JsonValue) → Option α) :
    JsonValue → Option α
  | .obj frame => do
    let event ← field? "event" frame >>= variantName? false
    match field? "payload" frame with
    | some (.obj fields) => deserializeVariant (payloadFirst frame) event fields
    | _ => none
  | .arr [.str event, .obj fields] => deserializeVariant false event fields
  | _ => none

def ClientMessage.deserialize (crates : Crates) : JsonValue → Option ClientMessage :=
  deserializeTagged (deserializeVariant crates)

def maxWebsocketTextBytes : ℕ := 64 * 1024

inductive WebSocketMessageError
  | messageTooLarge
  | invalidProtocolMessage
  deriving DecidableEq

def decodeClientMessage (crates : Crates) (payload : String) :
    Except WebSocketMessageError ClientMessage :=
  if payload.utf8ByteSize > maxWebsocketTextBytes then .error .messageTooLarge
  else
    match crates.parseJson payload >>= ClientMessage.deserialize crates with
    | some message => .ok message
    | none => .error .invalidProtocolMessage

end VTNet
