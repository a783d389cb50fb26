import VTNet.Crates
import Mathlib.Data.List.DropRight

/-!
# The shared wire contract (`shared/src/lib.rs`)
-/

namespace VTNet

def authDomainSeparator : List UInt8 := "VTNET_AUTH_v1".toList.map (fun c => UInt8.ofNat c.toNat)

def authNonceBytes : ℕ := 32

abbrev Nonce := Bytes.Fixed authNonceBytes

structure UserUid where
  asBytes : Bytes.Fixed 32
  deriving DecidableEq

/-- The bytes signed by the client and verified by the server. -/
def authSignaturePayload (protocolVersion : UInt16) (nonce : Nonce) (serverTimestamp : UInt64)
    (clientUid : UserUid) : List UInt8 :=
  authDomainSeparator ++ Bytes.toBeBytes 2 protocolVersion.toNat ++ nonce.toList ++
    Bytes.toBeBytes 8 serverTimestamp.toNat ++ clientUid.asBytes.toList

inductive SdpType
  | offer
  | answer
  deriving DecidableEq

inductive AuthFailureReason
  | invalidCredentials
  | unsupportedProtocolVersion
  | requestExpired
  | rateLimited
  deriving DecidableEq

/-- `char::is_whitespace`, the Unicode property White_Space. -/
def isWhitespace (c : Char) : Bool :=
  (0x09 ≤ c.toNat && c.toNat ≤ 0x0D) || c.toNat = 0x20 || c.toNat = 0x85 || c.toNat = 0xA0 ||
    c.toNat = 0x1680 || (0x2000 ≤ c.toNat && c.toNat ≤ 0x200A) || c.toNat = 0x2028 ||
    c.toNat = 0x2029 || c.toNat = 0x202F || c.toNat = 0x205F || c.toNat = 0x3000

/-- `str::trim` on the characters of a string. -/
def trim (text : List Char) : List Char :=
  (text.dropWhile isWhitespace).rdropWhile isWhitespace

lemma trim_eq_nil_iff (text : List Char) : trim text = [] ↔ ∀ c ∈ text, isWhitespace c = true := by
  rw [trim, List.rdropWhile_eq_nil_iff, ← List.dropWhile_eq_nil_iff, ← List.dropWhile_eq_nil_iff]
  constructor
  · intro h
    by_contra hne
    have hhead := List.head_dropWhile_not isWhitespace hne
    rw [List.dropWhile_eq_nil_iff.mp h _ (List.head_mem hne)] at hhead
    exact Bool.noConfusion hhead
  · intro h
    rw [h]
    rfl

def maxTextContentBytes : ℕ := 4 * 1024

/-- A chat text that has passed the checks of `RoomTextContent::new`. -/
structure RoomTextContent where
  value : String
  trim_ne_nil : trim value.toList ≠ []
  size_le : value.utf8ByteSize ≤ maxTextContentBytes
  deriving DecidableEq

def RoomTextContent.new (value : String) : Except String RoomTextContent :=
  if hempty : trim value.toList = [] then .error "text message must not be empty"
  else if hsize : value.utf8ByteSize > maxTextContentBytes then
    .error "text message exceeds 4 KiB"
  else .ok ⟨value, hempty, Nat.le_of_not_lt hsize⟩

inductive ClientMessage
  | authIdentify (protocolVersion : UInt16) (clientUid : UserUid)
  | authResponse (signatureBase64 : String)
  | joinVoiceRoom (roomId : Uuid)
  | leaveVoiceRoom (roomId : Uuid)
  | sendTextMessage (roomId : Uuid) (textContent : RoomTextContent)
  | sendWebRtcSdp (roomId : Uuid) (targetUid : UserUid) (sdpType : SdpType) (sdpRaw : String)
  | sendWebRtcIce (roomId : Uuid) (targetUid : UserUid) (candidate : SerdeValue)
  deriving DecidableEq

/-- The room that a message names. -/
def ClientMessage.roomId? : ClientMessage → Option Uuid
  | .joinVoiceRoom roomId => some roomId
  | .leaveVoiceRoom roomId => some roomId
  | .sendTextMessage roomId _ => some roomId
  | .sendWebRtcSdp roomId _ _ _ => some roomId
  | .sendWebRtcIce roomId _ _ => some roomId
  | _ => none

inductive ServerMessage
  | authChallenge (nonceBase64 : String) (serverTimestamp : UInt64)
  | authSuccess (verifiedUid : UserUid) (assignedName serverName : String)
  | authFailure (reason : AuthFailureReason)
  | voiceRoomJoined (roomId : Uuid)
  | voiceRoomLeft (roomId : Uuid)
  | peerJoinedRoom (roomId : Uuid) (peerUid : UserUid) (peerName : String)
  | peerLeftRoom (roomId : Uuid) (peerUid : UserUid)
  | broadcastTextMessage (roomId : Uuid) (senderUid : UserUid) (senderName : String)
      (textContent : RoomTextContent) (serverTimestamp : UInt64)
  | forwardWebRtcSdp (roomId : Uuid) (senderUid : UserUid) (sdpType : SdpType) (sdpRaw : String)
  | forwardWebRtcIce (roomId : Uuid) (senderUid : UserUid) (candidate : SerdeValue)
  deriving DecidableEq

end VTNet
