import VTNet.Lib.Layout
import VTNet.Shared

/-!
# The layout of the signed bytes

The bytes that a client signs and the server verifies can be read back, so a signature for one
challenge, protocol version or identity is never one for another.
-/

namespace VTNet.Proofs

def userUidEquiv : Bytes.Fixed 32 ≃ UserUid := ⟨UserUid.mk, UserUid.asBytes, fun _ => rfl, fun _ => rfl⟩

/-- Domain separator | protocol version | nonce | server timestamp | client public key. -/
def authSignatureLayout : Layout UInt8 (UInt16 × Nonce × UInt64 × UserUid) :=
  Layout.tagged authDomainSeparator <|
    Layout.uint16BigEndian.append <|
      (Layout.bytes authNonceBytes).append <|
        Layout.uint64BigEndian.append <|
          (Layout.bytes 32).map userUidEquiv

/-- The source writes its payload in this layout. -/
lemma write_authSignatureLayout (protocolVersion : UInt16) (nonce : Nonce) (serverTimestamp : UInt64)
    (clientUid : UserUid) :
    authSignatureLayout.write (protocolVersion, nonce, serverTimestamp, clientUid) =
      authSignaturePayload protocolVersion nonce serverTimestamp clientUid := by
  unfold authSignaturePayload
  simp only [List.append_assoc]
  rfl

def parseAuthSignaturePayload (payload : List UInt8) :
    Option (UInt16 × Nonce × UInt64 × UserUid) :=
  authSignatureLayout.decode payload

variable {protocolVersion protocolVersion' : UInt16} {nonce nonce' : Nonce}
  {serverTimestamp serverTimestamp' : UInt64} {clientUid clientUid' : UserUid}

lemma parse_authSignaturePayload :
    parseAuthSignaturePayload
        (authSignaturePayload protocolVersion nonce serverTimestamp clientUid) =
      some (protocolVersion, nonce, serverTimestamp, clientUid) := by
  rw [← write_authSignatureLayout]
  exact Layout.decode_write _

lemma parse_eq_none {bytes : List UInt8}
    (h : ∀ protocolVersion nonce serverTimestamp clientUid,
      bytes ≠ authSignaturePayload protocolVersion nonce serverTimestamp clientUid) :
    parseAuthSignaturePayload bytes = none := by
  apply Layout.decode_eq_none.mpr
  intro fields
  rw [write_authSignatureLayout]
  exact h _ _ _ _

lemma authSignaturePayload_of_isPrefix
    (h : authSignaturePayload protocolVersion nonce serverTimestamp clientUid <+:
      authSignaturePayload protocolVersion' nonce' serverTimestamp' clientUid') :
    protocolVersion = protocolVersion' ∧ nonce = nonce' ∧ serverTimestamp = serverTimestamp' ∧
      clientUid = clientUid' := by
  rw [← write_authSignatureLayout, ← write_authSignatureLayout] at h
  have hfields := Layout.eq_of_isPrefix h
  simpa only [Prod.mk.injEq] using hfields

/-- The bytes that are signed determine what they are made of. -/
theorem authSignaturePayload_injective
    (h : authSignaturePayload protocolVersion nonce serverTimestamp clientUid =
      authSignaturePayload protocolVersion' nonce' serverTimestamp' clientUid') :
    protocolVersion = protocolVersion' ∧ nonce = nonce' ∧ serverTimestamp = serverTimestamp' ∧
      clientUid = clientUid' := by
  rw [← write_authSignatureLayout, ← write_authSignatureLayout] at h
  have hfields := Layout.write_injective h
  simpa only [Prod.mk.injEq] using hfields

lemma separator_isPrefix :
    authDomainSeparator <+:
      authSignaturePayload protocolVersion nonce serverTimestamp clientUid := by
  unfold authSignaturePayload
  simp only [List.append_assoc]
  exact List.prefix_append _ _

/-- The signed bytes are read back to the four fields they were made of, every other byte string
is rejected, equal payloads have equal fields, no payload continues another one, and all of them
start with the domain separator. -/
theorem signed_payload_unambiguous :
    (∀ protocolVersion nonce serverTimestamp clientUid,
      parseAuthSignaturePayload
          (authSignaturePayload protocolVersion nonce serverTimestamp clientUid) =
        some (protocolVersion, nonce, serverTimestamp, clientUid)) ∧
    (∀ bytes,
      (∀ protocolVersion nonce serverTimestamp clientUid,
        bytes ≠ authSignaturePayload protocolVersion nonce serverTimestamp clientUid) →
      parseAuthSignaturePayload bytes = none) ∧
    (∀ protocolVersion nonce serverTimestamp clientUid
        protocolVersion' nonce' serverTimestamp' clientUid',
      authSignaturePayload protocolVersion nonce serverTimestamp clientUid =
          authSignaturePayload protocolVersion' nonce' serverTimestamp' clientUid' ↔
        protocolVersion = protocolVersion' ∧ nonce = nonce' ∧
          serverTimestamp = serverTimestamp' ∧ clientUid = clientUid') ∧
    (∀ protocolVersion nonce serverTimestamp clientUid
        protocolVersion' nonce' serverTimestamp' clientUid',
      authSignaturePayload protocolVersion nonce serverTimestamp clientUid <+:
          authSignaturePayload protocolVersion' nonce' serverTimestamp' clientUid' →
        authSignaturePayload protocolVersion nonce serverTimestamp clientUid =
          authSignaturePayload protocolVersion' nonce' serverTimestamp' clientUid') ∧
    (∀ protocolVersion nonce serverTimestamp clientUid,
      authDomainSeparator <+:
        authSignaturePayload protocolVersion nonce serverTimestamp clientUid) := by
  refine ⟨fun _ _ _ _ => parse_authSignaturePayload, fun _ => parse_eq_none, ?_, ?_,
    fun _ _ _ _ => separator_isPrefix⟩
  · intro protocolVersion nonce serverTimestamp clientUid protocolVersion' nonce'
      serverTimestamp' clientUid'
    constructor
    · exact authSignaturePayload_injective
    · rintro ⟨rfl, rfl, rfl, rfl⟩
      rfl
  · intro protocolVersion nonce serverTimestamp clientUid protocolVersion' nonce'
      serverTimestamp' clientUid' h
    obtain ⟨rfl, rfl, rfl, rfl⟩ := authSignaturePayload_of_isPrefix h
    rfl

example :
    authSignaturePayload 0x0102 (Bytes.Fixed.replicate 32 0xAA) 0x0102030405060708
        ⟨Bytes.Fixed.replicate 32 0xBB⟩ =
      authDomainSeparator ++ [0x01, 0x02] ++ List.replicate 32 0xAA ++
        [0x01, 0x02, 0x03, 0x04, 0x05, 0x06, 0x07, 0x08] ++ List.replicate 32 0xBB := by
  decide

end VTNet.Proofs
