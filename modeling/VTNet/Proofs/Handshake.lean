import VTNet.Reference

/-!
# An honest login succeeds

Server and client build the signed bytes from different representations of the challenge. They
build the same bytes, and what else the connection receives before the answer does not matter.
-/

namespace VTNet.Proofs

open ConnectionAuthenticator

/-- A message that a connection receives, with what the server draws and reads when it does. -/
structure Received where
  message : ClientMessage
  nonce : Nonce
  serverTimestamp : UInt64
  now : Instant

/-- The authenticator after a list of messages. -/
def afterMessages (crates : Crates) (auth : ConnectionAuthenticator) (received : List Received) :
    ConnectionAuthenticator :=
  received.foldl (fun auth r =>
    (auth.handleMessage crates r.message r.nonce r.serverTimestamp r.now).2) auth

/-- No list of messages without a response discards or refreshes a pending challenge. -/
lemma afterMessages_pending {crates : Crates} {auth : ConnectionAuthenticator}
    {challenge : AuthChallenge} (h : auth.state = .challengeIssued challenge)
    (received : List Received)
    (hstray : ∀ r ∈ received, ∀ signatureBase64, r.message ≠ .authResponse signatureBase64) :
    afterMessages crates auth received = auth := by
  induction received with
  | nil => rfl
  | cons r received ih =>
    have hsame : (auth.handleMessage crates r.message r.nonce r.serverTimestamp r.now).2 = auth := by
      rw [handleMessage_pending h (hstray r List.mem_cons_self)]
    have hrest := ih (fun q hq => hstray q (List.mem_cons_of_mem r hq))
    rw [afterMessages, List.foldl_cons, hsame]
    exact hrest

/-- The server verifies what the client of the challenged identity signs for the challenge. -/
lemma verifySignature_own {crates : Crates} (hbase64 : crates.base64.DecodeInvertsEncode)
    (hed25519 : crates.ed25519.AcceptsOwnSignatures) (seed : Seed) {challenge : AuthChallenge}
    (huid : challenge.clientUid = userUidOf crates seed) :
    verifySignature crates challenge (crates.base64.encode (crates.ed25519.sign seed
      (challengePayload crates seed challenge.protocolVersion challenge.nonce
        challenge.serverTimestamp)).toList) = .ok () := by
  have haccepts := hed25519 seed (challengePayload crates seed challenge.protocolVersion
    challenge.nonce challenge.serverTimestamp)
  have hkey : challenge.clientUid.asBytes = crates.ed25519.verifyingKey seed := by
    rw [huid]
    rfl
  have hpayload : authSignaturePayload challenge.protocolVersion challenge.nonce
      challenge.serverTimestamp challenge.clientUid =
      challengePayload crates seed challenge.protocolVersion challenge.nonce
        challenge.serverTimestamp := by
    rw [huid]
    rfl
  unfold verifySignature
  simp only [hbase64 _, Bytes.Fixed.ofList?_toList, hkey, hpayload, haccepts.1, haccepts.2,
    not_true_eq_false, if_false, if_true]

/-- The identify message of a client is answered by a challenge, and the answer of its
`auth_challenge` handler, given in time, by a session that is in no room. -/
theorem handshake_complete {crates : Crates} (hbase64 : crates.base64.DecodeInvertsEncode)
    (hed25519 : crates.ed25519.AcceptsOwnSignatures) {jsNumber : UInt64 → UInt64}
    (hjs : ∀ n, n.toNat < 2 ^ 53 → jsNumber n = n) {keyring : Keyring} {fresh seed : Seed}
    {identity identity' : IdentitySeed}
    (hseed : identity.loadOrCreateSigningKey crates keyring fresh = (.ok seed, identity'))
    (nonce : Nonce) {serverTimestamp : UInt64} (htimestamp : serverTimestamp.toNat < 2 ^ 53)
    (serverName : String) {t0 t1 : Instant} (httl : t1 ≤ t0 + authChallengeTtl)
    {received : List Received}
    (hstray : ∀ r ∈ received, ∀ signatureBase64, r.message ≠ .authResponse signatureBase64)
    (keyring' : Keyring) (fresh' : Seed) (sdp : String) (app : App) (nonce' : Nonce)
    (serverTimestamp' : UInt64) :
    let userUid := userUidOf crates seed
    let identified := (ConnectionAuthenticator.new serverName).handleMessage crates
      (.authIdentify protocolVersion userUid) nonce serverTimestamp t0
    ∃ challenge response, identified.1 = .reply challenge ∧
      (∃ nonceBase64, challenge = .authChallenge nonceBase64 serverTimestamp) ∧
      app.handleServerMessage (App.signChallenge crates jsNumber keyring' fresh' identity') sdp
        challenge = some (app, [response]) ∧
      ∃ assignedName session,
        let answered := (afterMessages crates identified.2 received).handleMessage crates response
          nonce' serverTimestamp' t1
        answered.1 = .authenticated (.authSuccess userUid assignedName serverName) ∧
        answered.2.takeAuthenticatedSession.1 = some session ∧ session.userUid = userUid ∧
        session.activeVoiceRoomId = none := by
  intro userUid identified
  have hidentified : identified =
      (.reply (.authChallenge (crates.base64.encode nonce.toList) serverTimestamp),
        ⟨serverName, .challengeIssued
          ⟨userUid, protocolVersionSupported, nonce, serverTimestamp, t0⟩⟩) :=
    handleMessage_identify rfl userUid
  obtain ⟨hcached, hpoisoned⟩ := IdentitySeed.cached_of_load hseed
  have hsign : App.signChallenge crates jsNumber keyring' fresh' identity'
      (crates.base64.encode nonce.toList) serverTimestamp =
      .ok (crates.base64.encode (crates.ed25519.sign seed (challengePayload crates seed
        protocolVersion nonce serverTimestamp)).toList) := by
    unfold App.signChallenge
    rw [hjs serverTimestamp htimestamp]
    exact IdentitySeed.sign_of_cached hcached hpoisoned (decodeBytes_encode hbase64 nonce _ _)
  have hclient : app.handleServerMessage
      (App.signChallenge crates jsNumber keyring' fresh' identity') sdp
      (.authChallenge (crates.base64.encode nonce.toList) serverTimestamp) =
      some (app, [.authResponse (crates.base64.encode (crates.ed25519.sign seed
        (challengePayload crates seed protocolVersion nonce serverTimestamp)).toList)]) := by
    simp only [App.handleServerMessage, hsign]
  refine ⟨_, _, by rw [hidentified], ⟨_, rfl⟩, hclient, defaultDisplayName userUid,
    Session.new userUid (defaultDisplayName userUid), ?_⟩
  have hpending : afterMessages crates identified.2 received = identified.2 := by
    rw [hidentified]
    exact afterMessages_pending rfl received hstray
  have haccepts : Accepts crates
      ⟨userUid, protocolVersionSupported, nonce, serverTimestamp, t0⟩
      (crates.base64.encode (crates.ed25519.sign seed (challengePayload crates seed
        protocolVersion nonce serverTimestamp)).toList) t1 := by
    constructor
    · exact Nat.sub_le_iff_le_add'.mpr httl
    · exact verifySignature_own hbase64 hed25519 seed rfl
  rw [hpending, hidentified, handleMessage_accepted rfl haccepts]
  exact ⟨rfl, rfl, rfl, rfl⟩

/-- A client that loads the first seed from its keyring answers after a repeated identify. -/
theorem handshake_complete_first :
    let userUid := userUidOf Reference.crates Reference.first.seed
    let identified := (ConnectionAuthenticator.new "VTNet").handleMessage Reference.crates
      (.authIdentify protocolVersion userUid) Reference.first.nonce 42 7
    ∃ challenge response, identified.1 = .reply challenge ∧
      (∃ nonceBase64, challenge = .authChallenge nonceBase64 42) ∧
      (App.start userUid).handleServerMessage (App.signChallenge Reference.crates id
        ⟨.ok (), .error .noEntry, fun _ => .ok ()⟩ Reference.second.seed
        ⟨some Reference.first.seed, false⟩) "" challenge = some (App.start userUid, [response]) ∧
      ∃ assignedName session,
        let answered := (afterMessages Reference.crates identified.2
          [⟨.authIdentify protocolVersion userUid, Reference.second.nonce, 43, 8⟩]).handleMessage
            Reference.crates response Reference.second.nonce 44 (7 + authChallengeTtl)
        answered.1 = .authenticated (.authSuccess userUid assignedName "VTNet") ∧
        answered.2.takeAuthenticatedSession.1 = some session ∧ session.userUid = userUid ∧
        session.activeVoiceRoomId = none := by
  have hdecode : decodeSeed Reference.crates (Reference.base64.encode Reference.first.seed.toList) =
      .ok Reference.first.seed := decodeBytes_encode Reference.base64_decodes _ _ _
  have hload : (⟨none, false⟩ : IdentitySeed).loadOrCreateSigningKey Reference.crates
      ⟨.ok (), .ok (Reference.base64.encode Reference.first.seed.toList), fun _ => .ok ()⟩
      Reference.second.seed =
      (.ok Reference.first.seed, ⟨some Reference.first.seed, false⟩) := by
    simp only [IdentitySeed.loadOrCreateSigningKey, hdecode]
    rfl
  exact handshake_complete Reference.base64_decodes Reference.ed25519_accepts (fun _ _ => rfl) hload
    Reference.first.nonce (by decide) "VTNet" le_rfl (by simp) _ _ _ _ _ _

end VTNet.Proofs
