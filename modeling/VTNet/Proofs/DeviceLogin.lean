import VTNet.Proofs.Handshake
import VTNet.Proofs.IdentityStability

/-!
# Every process of a device can log its identity in

What one process signs for a challenge is accepted as the identity that any other process was
given, whatever happened to the calls and the processes in between.
-/

namespace VTNet.Proofs

open ConnectionAuthenticator

section Devices

variable {σ : Type*} {crates : Crates} {env : KeyringEnvironment σ} {stored : σ → Option String}
  {world : σ} {events : List DeviceEvent} {record : CallRecord} {seed : Seed}

/-- All calls of a device that succeed use one seed. -/
lemma device_seed (hstored : LastStored env stored)
    (hbase64 : crates.base64.DecodeInvertsEncode) (world : σ) (events : List DeviceEvent) :
    ∃ seed, ∀ record ∈ (Device.start world).history crates env events,
      CallRecord.Succeeded record → CallRecord.Used crates record seed := by
  obtain ⟨device, hrun⟩ := device_runs crates env (Device.start world) events
  have hunique : ∀ seed seed', HasStored crates stored seed device.world →
      HasStored crates stored seed' device.world → seed = seed' :=
    fun _ _ h h' => h.unique h'
  obtain ⟨seed, hseed⟩ := one_seed hunique (used_of_device hstored hbase64 hrun).2
  exact ⟨seed, fun record hrecord hsucceeded => (hseed record hrecord hsucceeded).2⟩

/-- A signature that is returned is that of the seed, and the nonce of the request is one. -/
lemma signature_of_used {request : SignAuthChallengeRequest} {signatureBase64 : String}
    (h : CallRecord.Used crates record seed)
    (hcommand : record.command = .signAuthChallenge request)
    (hresult : record.result = some (.ok (.signature signatureBase64))) :
    ∃ nonce, decodeNonce crates request.nonceBase64 = .ok nonce ∧
      signatureBase64 = crates.base64.encode (crates.ed25519.sign seed (challengePayload crates seed
        request.protocolVersion nonce request.serverTimestamp)).toList := by
  obtain ⟨-, response, hresponse, hseed⟩ := h
  rw [hresult] at hresponse
  cases hresponse
  rw [hcommand, Command.response] at hseed
  cases hnonce : decodeNonce crates request.nonceBase64 with
  | error error =>
    rw [hnonce] at hseed
    cases hseed
  | ok nonce =>
    rw [hnonce] at hseed
    cases hseed
    exact ⟨nonce, rfl, rfl⟩

/-- The signature of a device is that of its identity for the challenge. -/
lemma verifies_of_device (hstored : LastStored env stored)
    (hbase64 : crates.base64.DecodeInvertsEncode) (hed25519 : crates.ed25519.AcceptsOwnSignatures)
    {introduced answered : CallRecord}
    (hintroduced : introduced ∈ (Device.start world).history crates env events)
    (hanswered : answered ∈ (Device.start world).history crates env events)
    {challenge : AuthChallenge}
    (hidentity : introduced.result = some (.ok (.identity challenge.clientUid)))
    (hcommand : answered.command = .signAuthChallenge ⟨challenge.protocolVersion,
      crates.base64.encode challenge.nonce.toList, challenge.serverTimestamp⟩)
    {signatureBase64 : String}
    (hsignature : answered.result = some (.ok (.signature signatureBase64))) :
    verifySignature crates challenge signatureBase64 = .ok () := by
  obtain ⟨seed, hseed⟩ := device_seed hstored hbase64 world events
  have huid : challenge.clientUid = userUidOf crates seed :=
    identity_of_used (hseed introduced hintroduced ⟨_, hidentity⟩) hidentity
  obtain ⟨nonce, hnonce, rfl⟩ :=
    signature_of_used (hseed answered hanswered ⟨_, hsignature⟩) hcommand hsignature
  have hsame : nonce = challenge.nonce :=
    Except.ok.inj (hnonce.symm.trans (decodeBytes_encode hbase64 challenge.nonce _ _))
  rw [hsame]
  exact verifySignature_own hbase64 hed25519 seed huid

end Devices

/-- Some process of a device was given the identity and some process has signed the challenge of
the server for it, before or after that. When the answer comes in time, after any other messages,
the server accepts it, and the session it starts is that of the identity and in no room. -/
theorem device_authenticates {σ : Type*} {crates : Crates}
    (hbase64 : crates.base64.DecodeInvertsEncode) (hed25519 : crates.ed25519.AcceptsOwnSignatures)
    {env : KeyringEnvironment σ} {stored : σ → Option String} (hstored : LastStored env stored)
    {world : σ} {events : List DeviceEvent} {introduced answered : CallRecord}
    (hintroduced : introduced ∈ (Device.start world).history crates env events)
    (hanswered : answered ∈ (Device.start world).history crates env events)
    {userUid : UserUid} (hidentity : introduced.result = some (.ok (.identity userUid)))
    {nonce : Nonce} {serverTimestamp : UInt64}
    (hcommand : answered.command = .signAuthChallenge ⟨protocolVersion,
      crates.base64.encode nonce.toList, serverTimestamp⟩)
    {signatureBase64 : String}
    (hsignature : answered.result = some (.ok (.signature signatureBase64)))
    {auth : ConnectionAuthenticator} (hauth : auth.state = .connected) {t0 t1 : Instant}
    (httl : t1 ≤ t0 + authChallengeTtl) {received : List Received}
    (hstray : ∀ r ∈ received, ∀ signatureBase64, r.message ≠ .authResponse signatureBase64)
    (nonce' : Nonce) (serverTimestamp' : UInt64) :
    let identified := auth.handleMessage crates (.authIdentify protocolVersion userUid) nonce
      serverTimestamp t0
    let accepted := (afterMessages crates identified.2 received).handleMessage crates
      (.authResponse signatureBase64) nonce' serverTimestamp' t1
    identified.1 = .reply (.authChallenge (crates.base64.encode nonce.toList) serverTimestamp) ∧
      accepted.1 = .authenticated
        (.authSuccess userUid (defaultDisplayName userUid) auth.serverName) ∧
      ∃ session, accepted.2.takeAuthenticatedSession.1 = some session ∧
        session.userUid = userUid ∧ session.activeVoiceRoomId = none := by
  intro identified accepted
  have hidentified : identified =
      (.reply (.authChallenge (crates.base64.encode nonce.toList) serverTimestamp),
        ⟨auth.serverName, .challengeIssued
          ⟨userUid, protocolVersionSupported, nonce, serverTimestamp, t0⟩⟩) :=
    handleMessage_identify hauth userUid
  have hpending : afterMessages crates identified.2 received = identified.2 := by
    rw [hidentified]
    exact afterMessages_pending rfl received hstray
  have haccepts : Accepts crates
      ⟨userUid, protocolVersionSupported, nonce, serverTimestamp, t0⟩ signatureBase64 t1 := by
    constructor
    · exact Nat.sub_le_iff_le_add'.mpr httl
    · exact verifies_of_device hstored hbase64 hed25519 hintroduced hanswered hidentity hcommand
        hsignature
  have haccepted : accepted =
      (.authenticated (.authSuccess userUid (defaultDisplayName userUid) auth.serverName),
        ⟨auth.serverName, .authenticated (Session.new userUid (defaultDisplayName userUid))⟩) := by
    dsimp only [accepted]
    rw [hpending, hidentified, handleMessage_accepted rfl haccepts]
    rfl
  rw [hidentified, haccepted]
  exact ⟨rfl, rfl, _, rfl, rfl, rfl⟩

/-- One process is given the identity, and the next one, for which the random generator differs,
signs the challenge after a call that was killed before it had looked into the keyring. -/
def restarted : List DeviceEvent :=
  [.call .getOrCreateIdentity Reference.first.seed, .interrupt .getOrCreateIdentity
    Reference.second.seed 0, .launch,
    .call (.signAuthChallenge ⟨protocolVersion,
      Reference.base64.encode Reference.first.nonce.toList, 42⟩) Reference.second.seed]

/-- The first process is given the identity, and the second one signs with its key. -/
lemma restarted_leaves :
    (∃ introduced ∈ (Device.start none).history Reference.crates plainKeyring restarted,
      introduced.result = some (.ok (.identity ⟨Reference.first.key⟩))) ∧
    ∃ answered ∈ (Device.start none).history Reference.crates plainKeyring restarted,
      answered.command = .signAuthChallenge ⟨protocolVersion,
        Reference.base64.encode Reference.first.nonce.toList, 42⟩ ∧
      answered.result = some (.ok (.signature
        (Reference.base64.encode Reference.first.signature.toList))) := by
  constructor
  · refine ⟨_, List.mem_cons_self, ?_⟩
    decide +kernel
  · refine ⟨_, List.mem_cons_of_mem _ (List.mem_cons_of_mem _ List.mem_cons_self), rfl, ?_⟩
    decide +kernel

theorem device_authenticates_restarted :
    ∃ introduced answered signatureBase64,
      introduced ∈ (Device.start none).history Reference.crates plainKeyring restarted ∧
      answered ∈ (Device.start none).history Reference.crates plainKeyring restarted ∧
      introduced.result = some (.ok (.identity ⟨Reference.first.key⟩)) ∧
      answered.result = some (.ok (.signature signatureBase64)) ∧
      let identified := (ConnectionAuthenticator.new "VTNet").handleMessage Reference.crates
        (.authIdentify protocolVersion ⟨Reference.first.key⟩) Reference.first.nonce 42 7
      let accepted := (afterMessages Reference.crates identified.2
          [⟨.authIdentify protocolVersion ⟨Reference.second.key⟩, Reference.second.nonce, 43, 8⟩]
        ).handleMessage Reference.crates (.authResponse signatureBase64) Reference.second.nonce 44
          (7 + authChallengeTtl)
      ∃ session, accepted.2.takeAuthenticatedSession.1 = some session ∧
        session.userUid = ⟨Reference.first.key⟩ ∧ session.activeVoiceRoomId = none := by
  obtain ⟨⟨introduced, hintroduced, hidentity⟩, answered, hanswered, hcommand, hsignature⟩ :=
    restarted_leaves
  have hstray : ∀ r ∈ [(⟨.authIdentify protocolVersion ⟨Reference.second.key⟩,
      Reference.second.nonce, 43, 8⟩ : Received)], ∀ signatureBase64,
      r.message ≠ .authResponse signatureBase64 := by simp
  have haccepted := device_authenticates Reference.base64_decodes Reference.ed25519_accepts
    plainKeyring_lastStored hintroduced hanswered hidentity hcommand hsignature
    (rfl : (ConnectionAuthenticator.new "VTNet").state = .connected)
    (le_refl (7 + authChallengeTtl)) hstray Reference.second.nonce 44
  exact ⟨introduced, answered, _, hintroduced, hanswered, hidentity, hsignature, haccepted.2.2⟩

end VTNet.Proofs
