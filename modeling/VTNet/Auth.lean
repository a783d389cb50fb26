import VTNet.Registry

/-!
# The authenticator of one connection (`server/src/auth.rs`)
-/

namespace VTNet

/-- A reading of the monotonic clock, in nanoseconds. -/
abbrev Instant := ℕ

/-- `duration_since`, zero when the other instant is later. -/
def Instant.durationSince (now earlier : Instant) : ℕ := now - earlier

def protocolVersionSupported : UInt16 := 1

def authChallengeTtl : ℕ := 5 * 10 ^ 9

structure AuthChallenge where
  clientUid : UserUid
  protocolVersion : UInt16
  nonce : Nonce
  serverTimestamp : UInt64
  issuedAt : Instant

inductive AuthenticationState
  | connected
  | challengeIssued (challenge : AuthChallenge)
  | authenticated (session : Session)

structure ConnectionAuthenticator where
  serverName : String
  state : AuthenticationState

inductive SignatureVerificationError
  | invalidBase64
  | invalidSignatureLength
  | invalidPublicKey
  | signatureMismatch
  deriving DecidableEq

inductive AuthenticationResult
  | reply (message : ServerMessage)
  | authenticated (message : ServerMessage)

def AuthenticationResult.message : AuthenticationResult → ServerMessage
  | .reply message => message
  | .authenticated message => message

/-- What a connection may hear before it is logged in. -/
def ServerMessage.IsPrelude : ServerMessage → Prop
  | .authChallenge _ _ => True
  | .authFailure _ => True
  | _ => False

namespace ConnectionAuthenticator

def new (serverName : String) : ConnectionAuthenticator := ⟨serverName, .connected⟩

def takeAuthenticatedSession (auth : ConnectionAuthenticator) :
    Option Session × ConnectionAuthenticator :=
  match auth.state with
  | .authenticated session => (some session, { auth with state := .connected })
  | _ => (none, auth)

def verifySignature (crates : Crates) (challenge : AuthChallenge) (signatureBase64 : String) :
    Except SignatureVerificationError Unit :=
  match crates.base64.decode signatureBase64 with
  | none => .error .invalidBase64
  | some signatureBytes =>
    match Bytes.Fixed.ofList? 64 signatureBytes with
    | none => .error .invalidSignatureLength
    | some signature =>
      if ¬crates.ed25519.isVerifyingKey challenge.clientUid.asBytes then .error .invalidPublicKey
      else if crates.ed25519.verifyStrict challenge.clientUid.asBytes
          (authSignaturePayload challenge.protocolVersion challenge.nonce
            challenge.serverTimestamp challenge.clientUid) signature then .ok ()
      else .error .signatureMismatch

/-- The text decodes to a signature of the payload under the key. -/
def Verifies (crates : Crates) (userUid : UserUid) (payload : List UInt8)
    (signatureBase64 : String) : Prop :=
  ∃ bytes signature, crates.base64.decode signatureBase64 = some bytes ∧
    Bytes.Fixed.ofList? 64 bytes = some signature ∧
    crates.ed25519.isVerifyingKey userUid.asBytes = true ∧
    crates.ed25519.verifyStrict userUid.asBytes payload signature = true

lemma verifySignature_ok_iff {crates : Crates} {challenge : AuthChallenge}
    {signatureBase64 : String} : verifySignature crates challenge signatureBase64 = .ok () ↔
      Verifies crates challenge.clientUid (authSignaturePayload challenge.protocolVersion
        challenge.nonce challenge.serverTimestamp challenge.clientUid) signatureBase64 := by
  unfold verifySignature Verifies
  cases hbytes : crates.base64.decode signatureBase64 with
  | none => simp
  | some bytes =>
    cases hsignature : Bytes.Fixed.ofList? 64 bytes with
    | none => simp [hsignature]
    | some signature =>
      by_cases hkey : crates.ed25519.isVerifyingKey challenge.clientUid.asBytes = true
      · simp [hsignature, hkey]
      · simp [hsignature, hkey]

def defaultDisplayName (userUid : UserUid) : String :=
  "Guest-" ++ String.ofList ((userUid.asBytes.toList.take 4).flatMap Bytes.lowerHex)

/-- The session of a challenge whose answer has been verified. -/
def sessionOf (challenge : AuthChallenge) : Session :=
  Session.new challenge.clientUid (defaultDisplayName challenge.clientUid)

def failure (reason : AuthFailureReason) : AuthenticationResult := .reply (.authFailure reason)

def handleMessage (crates : Crates) (auth : ConnectionAuthenticator) (message : ClientMessage)
    (nonce : Nonce) (serverTimestamp : UInt64) (now : Instant) :
    AuthenticationResult × ConnectionAuthenticator :=
  match auth.state, message with
  | .connected, .authIdentify protocolVersion clientUid =>
    if protocolVersion = protocolVersionSupported then
      let challenge : AuthChallenge := ⟨clientUid, protocolVersion, nonce, serverTimestamp, now⟩
      (.reply (.authChallenge (crates.base64.encode nonce.toList) serverTimestamp),
        { auth with state := .challengeIssued challenge })
    else (failure .unsupportedProtocolVersion, auth)
  | .challengeIssued challenge, .authResponse signatureBase64 =>
    -- the challenge is spent before anything is checked
    let auth := { auth with state := .connected }
    if now.durationSince challenge.issuedAt > authChallengeTtl then
      (failure .requestExpired, auth)
    else
      match verifySignature crates challenge signatureBase64 with
      | .error _ => (failure .invalidCredentials, auth)
      | .ok () =>
        let assignedName := defaultDisplayName challenge.clientUid
        (.authenticated (.authSuccess challenge.clientUid assignedName auth.serverName),
          { auth with state := .authenticated (Session.new challenge.clientUid assignedName) })
  | _, _ => (failure .invalidCredentials, auth)

/-- No session waits to be taken. -/
def Idle (auth : ConnectionAuthenticator) : Prop := ∀ session, auth.state ≠ .authenticated session

lemma take_of_idle {auth : ConnectionAuthenticator} (h : auth.Idle) :
    auth.takeAuthenticatedSession = (none, auth) := by
  unfold takeAuthenticatedSession
  split
  · rename_i session hstate
    exact absurd hstate (h session)
  · rfl

lemma take_of_authenticated {auth : ConnectionAuthenticator} {session : Session}
    (h : auth.state = .authenticated session) :
    auth.takeAuthenticatedSession = (some session, { auth with state := .connected }) := by
  simp [takeAuthenticatedSession, h]

section Messages

variable {crates : Crates} {auth : ConnectionAuthenticator} {challenge : AuthChallenge}
  {message : ClientMessage} {nonce : Nonce} {serverTimestamp : UInt64} {now : Instant}

lemma handleMessage_identify (h : auth.state = .connected) (clientUid : UserUid) :
    handleMessage crates auth (.authIdentify protocolVersionSupported clientUid) nonce
        serverTimestamp now =
      (.reply (.authChallenge (crates.base64.encode nonce.toList) serverTimestamp),
        ⟨auth.serverName, .challengeIssued
          ⟨clientUid, protocolVersionSupported, nonce, serverTimestamp, now⟩⟩) := by
  simp only [handleMessage, h, if_pos]

/-- Without a pending challenge everything but a supported identify is refused. -/
lemma handleMessage_connected (h : auth.state = .connected)
    (hmessage : ∀ clientUid, message ≠ .authIdentify protocolVersionSupported clientUid) :
    ∃ reason, handleMessage crates auth message nonce serverTimestamp now =
      (failure reason, auth) := by
  cases message with
  | authIdentify protocolVersion clientUid =>
    have hversion : protocolVersion ≠ protocolVersionSupported := by
      rintro rfl
      exact hmessage clientUid rfl
    exact ⟨.unsupportedProtocolVersion, by simp only [handleMessage, h, if_neg hversion]⟩
  | _ => exact ⟨.invalidCredentials, by simp only [handleMessage, h]⟩

/-- A pending challenge is left alone by everything but a response. -/
lemma handleMessage_pending (h : auth.state = .challengeIssued challenge)
    (hmessage : ∀ signatureBase64, message ≠ .authResponse signatureBase64) :
    handleMessage crates auth message nonce serverTimestamp now =
      (failure .invalidCredentials, auth) := by
  cases message with
  | authResponse signatureBase64 => exact absurd rfl (hmessage signatureBase64)
  | _ => simp only [handleMessage, h]

/-- A response in time whose signature verifies. -/
def Accepts (crates : Crates) (challenge : AuthChallenge) (signatureBase64 : String)
    (now : Instant) : Prop :=
  now.durationSince challenge.issuedAt ≤ authChallengeTtl ∧
    verifySignature crates challenge signatureBase64 = .ok ()

lemma handleMessage_accepted (h : auth.state = .challengeIssued challenge)
    {signatureBase64 : String} (haccepts : Accepts crates challenge signatureBase64 now) :
    handleMessage crates auth (.authResponse signatureBase64) nonce serverTimestamp now =
      (.authenticated (.authSuccess challenge.clientUid
        (defaultDisplayName challenge.clientUid) auth.serverName),
        ⟨auth.serverName, .authenticated (sessionOf challenge)⟩) := by
  simp only [handleMessage, h, if_neg (Nat.not_lt_of_le haccepts.1), haccepts.2]
  rfl

/-- Any other response is refused and has spent the challenge. -/
lemma handleMessage_rejected (h : auth.state = .challengeIssued challenge)
    {signatureBase64 : String} (haccepts : ¬Accepts crates challenge signatureBase64 now) :
    ∃ reason, handleMessage crates auth (.authResponse signatureBase64) nonce serverTimestamp now =
      (failure reason, ⟨auth.serverName, .connected⟩) := by
  by_cases hexpired : now.durationSince challenge.issuedAt > authChallengeTtl
  · exact ⟨.requestExpired, by simp only [handleMessage, h, if_pos hexpired]⟩
  · cases hverify : verifySignature crates challenge signatureBase64 with
    | error e =>
      exact ⟨.invalidCredentials, by simp only [handleMessage, h, if_neg hexpired, hverify]⟩
    | ok u => exact absurd ⟨Nat.le_of_not_lt hexpired, hverify⟩ haccepts

/-- One message either gets a prelude reply or turns the pending challenge into the session
that the reply announces. -/
theorem handleMessage_cases (h : auth.Idle) :
    (∃ reply auth', handleMessage crates auth message nonce serverTimestamp now =
        (.reply reply, auth') ∧ reply.IsPrelude ∧ auth'.Idle) ∨
      ∃ challenge signatureBase64, auth.state = .challengeIssued challenge ∧
        message = .authResponse signatureBase64 ∧ Accepts crates challenge signatureBase64 now ∧
        handleMessage crates auth message nonce serverTimestamp now =
          (.authenticated (.authSuccess challenge.clientUid
            (defaultDisplayName challenge.clientUid) auth.serverName),
            ⟨auth.serverName, .authenticated (sessionOf challenge)⟩) := by
  have hfailure : ∀ auth', Idle auth' →
      (∃ reason, handleMessage crates auth message nonce serverTimestamp now =
        (failure reason, auth')) →
      ∃ reply auth', handleMessage crates auth message nonce serverTimestamp now =
        (.reply reply, auth') ∧ reply.IsPrelude ∧ auth'.Idle :=
    fun auth' hidle ⟨reason, he⟩ => ⟨.authFailure reason, auth', he, trivial, hidle⟩
  cases hstate : auth.state with
  | authenticated session => exact absurd hstate (h session)
  | connected =>
    left
    by_cases hidentify : ∃ clientUid, message = .authIdentify protocolVersionSupported clientUid
    · obtain ⟨clientUid, rfl⟩ := hidentify
      exact ⟨_, _, handleMessage_identify hstate clientUid, trivial, fun session hs => by cases hs⟩
    · exact hfailure auth h
        (handleMessage_connected hstate (fun clientUid he => hidentify ⟨clientUid, he⟩))
  | challengeIssued challenge =>
    by_cases hresponse : ∃ signatureBase64, message = .authResponse signatureBase64
    · obtain ⟨signatureBase64, rfl⟩ := hresponse
      by_cases haccepts : Accepts crates challenge signatureBase64 now
      · exact Or.inr ⟨challenge, signatureBase64, rfl, rfl, haccepts,
          handleMessage_accepted hstate haccepts⟩
      · exact Or.inl (hfailure _ (fun session hs => by cases hs)
          (handleMessage_rejected hstate haccepts))
    · exact Or.inl (hfailure auth h ⟨_, handleMessage_pending hstate
        (fun signatureBase64 he => hresponse ⟨signatureBase64, he⟩)⟩)

/-- What one message can do to an authenticator. -/
inductive Next (crates : Crates) (auth : ConnectionAuthenticator) (nonce : Nonce)
    (serverTimestamp : UInt64) (now : Instant) : ClientMessage → ConnectionAuthenticator → Prop
  | same {message : ClientMessage} (unanswered : ∀ challenge signatureBase64,
      auth.state = .challengeIssued challenge → message ≠ .authResponse signatureBase64) :
      Next crates auth nonce serverTimestamp now message auth
  | issued (clientUid : UserUid) (idle : auth.state = .connected) :
      Next crates auth nonce serverTimestamp now (.authIdentify protocolVersionSupported clientUid)
        ⟨auth.serverName, .challengeIssued
          ⟨clientUid, protocolVersionSupported, nonce, serverTimestamp, now⟩⟩
  | accepted {challenge : AuthChallenge} {signatureBase64 : String}
      (pending : auth.state = .challengeIssued challenge)
      (accepts : Accepts crates challenge signatureBase64 now) :
      Next crates auth nonce serverTimestamp now (.authResponse signatureBase64)
        ⟨auth.serverName, .authenticated (sessionOf challenge)⟩
  | rejected {challenge : AuthChallenge} {signatureBase64 : String}
      (pending : auth.state = .challengeIssued challenge) :
      Next crates auth nonce serverTimestamp now (.authResponse signatureBase64)
        ⟨auth.serverName, .connected⟩

theorem handleMessage_next : Next crates auth nonce serverTimestamp now message
    (handleMessage crates auth message nonce serverTimestamp now).2 := by
  cases hstate : auth.state with
  | authenticated session =>
    have hsame : (handleMessage crates auth message nonce serverTimestamp now).2 = auth := by
      cases message <;> simp only [handleMessage, hstate]
    rw [hsame]
    exact .same (fun challenge _ hpending => by rw [hstate] at hpending; cases hpending)
  | connected =>
    by_cases hidentify : ∃ clientUid, message = .authIdentify protocolVersionSupported clientUid
    · obtain ⟨clientUid, rfl⟩ := hidentify
      rw [handleMessage_identify hstate]
      exact .issued clientUid hstate
    · have hrefused : ∃ reason, handleMessage crates auth message nonce serverTimestamp now =
          (failure reason, auth) :=
        handleMessage_connected hstate (fun clientUid he => hidentify ⟨clientUid, he⟩)
      obtain ⟨reason, hfailure⟩ := hrefused
      rw [hfailure]
      exact .same (fun challenge _ hpending => by rw [hstate] at hpending; cases hpending)
  | challengeIssued challenge =>
    by_cases hresponse : ∃ signatureBase64, message = .authResponse signatureBase64
    · obtain ⟨signatureBase64, rfl⟩ := hresponse
      by_cases haccepts : Accepts crates challenge signatureBase64 now
      · rw [handleMessage_accepted hstate haccepts]
        exact .accepted hstate haccepts
      · have hrefused : ∃ reason, handleMessage crates auth (.authResponse signatureBase64) nonce
            serverTimestamp now = (failure reason, ⟨auth.serverName, .connected⟩) :=
          handleMessage_rejected hstate haccepts
        obtain ⟨reason, hfailure⟩ := hrefused
        rw [hfailure]
        exact .rejected hstate
    · rw [handleMessage_pending hstate (fun signatureBase64 he => hresponse ⟨signatureBase64, he⟩)]
      exact .same (fun _ signatureBase64 _ he => hresponse ⟨signatureBase64, he⟩)

end Messages

end ConnectionAuthenticator

end VTNet
