import VTNet.Proofs.Handshake
import VTNet.Proofs.SignedPayload

/-!
# Agreement on authentication against a network attacker

The attacker decides what every connection receives and what every client is asked to sign. When
a connection accepts an honest identity, its client has signed the challenge of that very
connection, and has done so once for each acceptance.
-/

namespace VTNet.Proofs

open ConnectionAuthenticator

/-! ### Attacks -/

inductive Attack
  /-- A connection receives a message. -/
  | handle (c : ConnId) (received : Received)
  /-- The task of a connection takes its session. -/
  | take (c : ConnId)
  /-- The client of a seed is asked to sign. -/
  | sign (seed : Seed) (request : SignAuthChallengeRequest)

abbrev Authenticators := ConnId → ConnectionAuthenticator

def receive (crates : Crates) (auth : ConnectionAuthenticator) (r : Received) :
    ConnectionAuthenticator :=
  (auth.handleMessage crates r.message r.nonce r.serverTimestamp r.now).2

def attackStep (crates : Crates) (auths : Authenticators) : Attack → Authenticators
  | .handle c r => Function.update auths c (receive crates (auths c) r)
  | .take c => Function.update auths c (auths c).takeAuthenticatedSession.2
  | .sign _ _ => auths

/-- The authenticators before the step `i` of an attack on fresh connections. -/
def authsAt (crates : Crates) (attacks : List Attack) (i : ℕ) : Authenticators :=
  (attacks.take i).foldl (attackStep crates) fun _ => ConnectionAuthenticator.new serverName

lemma authsAt_succ {crates : Crates} {attacks : List Attack} {i : ℕ} {attack : Attack}
    (h : attacks[i]? = some attack) :
    authsAt crates attacks (i + 1) = attackStep crates (authsAt crates attacks i) attack := by
  unfold authsAt
  rw [List.take_add_one, h, List.foldl_append]
  rfl

/-- What the client of a seed signs for a request, if it signs. -/
def signedPayload (crates : Crates) (seed : Seed) (request : SignAuthChallengeRequest) :
    Option (List UInt8) :=
  (decodeNonce crates request.nonceBase64).toOption.map fun nonce =>
    challengePayload crates seed request.protocolVersion nonce request.serverTimestamp

section Runs

variable (crates : Crates) (honest : Seed → Prop) (attacks : List Attack)

/-- `uid` is the identity of an honest client. -/
def IsHonest (uid : UserUid) : Prop := ∃ seed, honest seed ∧ userUidOf crates seed = uid

/-- The client of `uid` has signed `payload` before step `i`, in step `j`. -/
structure SignedAt (uid : UserUid) (payload : List UInt8) (signature : Bytes.Fixed 64) (i j : ℕ)
    (seed : Seed) (request : SignAuthChallengeRequest) : Prop where
  earlier : j < i
  call : attacks[j]? = some (.sign seed request)
  client : userUidOf crates seed = uid
  signs : signedPayload crates seed request = some payload
  made : crates.ed25519.sign seed payload = signature

/-- No signature is verified under the key of an honest client that it has not made. -/
def Unforgeable : Prop :=
  ∀ i c r signatureBase64 bytes signature uid payload, attacks[i]? = some (.handle c r) →
    r.message = .authResponse signatureBase64 →
    crates.base64.decode signatureBase64 = some bytes →
    Bytes.Fixed.ofList? 64 bytes = some signature → IsHonest crates honest uid →
    crates.ed25519.verifyStrict uid.asBytes payload signature = true →
    ∃ j seed request, SignedAt crates attacks uid payload signature i j seed request

/-- In step `i` the connection `c` issues a challenge to `uid`. -/
structure Issues (i : ℕ) (c : ConnId) (challenge : AuthChallenge) : Prop where
  idle : (authsAt crates attacks i c).state = .connected
  version : challenge.protocolVersion = protocolVersionSupported
  identify : attacks[i]? = some (.handle c ⟨.authIdentify protocolVersionSupported
    challenge.clientUid, challenge.nonce, challenge.serverTimestamp, challenge.issuedAt⟩)

/-- No two issued challenges have the same nonce. -/
def NoncesDistinct : Prop :=
  ∀ i j c d challenge challenge', Issues crates attacks i c challenge →
    Issues crates attacks j d challenge' → challenge.nonce = challenge'.nonce → i = j

/-- In step `i` the connection `c` is authenticated with the session. -/
structure Authenticates (i : ℕ) (c : ConnId) (session : Session) : Prop where
  before : (authsAt crates attacks i c).state ≠ .authenticated session
  after : (authsAt crates attacks (i + 1) c).state = .authenticated session

/-- The challenge pending on `c` before step `i` was issued in step `k`, and `c` has received no
response since. -/
structure PendingSince (i : ℕ) (c : ConnId) (challenge : AuthChallenge) (k : ℕ) : Prop where
  earlier : k < i
  issues : Issues crates attacks k c challenge
  unanswered : ∀ m r signatureBase64, k < m → m < i → attacks[m]? = some (.handle c r) →
    r.message ≠ .authResponse signatureBase64

end Runs

section Steps

variable {crates : Crates} {honest : Seed → Prop} {attacks : List Attack}

/-- That signature is what the process of the client has given out. -/
lemma SignedAt.given {uid : UserUid} {payload : List UInt8} {signature : Bytes.Fixed 64} {i j : ℕ}
    {seed : Seed} {request : SignAuthChallengeRequest}
    (h : SignedAt crates attacks uid payload signature i j seed request) (keyring : Keyring)
    (fresh : Seed) :
    ((⟨some seed, false⟩ : IdentitySeed).signAuthChallenge crates keyring fresh request).1 =
      .ok (crates.base64.encode signature.toList) := by
  obtain ⟨nonce, hnonce, hpayload⟩ := Option.map_eq_some_iff.mp h.signs
  cases hdecode : decodeNonce crates request.nonceBase64 with
  | error e =>
    rw [hdecode] at hnonce
    cases hnonce
  | ok decoded =>
    rw [hdecode] at hnonce
    cases hnonce
    rw [IdentitySeed.sign_of_cached rfl rfl hdecode, hpayload, h.made]

lemma authsAt_of_ge {i : ℕ} (h : attacks[i]? = none) :
    authsAt crates attacks (i + 1) = authsAt crates attacks i := by
  unfold authsAt
  rw [List.take_add_one, h, Option.toList_none, List.append_nil]

/-- Every pending challenge has been issued by its own connection and not been answered. -/
lemma pendingSince (c : ConnId) (i : ℕ) : ∀ challenge,
    (authsAt crates attacks i c).state = .challengeIssued challenge →
      ∃ k, PendingSince crates attacks i c challenge k := by
  induction i with
  | zero =>
    intro challenge h
    cases h
  | succ i ih =>
    intro challenge h
    -- the step leaves the challenge of `c` alone
    have hkeep : (authsAt crates attacks i c).state = .challengeIssued challenge →
        (∀ r signatureBase64, attacks[i]? = some (.handle c r) →
          r.message ≠ .authResponse signatureBase64) →
        ∃ k, PendingSince crates attacks (i + 1) c challenge k := by
      intro hbefore hstray
      obtain ⟨k, hk⟩ := ih challenge hbefore
      refine ⟨k, ?_, hk.issues, ?_⟩
      · have hearlier := hk.earlier
        omega
      · intro m r signatureBase64 hkm hm hcall
        by_cases hmi : m = i
        · subst hmi
          exact hstray r signatureBase64 hcall
        · exact hk.unanswered m r signatureBase64 hkm (by omega) hcall
    cases hattack : attacks[i]? with
    | none =>
      rw [authsAt_of_ge hattack] at h
      exact hkeep h (fun r _ hcall => by rw [hattack] at hcall; cases hcall)
    | some attack =>
      rw [authsAt_succ hattack] at h
      cases attack with
      | sign seed request =>
        exact hkeep h (fun r _ hcall => by rw [hattack] at hcall; cases hcall)
      | take d =>
        refine hkeep ?_ (fun r _ hcall => by rw [hattack] at hcall; cases hcall)
        simp only [attackStep] at h
        by_cases hcd : c = d
        · subst hcd
          rw [Function.update_self] at h
          unfold takeAuthenticatedSession at h
          split at h
          · cases h
          · exact h
        · rwa [Function.update_of_ne hcd] at h
      | handle d r =>
        simp only [attackStep] at h
        by_cases hcd : c = d
        · subst hcd
          obtain ⟨message, nonce, serverTimestamp, now⟩ := r
          rw [Function.update_self, receive] at h
          have hnext : Next crates (authsAt crates attacks i c) nonce serverTimestamp now message
            (handleMessage crates (authsAt crates attacks i c) message nonce serverTimestamp now).2 :=
            handleMessage_next
          generalize (handleMessage crates (authsAt crates attacks i c) message nonce
            serverTimestamp now).2 = auth at h hnext
          cases hnext with
          | same unanswered =>
            refine hkeep h (fun r signatureBase64 hcall => ?_)
            rw [hattack] at hcall
            cases hcall
            exact unanswered challenge signatureBase64 h
          | issued clientUid idle =>
            cases h
            refine ⟨i, Nat.lt_succ_self i, ⟨idle, rfl, hattack⟩, ?_⟩
            intro m r signatureBase64 him hm
            omega
          | accepted => cases h
          | rejected => cases h
        · rw [Function.update_of_ne hcd] at h
          refine hkeep h (fun r' _ hcall => ?_)
          rw [hattack] at hcall
          cases hcall
          exact absurd rfl hcd

/-- A connection becomes authenticated only by a response to its pending challenge. -/
lemma Authenticates.response {i : ℕ} {c : ConnId} {session : Session}
    (h : Authenticates crates attacks i c session) :
    ∃ challenge signatureBase64 r, attacks[i]? = some (.handle c r) ∧
      r.message = .authResponse signatureBase64 ∧
      (authsAt crates attacks i c).state = .challengeIssued challenge ∧
      verifySignature crates challenge signatureBase64 = .ok () ∧ session = sessionOf challenge := by
  obtain ⟨hbefore, hafter⟩ := h
  cases hattack : attacks[i]? with
  | none =>
    rw [authsAt_of_ge hattack] at hafter
    exact absurd hafter hbefore
  | some attack =>
    rw [authsAt_succ hattack] at hafter
    cases attack with
    | sign seed request => exact absurd hafter hbefore
    | take d =>
      simp only [attackStep] at hafter
      by_cases hcd : c = d
      · subst hcd
        rw [Function.update_self] at hafter
        unfold takeAuthenticatedSession at hafter
        split at hafter
        · cases hafter
        · exact absurd hafter hbefore
      · rw [Function.update_of_ne hcd] at hafter
        exact absurd hafter hbefore
    | handle d r =>
      simp only [attackStep] at hafter
      by_cases hcd : c = d
      · subst hcd
        obtain ⟨message, nonce, serverTimestamp, now⟩ := r
        rw [Function.update_self, receive] at hafter
        have hnext : Next crates (authsAt crates attacks i c) nonce serverTimestamp now message
          (handleMessage crates (authsAt crates attacks i c) message nonce serverTimestamp now).2 :=
          handleMessage_next
        generalize (handleMessage crates (authsAt crates attacks i c) message nonce
          serverTimestamp now).2 = auth at hafter hnext
        cases hnext with
        | same => exact absurd hafter hbefore
        | issued => cases hafter
        | accepted pending accepts =>
          cases hafter
          exact ⟨_, _, _, rfl, rfl, pending, accepts.2, rfl⟩
        | rejected => cases hafter
      · rw [Function.update_of_ne hcd] at hafter
        exact absurd hafter hbefore

/-- A payload of a challenge that a client has signed for a request was asked for exactly. -/
lemma request_of_signedPayload {seed : Seed} {request : SignAuthChallengeRequest}
    {protocolVersion : UInt16} {nonce : Nonce} {serverTimestamp : UInt64} {uid : UserUid}
    (h : signedPayload crates seed request =
      some (authSignaturePayload protocolVersion nonce serverTimestamp uid)) :
    request.protocolVersion = protocolVersion ∧ request.serverTimestamp = serverTimestamp ∧
      decodeNonce crates request.nonceBase64 = .ok nonce := by
  unfold signedPayload at h
  cases hnonce : decodeNonce crates request.nonceBase64 with
  | error e =>
    rw [hnonce] at h
    cases h
  | ok asked =>
    rw [hnonce] at h
    have hpayload := authSignaturePayload_injective (Option.some.inj h)
    obtain ⟨hversion, hasked, htimestamp, -⟩ := hpayload
    exact ⟨hversion, htimestamp, by rw [hasked]⟩

end Steps

/-! ### Agreement -/

/-- The acceptance in step `i` agrees with the call in step `j`: the client of the identity was
asked to sign, in version 1, the nonce and timestamp that the connection had issued to it. -/
structure Agrees (crates : Crates) (attacks : List Attack) (i : ℕ) (c : ConnId) (uid : UserUid)
    (j : ℕ) : Prop where
  agreed : ∃ challenge k seed request, challenge.clientUid = uid ∧
    (authsAt crates attacks i c).state = .challengeIssued challenge ∧
    PendingSince crates attacks i c challenge k ∧ attacks[j]? = some (.sign seed request) ∧
    userUidOf crates seed = uid ∧ request.protocolVersion = 1 ∧
    decodeNonce crates request.nonceBase64 = .ok challenge.nonce ∧
    request.serverTimestamp = challenge.serverTimestamp
  earlier : j < i

section Agreement

variable {crates : Crates} {honest : Seed → Prop} {attacks : List Attack}

lemma agrees_of_authenticates (hunforgeable : Unforgeable crates honest attacks) {i : ℕ}
    {c : ConnId} {session : Session} (h : Authenticates crates attacks i c session)
    (hhonest : IsHonest crates honest session.userUid) :
    ∃ j, Agrees crates attacks i c session.userUid j := by
  obtain ⟨challenge, signatureBase64, r, hcall, hmessage, hstate, hverify, rfl⟩ := h.response
  obtain ⟨bytes, signature, hbytes, hsignature, -, hstrict⟩ := verifySignature_ok_iff.mp hverify
  obtain ⟨j, seed, request, hsigned⟩ := hunforgeable i c r signatureBase64 bytes signature _ _
    hcall hmessage hbytes hsignature hhonest hstrict
  obtain ⟨k, hpending⟩ := pendingSince c i challenge hstate
  obtain ⟨hversion, htimestamp, hnonce⟩ := request_of_signedPayload hsigned.signs
  have hone : request.protocolVersion = 1 := hversion.trans hpending.issues.version
  exact ⟨j, ⟨challenge, k, seed, request, rfl, hstate, hpending, hsigned.call, hsigned.client, hone,
    hnonce, htimestamp⟩, hsigned.earlier⟩

/-- One step authenticates one connection with one session. -/
lemma Authenticates.unique {i : ℕ} {c d : ConnId} {session session' : Session}
    (h : Authenticates crates attacks i c session) (h' : Authenticates crates attacks i d session') :
    c = d ∧ session = session' := by
  obtain ⟨challenge, -, r, hcall, -, hstate, -, rfl⟩ := h.response
  obtain ⟨challenge', -, r', hcall', -, hstate', -, rfl⟩ := h'.response
  rw [hcall] at hcall'
  cases hcall'
  rw [hstate] at hstate'
  cases hstate'
  exact ⟨rfl, rfl⟩

/-- One call to sign agrees with one acceptance at most. -/
lemma Agrees.unique (hdistinct : NoncesDistinct crates attacks) {i i' : ℕ} {c c' : ConnId}
    {session session' : Session} (h : Authenticates crates attacks i c session)
    (h' : Authenticates crates attacks i' c' session') {j : ℕ}
    (hj : Agrees crates attacks i c session.userUid j)
    (hj' : Agrees crates attacks i' c' session'.userUid j) : i = i' := by
  obtain ⟨challenge, k, seed, request, -, -, hpending, hcall, -, -, hnonce, -⟩ := hj.agreed
  obtain ⟨challenge', k', seed', request', -, -, hpending', hcall', -, -, hnonce', -⟩ := hj'.agreed
  rw [hcall] at hcall'
  cases hcall'
  have hsame : challenge.nonce = challenge'.nonce := by
    rw [hnonce] at hnonce'
    exact Except.ok.inj hnonce'
  have hk := hdistinct k k' c c' challenge challenge' hpending.issues hpending'.issues hsame
  subst hk
  have hc : c = c' := by
    have hidentify := hpending.issues.identify
    rw [hpending'.issues.identify] at hidentify
    injection hidentify with hattack
    injection hattack with hc
    exact hc.symm
  subst hc
  obtain ⟨-, signatureBase64, r, hresponse, hmessage, -⟩ := h.response
  obtain ⟨-, signatureBase64', r', hresponse', hmessage', -⟩ := h'.response
  -- the earlier response would have spent the challenge of the later one
  by_contra hne
  rcases Nat.lt_or_gt_of_ne hne with hlt | hlt
  · exact hpending'.unanswered i r signatureBase64 hpending.earlier hlt hresponse hmessage
  · exact hpending.unanswered i' r' signatureBase64' hpending'.earlier hlt hresponse' hmessage'

/-- In every attack each acceptance of an honest identity agrees with an earlier call of its own
client, and different acceptances, on whatever connections, agree with different calls. -/
theorem authentication_agreement (hunforgeable : Unforgeable crates honest attacks)
    (hdistinct : NoncesDistinct crates attacks) :
    ∃ call : ℕ → ℕ,
      (∀ i c session, Authenticates crates attacks i c session →
        IsHonest crates honest session.userUid →
        Agrees crates attacks i c session.userUid (call i)) ∧
      ∀ i i' c c' session session', Authenticates crates attacks i c session →
        Authenticates crates attacks i' c' session' → IsHonest crates honest session.userUid →
        IsHonest crates honest session'.userUid → i ≠ i' → call i ≠ call i' := by
  have hcalls : ∀ i, ∃ j, ∀ c session, Authenticates crates attacks i c session →
      IsHonest crates honest session.userUid →
      Agrees crates attacks i c session.userUid j := by
    intro i
    by_cases hsome : ∃ c session, Authenticates crates attacks i c session ∧
        IsHonest crates honest session.userUid
    · obtain ⟨c, session, h, hhonest⟩ := hsome
      obtain ⟨j, hj⟩ := agrees_of_authenticates hunforgeable h hhonest
      refine ⟨j, fun d session' h' _ => ?_⟩
      obtain ⟨rfl, rfl⟩ := h.unique h'
      exact hj
    · exact ⟨0, fun c session h hhonest => absurd ⟨c, session, h, hhonest⟩ hsome⟩
  choose call hcall using hcalls
  refine ⟨call, hcall, ?_⟩
  intro i i' c c' session session' h h' hhonest hhonest' hne he
  have hj := hcall i c session h hhonest
  have hj' := hcall i' c' session' h' hhonest'
  rw [← he] at hj'
  exact hne (hj.unique hdistinct h h' hj')

end Agreement

/-! ### One login under attack -/

/-- The attacker lets the first login's client sign what the connection asks it to sign. -/
def relayed : List Attack :=
  [.handle 0 ⟨.authIdentify 1 ⟨Reference.first.key⟩, Reference.first.nonce, 42, 0⟩,
    .sign Reference.first.seed ⟨1, Reference.base64.encode Reference.first.nonce.toList, 42⟩,
    .handle 0 ⟨.authResponse (Reference.base64.encode Reference.first.signature.toList),
      Reference.second.nonce, 43, 1⟩]

/-- The challenge that the connection issues under it. -/
def relayedChallenge : AuthChallenge := ⟨⟨Reference.first.key⟩, 1, Reference.first.nonce, 42, 0⟩

lemma uid_first : userUidOf Reference.crates Reference.first.seed = ⟨Reference.first.key⟩ := by
  decide +kernel

lemma sign_first :
    Reference.ed25519.sign Reference.first.seed Reference.first.payload =
      Reference.first.signature := by
  decide +kernel

lemma challengePayload_first :
    challengePayload Reference.crates Reference.first.seed 1 Reference.first.nonce 42 =
      Reference.first.payload := by
  simp only [challengePayload, uid_first]
  rfl

/-- The first login's signature is a signature of nothing else under its key. -/
lemma payload_of_first_signature {payload : List UInt8}
    (h : Reference.signature Reference.first.key payload = Reference.first.signature) :
    payload = Reference.first.payload := by
  unfold Reference.signature at h
  cases hlogin : Reference.logins.find? fun login =>
      login.key = Reference.first.key ∧ login.payload = payload with
  | none =>
    rw [hlogin] at h
    exact absurd h (by decide +kernel)
  | some login =>
    have hmatch := List.find?_some hlogin
    have hmem := List.mem_of_find?_eq_some hlogin
    simp only [decide_eq_true_eq] at hmatch
    simp only [Reference.logins, List.mem_cons, List.not_mem_nil, or_false] at hmem
    rcases hmem with rfl | rfl
    · exact hmatch.2.symm
    · exact absurd hmatch.1 (by decide +kernel)

/-- What the attacker lets the client sign. -/
def relayedRequest : SignAuthChallengeRequest :=
  ⟨1, Reference.base64.encode Reference.first.nonce.toList, 42⟩

lemma signedAt_relayed : SignedAt Reference.crates relayed (userUidOf Reference.crates
    Reference.first.seed) Reference.first.payload Reference.first.signature 2 1 Reference.first.seed
    relayedRequest := by
  refine ⟨Nat.one_lt_two, rfl, rfl, ?_, sign_first⟩
  have hnonce : decodeNonce Reference.crates relayedRequest.nonceBase64 = .ok Reference.first.nonce :=
    decodeBytes_encode Reference.base64_decodes _ _ _
  rw [signedPayload, hnonce]
  exact congrArg some challengePayload_first

lemma relayed_unforgeable :
    Unforgeable Reference.crates (· = Reference.first.seed) relayed := by
  rintro i c r signatureBase64 bytes signature uid payload hcall hmessage hbytes hsignature
    ⟨seed, rfl, rfl⟩ hstrict
  have hi : i = 2 ∧ signatureBase64 =
      Reference.base64.encode Reference.first.signature.toList := by
    match i with
    | 0 =>
      cases hcall
      cases hmessage
    | 1 => cases hcall
    | 2 =>
      cases hcall
      cases hmessage
      exact ⟨rfl, rfl⟩
    | i + 3 => cases hcall
  obtain ⟨rfl, rfl⟩ := hi
  have hgiven : signature = Reference.first.signature := by
    rw [Reference.crates, Reference.base64_decodes, Option.some.injEq] at hbytes
    rw [← hbytes, Bytes.Fixed.ofList?_toList, Option.some.injEq] at hsignature
    exact hsignature.symm
  have hsigned : payload = Reference.first.payload := by
    apply payload_of_first_signature
    have hverified := of_decide_eq_true hstrict
    rw [hgiven, uid_first] at hverified
    exact hverified.symm
  rw [hgiven, hsigned]
  exact ⟨1, Reference.first.seed, relayedRequest, signedAt_relayed⟩

lemma relayed_noncesDistinct : NoncesDistinct Reference.crates relayed := by
  have hfirst : ∀ i c challenge, Issues Reference.crates relayed i c challenge → i = 0 := by
    intro i c challenge hissues
    have hcall := hissues.identify
    match i with
    | 0 => rfl
    | 1 => cases hcall
    | 2 => cases hcall
    | i + 3 => cases hcall
  intro i j c d challenge challenge' hissues hissues' _
  rw [hfirst i c challenge hissues, hfirst j d challenge' hissues']

/-- The relayed login is accepted with what the client has given out, and the client's one call is
the one it agrees with. -/
theorem authentication_agreement_relayed :
    (∃ session, Authenticates Reference.crates relayed 2 0 session ∧
      session.userUid = ⟨Reference.first.key⟩) ∧
    (∀ keyring fresh, ((⟨some Reference.first.seed, false⟩ : IdentitySeed).signAuthChallenge
        Reference.crates keyring fresh relayedRequest).1 =
      .ok (Reference.base64.encode Reference.first.signature.toList)) ∧
    ∃ call : ℕ → ℕ,
      (∀ i c session, Authenticates Reference.crates relayed i c session →
        IsHonest Reference.crates (· = Reference.first.seed) session.userUid →
        Agrees Reference.crates relayed i c session.userUid (call i)) ∧
      ∀ i i' c c' session session', Authenticates Reference.crates relayed i c session →
        Authenticates Reference.crates relayed i' c' session' →
        IsHonest Reference.crates (· = Reference.first.seed) session.userUid →
        IsHonest Reference.crates (· = Reference.first.seed) session'.userUid →
        i ≠ i' → call i ≠ call i' := by
  refine ⟨⟨Session.new ⟨Reference.first.key⟩ (defaultDisplayName ⟨Reference.first.key⟩), ?_, rfl⟩,
    signedAt_relayed.given, authentication_agreement relayed_unforgeable relayed_noncesDistinct⟩
  have haccepts : Accepts Reference.crates relayedChallenge
      (Reference.base64.encode Reference.first.signature.toList) 1 := by
    constructor
    · decide
    · rw [← sign_first, ← challengePayload_first]
      exact verifySignature_own Reference.base64_decodes Reference.ed25519_accepts _ uid_first.symm
  have hissued : authsAt Reference.crates relayed 2 0 =
      ⟨serverName, .challengeIssued relayedChallenge⟩ := rfl
  constructor
  · rw [hissued]
    intro h
    cases h
  · have hcall : relayed[2]? = some (.handle 0 ⟨.authResponse
        (Reference.base64.encode Reference.first.signature.toList), Reference.second.nonce, 43, 1⟩) :=
      rfl
    rw [authsAt_succ hcall, attackStep, Function.update_self, receive, hissued,
      handleMessage_accepted rfl haccepts]
    rfl

end VTNet.Proofs
