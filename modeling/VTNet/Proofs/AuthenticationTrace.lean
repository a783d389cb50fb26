import VTNet.Proofs.Handshake

/-!
# Authentication, read off the messages

The authenticator is a state machine. Its verdict on a message is a condition on the messages
before: the earliest supported identify since the last response issued the challenge that the next
response answers.
-/

namespace VTNet.Proofs

open ConnectionAuthenticator

namespace Received

def isResponse (r : Received) : Bool :=
  match r.message with
  | .authResponse _ => true
  | _ => false

/-- The challenge that the message asks for. -/
def issues? (r : Received) : Option AuthChallenge :=
  match r.message with
  | .authIdentify protocolVersion clientUid =>
    if protocolVersion = protocolVersionSupported then
      some ⟨clientUid, protocolVersion, r.nonce, r.serverTimestamp, r.now⟩
    else none
  | _ => none

lemma isResponse_iff {r : Received} :
    r.isResponse = true ↔ ∃ signatureBase64, r.message = .authResponse signatureBase64 := by
  unfold isResponse
  cases r.message <;> simp

lemma issues?_of_response {r : Received} (h : r.isResponse = true) : r.issues? = none := by
  obtain ⟨signatureBase64, hmessage⟩ := isResponse_iff.mp h
  simp only [issues?, hmessage]

lemma issues?_eq_some {r : Received} {challenge : AuthChallenge} (h : r.issues? = some challenge) :
    r.message = .authIdentify protocolVersionSupported challenge.clientUid ∧
      challenge = ⟨challenge.clientUid, protocolVersionSupported, r.nonce, r.serverTimestamp,
        r.now⟩ := by
  unfold issues? at h
  split at h
  · rename_i protocolVersion clientUid hmessage
    split at h
    · rename_i hversion
      cases h
      rw [hmessage, hversion]
      exact ⟨rfl, rfl⟩
    · cases h
  · cases h

end Received

/-- The challenge of the earliest supported identify after the last response. -/
def pendingChallenge (received : List Received) : Option AuthChallenge :=
  (received.rtakeWhile (fun r => !r.isResponse)).findSome? Received.issues?

lemma pendingChallenge_response {received : List Received} {r : Received} (h : r.isResponse = true) :
    pendingChallenge (received ++ [r]) = none := by
  unfold pendingChallenge
  rw [List.rtakeWhile_concat_neg _ _ _ (by simp [h])]
  rfl

lemma pendingChallenge_other {received : List Received} {r : Received} (h : r.isResponse = false) :
    pendingChallenge (received ++ [r]) = (pendingChallenge received).or r.issues? := by
  unfold pendingChallenge
  rw [List.rtakeWhile_concat_pos _ _ _ (by simp [h]), List.findSome?_append]
  congr 1
  cases hissues : r.issues? <;> simp [hissues]

lemma pendingChallenge_version {received : List Received} {challenge : AuthChallenge}
    (h : pendingChallenge received = some challenge) : challenge.protocolVersion = 1 := by
  obtain ⟨r, -, hissues⟩ := List.exists_of_findSome?_eq_some h
  rw [(Received.issues?_eq_some hissues).2]
  rfl

/-- The state that a challenge, if there is one, puts an authenticator in. -/
def waitingFor : Option AuthChallenge → AuthenticationState
  | none => .connected
  | some challenge => .challengeIssued challenge

/-- What the authenticator does with the message after the others. -/
def verdict (crates : Crates) (name : String) (received : List Received) (r : Received) :
    AuthenticationResult × ConnectionAuthenticator :=
  (afterMessages crates (ConnectionAuthenticator.new name) received).handleMessage crates r.message
    r.nonce r.serverTimestamp r.now

/-- None of the messages has authenticated the connection. -/
def NoneAuthenticated (crates : Crates) (name : String) (received : List Received) : Prop :=
  ∀ before r, before ++ [r] <+: received →
    ∀ m, (verdict crates name before r).1 ≠ .authenticated m

lemma afterMessages_concat (crates : Crates) (name : String) (received : List Received)
    (r : Received) :
    afterMessages crates (ConnectionAuthenticator.new name) (received ++ [r]) =
      (verdict crates name received r).2 := by
  unfold afterMessages verdict
  rw [List.foldl_append]
  rfl

section Messages

variable {crates : Crates} {name : String} {received : List Received} {r : Received}

lemma NoneAuthenticated.init (h : NoneAuthenticated crates name (received ++ [r])) :
    NoneAuthenticated crates name received :=
  fun before r' hinitial => h before r' (hinitial.trans (List.prefix_append received [r]))

lemma handleMessage_without_challenge {auth : ConnectionAuthenticator}
    (hstate : auth.state = .connected) :
    (auth.handleMessage crates r.message r.nonce r.serverTimestamp r.now).2.state =
      waitingFor r.issues? := by
  cases hissues : r.issues? with
  | some challenge =>
    obtain ⟨hmessage, hchallenge⟩ := Received.issues?_eq_some hissues
    rw [hmessage, handleMessage_identify hstate, hchallenge]
    rfl
  | none =>
    have hrefused : ∃ reason, auth.handleMessage crates r.message r.nonce r.serverTimestamp r.now =
        (failure reason, auth) := by
      apply handleMessage_connected hstate
      intro clientUid hmessage
      simp [Received.issues?, hmessage] at hissues
    obtain ⟨reason, hresult⟩ := hrefused
    rw [hresult]
    exact hstate

/-- As long as nobody has authenticated, the outstanding challenge is the state. -/
theorem afterMessages_state (h : NoneAuthenticated crates name received) :
    (afterMessages crates (ConnectionAuthenticator.new name) received).state =
      waitingFor (pendingChallenge received) := by
  induction received using List.reverseRecOn with
  | nil => rfl
  | append_singleton received r ih =>
    have hstate := ih h.init
    have hlast := h received r (List.prefix_refl _)
    rw [afterMessages_concat]
    unfold verdict at hlast ⊢
    generalize afterMessages crates (ConnectionAuthenticator.new name) received = auth
      at hstate hlast ⊢
    cases hout : pendingChallenge received with
    | none =>
      rw [hout] at hstate
      rw [handleMessage_without_challenge hstate]
      cases hresponse : r.isResponse with
      | true => rw [pendingChallenge_response hresponse, Received.issues?_of_response hresponse]
      | false => rw [pendingChallenge_other hresponse, hout, Option.none_or]
    | some challenge =>
      rw [hout] at hstate
      cases hresponse : r.isResponse with
      | true =>
        obtain ⟨signatureBase64, hmessage⟩ := Received.isResponse_iff.mp hresponse
        rw [pendingChallenge_response hresponse]
        rw [hmessage] at hlast ⊢
        by_cases haccepts : Accepts crates challenge signatureBase64 r.now
        · rw [handleMessage_accepted hstate haccepts] at hlast
          exact absurd rfl (hlast _)
        · have hrefused : ∃ reason, auth.handleMessage crates (.authResponse signatureBase64)
              r.nonce r.serverTimestamp r.now = (failure reason, ⟨auth.serverName, .connected⟩) :=
            handleMessage_rejected hstate haccepts
          obtain ⟨reason, hresult⟩ := hrefused
          rw [hresult]
          rfl
      | false =>
        have hstray : ∀ signatureBase64, r.message ≠ .authResponse signatureBase64 := by
          intro signatureBase64 hmessage
          rw [Received.isResponse_iff.mpr ⟨signatureBase64, hmessage⟩] at hresponse
          cases hresponse
        rw [pendingChallenge_other hresponse, hout, handleMessage_pending hstate hstray, Option.some_or]
        exact hstate

/-- An authenticator accepts the answer to its challenge and nothing else, whatever the nonce and
the timestamp. -/
lemma authenticated_iff {auth : ConnectionAuthenticator} {out : Option AuthChallenge}
    (hstate : auth.state = waitingFor out) (message : ClientMessage) (nonce : Nonce)
    (serverTimestamp : UInt64) (now : Instant) :
    (∃ m, (auth.handleMessage crates message nonce serverTimestamp now).1 = .authenticated m) ↔
      ∃ signatureBase64 challenge, message = .authResponse signatureBase64 ∧
        out = some challenge ∧ Accepts crates challenge signatureBase64 now := by
  have hidle : auth.Idle := by
    intro session hauthenticated
    rw [hstate] at hauthenticated
    cases out <;> cases hauthenticated
  constructor
  · rintro ⟨m, hm⟩
    rcases handleMessage_cases hidle with ⟨reply, auth', hresult, -⟩ |
      ⟨challenge, signatureBase64, hpending, hmessage, haccepts, -⟩
    · rw [hresult] at hm
      cases hm
    · refine ⟨signatureBase64, challenge, hmessage, ?_, haccepts⟩
      rw [hstate] at hpending
      cases out with
      | none => cases hpending
      | some challenge' =>
        cases hpending
        rfl
  · rintro ⟨signatureBase64, challenge, rfl, rfl, haccepts⟩
    exact ⟨_, congrArg Prod.fst (handleMessage_accepted hstate haccepts)⟩

/-- A response draws no nonce and reads no timestamp. -/
lemma handleMessage_response_congr (auth : ConnectionAuthenticator) (signatureBase64 : String)
    (nonce nonce' : Nonce) (serverTimestamp serverTimestamp' : UInt64) (now : Instant) :
    auth.handleMessage crates (.authResponse signatureBase64) nonce serverTimestamp now =
      auth.handleMessage crates (.authResponse signatureBase64) nonce' serverTimestamp' now := by
  unfold handleMessage
  cases auth.state <;> rfl

/-- A response after the deadline. -/
lemma handleMessage_expired {auth : ConnectionAuthenticator} {challenge : AuthChallenge}
    (hstate : auth.state = .challengeIssued challenge) {now : Instant}
    (hexpired : authChallengeTtl < now.durationSince challenge.issuedAt) (signatureBase64 : String)
    (nonce : Nonce) (serverTimestamp : UInt64) :
    auth.handleMessage crates (.authResponse signatureBase64) nonce serverTimestamp now =
      (failure .requestExpired, ⟨auth.serverName, .connected⟩) := by
  simp only [handleMessage, hstate, gt_iff_lt, if_pos hexpired]

/-- A response leaves no challenge pending. -/
lemma response_spends {auth : ConnectionAuthenticator} (signatureBase64 : String) (nonce : Nonce)
    (serverTimestamp : UInt64) (now : Instant) (challenge : AuthChallenge) :
    (auth.handleMessage crates (.authResponse signatureBase64) nonce serverTimestamp now).2.state ≠
      .challengeIssued challenge := by
  have hnext : Next crates auth nonce serverTimestamp now (.authResponse signatureBase64) _ :=
    handleMessage_next
  intro hstate
  generalize (auth.handleMessage crates (.authResponse signatureBase64) nonce serverTimestamp
    now).2 = auth' at hnext hstate
  cases hnext with
  | same unanswered => exact unanswered challenge signatureBase64 hstate rfl
  | accepted => cases hstate
  | rejected => cases hstate

end Messages

/-- The verdict on a message, as long as none of the messages before has authenticated the
connection, and what the message does to the outstanding challenge. -/
theorem authentication_trace (crates : Crates) (name : String) (received : List Received)
    (hnone : NoneAuthenticated crates name received) (r : Received) :
    let auth := afterMessages crates (ConnectionAuthenticator.new name) received
    ((∃ m, (verdict crates name received r).1 = .authenticated m) ↔
        ∃ signatureBase64 challenge, r.message = .authResponse signatureBase64 ∧
          pendingChallenge received = some challenge ∧
          r.now.durationSince challenge.issuedAt ≤ authChallengeTtl ∧
          Verifies crates challenge.clientUid (authSignaturePayload 1 challenge.nonce
            challenge.serverTimestamp challenge.clientUid) signatureBase64) ∧
      (∀ m, (verdict crates name received r).1 = .authenticated m →
        ∃ challenge session, pendingChallenge received = some challenge ∧
          (verdict crates name received r).2.takeAuthenticatedSession.1 = some session ∧
          session.userUid = challenge.clientUid) ∧
      (∀ signatureBase64 challenge, r.message = .authResponse signatureBase64 →
        pendingChallenge received = some challenge →
        authChallengeTtl < r.now.durationSince challenge.issuedAt →
        (verdict crates name received r).1 = .reply (.authFailure .requestExpired)) ∧
      (∀ signatureBase64, r.message = .authResponse signatureBase64 →
        pendingChallenge (received ++ [r]) = none ∧
          ∀ challenge, (verdict crates name received r).2.state ≠ .challengeIssued challenge) ∧
      (∀ challenge, (∀ signatureBase64, r.message ≠ .authResponse signatureBase64) →
        pendingChallenge received = some challenge →
        pendingChallenge (received ++ [r]) = some challenge ∧
          (verdict crates name received r).2 = auth ∧ auth.state = .challengeIssued challenge) ∧
      ∀ nonce serverTimestamp,
        ((∃ m, (auth.handleMessage crates r.message nonce serverTimestamp r.now).1 =
          .authenticated m) ↔ ∃ m, (verdict crates name received r).1 = .authenticated m) ∧
        ∀ signatureBase64, r.message = .authResponse signatureBase64 →
          auth.handleMessage crates r.message nonce serverTimestamp r.now =
            verdict crates name received r := by
  intro auth
  have hstate : auth.state = waitingFor (pendingChallenge received) := afterMessages_state hnone
  have hiff : ∀ nonce serverTimestamp, (∃ m,
      (auth.handleMessage crates r.message nonce serverTimestamp r.now).1 = .authenticated m) ↔ _ :=
    fun nonce serverTimestamp => authenticated_iff hstate r.message nonce serverTimestamp r.now
  have hresponse : ∀ signatureBase64, r.message = .authResponse signatureBase64 →
      r.isResponse = true := fun signatureBase64 hmessage =>
    Received.isResponse_iff.mpr ⟨signatureBase64, hmessage⟩
  have hverdict : ∀ signatureBase64, r.message = .authResponse signatureBase64 →
      verdict crates name received r = auth.handleMessage crates (.authResponse signatureBase64)
        r.nonce r.serverTimestamp r.now := by
    intro signatureBase64 hmessage
    rw [verdict, hmessage]
  refine ⟨?_, ?_, ?_, ?_, ?_, ?_⟩
  · apply (hiff r.nonce r.serverTimestamp).trans
    constructor
    · rintro ⟨signatureBase64, challenge, hmessage, hout, htime, hverify⟩
      rw [verifySignature_ok_iff, pendingChallenge_version hout] at hverify
      exact ⟨signatureBase64, challenge, hmessage, hout, htime, hverify⟩
    · rintro ⟨signatureBase64, challenge, hmessage, hout, htime, hverify⟩
      rw [← pendingChallenge_version hout, ← verifySignature_ok_iff] at hverify
      exact ⟨signatureBase64, challenge, hmessage, hout, htime, hverify⟩
  · intro m hm
    obtain ⟨signatureBase64, challenge, hmessage, hout, haccepts⟩ :=
      (hiff r.nonce r.serverTimestamp).mp ⟨m, hm⟩
    refine ⟨challenge, sessionOf challenge, hout, ?_, rfl⟩
    rw [hout] at hstate
    rw [hverdict signatureBase64 hmessage, handleMessage_accepted hstate haccepts]
    rfl
  · intro signatureBase64 challenge hmessage hout hexpired
    rw [hout] at hstate
    rw [hverdict signatureBase64 hmessage, handleMessage_expired hstate hexpired]
    rfl
  · intro signatureBase64 hmessage
    refine ⟨pendingChallenge_response (hresponse signatureBase64 hmessage), ?_⟩
    rw [hverdict signatureBase64 hmessage]
    exact response_spends signatureBase64 r.nonce r.serverTimestamp r.now
  · intro challenge hstray hout
    have hother : r.isResponse = false := by
      apply Bool.eq_false_iff.mpr
      intro h
      obtain ⟨signatureBase64, hmessage⟩ := Received.isResponse_iff.mp h
      exact hstray signatureBase64 hmessage
    rw [hout] at hstate
    refine ⟨?_, ?_, hstate⟩
    · rw [pendingChallenge_other hother, hout, Option.some_or]
    · exact congrArg Prod.snd (handleMessage_pending hstate hstray)
  · intro nonce serverTimestamp
    refine ⟨(hiff nonce serverTimestamp).trans (hiff r.nonce r.serverTimestamp).symm, ?_⟩
    intro signatureBase64 hmessage
    rw [hverdict signatureBase64 hmessage, hmessage]
    exact handleMessage_response_congr auth signatureBase64 nonce r.nonce serverTimestamp
      r.serverTimestamp r.now

/-- The challenge of the first login. -/
def firstChallenge : AuthChallenge :=
  ⟨userUidOf Reference.crates Reference.first.seed, protocolVersionSupported,
    Reference.first.nonce, 42, 7⟩

/-- The identify of the first login. -/
def firstIdentify : Received :=
  ⟨.authIdentify protocolVersionSupported firstChallenge.clientUid, Reference.first.nonce, 42, 7⟩

/-- What its client answers. -/
def firstResponse : Received :=
  ⟨.authResponse (Reference.base64.encode (Reference.ed25519.sign Reference.first.seed
    (challengePayload Reference.crates Reference.first.seed protocolVersionSupported
      Reference.first.nonce 42)).toList), Reference.second.nonce, 43, 8⟩

/-- The first login identifies itself and answers its challenge. -/
theorem authentication_trace_first :
    ∃ m, (verdict Reference.crates "VTNet" [firstIdentify] firstResponse).1 = .authenticated m := by
  have hissued : (verdict Reference.crates "VTNet" [] firstIdentify).1 =
      .reply (.authChallenge (Reference.base64.encode Reference.first.nonce.toList) 42) :=
    congrArg Prod.fst (handleMessage_identify rfl firstChallenge.clientUid)
  have hnone : NoneAuthenticated Reference.crates "VTNet" [firstIdentify] := by
    intro before r hinitial m
    cases before with
    | nil =>
      rw [List.nil_append, List.cons_prefix_cons] at hinitial
      rw [hinitial.1, hissued]
      exact fun he => by cases he
    | cons first before =>
      have hlength := hinitial.length_le
      simp at hlength
  have hverify : verifySignature Reference.crates firstChallenge _ = .ok () :=
    verifySignature_own Reference.base64_decodes Reference.ed25519_accepts Reference.first.seed rfl
  apply (authentication_trace Reference.crates "VTNet" [firstIdentify] hnone firstResponse).1.mpr
  exact ⟨_, firstChallenge, rfl, rfl, by decide, verifySignature_ok_iff.mp hverify⟩

end VTNet.Proofs
