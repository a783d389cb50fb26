import VTNet.Shared

/-!
# The identity of a client process (`client/src-tauri/src/identity.rs`)

A signing key is represented by its seed. The operating system's keyring is what it answers.
-/

namespace VTNet

abbrev Seed := Bytes.Fixed 32

inductive KeyringError
  | noEntry
  /-- Any other error, with its text. -/
  | other (error : String)

structure Keyring where
  /-- `Entry::new` -/
  entry : Except String Unit
  getPassword : Except KeyringError String
  setPassword : String → Except String Unit

/-- The mutex that caches the seed of the process. -/
structure IdentitySeed where
  cachedSeed : Option Seed
  poisoned : Bool

structure SignAuthChallengeRequest where
  protocolVersion : UInt16
  nonceBase64 : String
  serverTimestamp : UInt64

/-- The bytes of a text, or which of the two errors it has. -/
def decodeBytes (crates : Crates) (n : ℕ) (invalidBase64 invalidLength encoded : String) :
    Except String (Bytes.Fixed n) :=
  match crates.base64.decode encoded with
  | none => .error invalidBase64
  | some bytes =>
    match Bytes.Fixed.ofList? n bytes with
    | none => .error invalidLength
    | some bytes => .ok bytes

def decodeSeed (crates : Crates) (encodedSeed : String) : Except String Seed :=
  decodeBytes crates 32 "stored identity is not valid Base64"
    "stored identity has an invalid length" encodedSeed

def decodeNonce (crates : Crates) (encodedNonce : String) : Except String Nonce :=
  decodeBytes crates authNonceBytes "authentication nonce is not valid Base64"
    "authentication nonce must contain exactly 32 bytes" encodedNonce

lemma decodeBytes_encode {crates : Crates} (h : crates.base64.DecodeInvertsEncode) {n : ℕ}
    (bytes : Bytes.Fixed n) (invalidBase64 invalidLength : String) :
    decodeBytes crates n invalidBase64 invalidLength (crates.base64.encode bytes.toList) =
      .ok bytes := by
  simp only [decodeBytes, h bytes.toList, Bytes.Fixed.ofList?_toList]

/-- The identity of a seed. -/
def userUidOf (crates : Crates) (seed : Seed) : UserUid := ⟨crates.ed25519.verifyingKey seed⟩

/-- The bytes a client signs for a request. -/
def challengePayload (crates : Crates) (seed : Seed) (protocolVersion : UInt16) (nonce : Nonce)
    (serverTimestamp : UInt64) : List UInt8 :=
  authSignaturePayload protocolVersion nonce serverTimestamp (userUidOf crates seed)

namespace IdentitySeed

/-- `fresh` is what the random generator would fill a new seed with. -/
def loadOrCreateSigningKey (crates : Crates) (keyring : Keyring) (fresh : Seed)
    (identity : IdentitySeed) : Except String Seed × IdentitySeed :=
  if identity.poisoned then (.error "identity initialization lock was poisoned", identity)
  else
    match identity.cachedSeed with
    | some seed => (.ok seed, identity)
    | none =>
      let seed : Except String Seed := do
        keyring.entry.mapError ("could not access the OS keyring: " ++ ·)
        match keyring.getPassword with
        | .ok encodedSeed => decodeSeed crates encodedSeed
        | .error .noEntry =>
          (keyring.setPassword (crates.base64.encode fresh.toList)).mapError
            ("could not save identity in the OS keyring: " ++ ·)
          return fresh
        | .error (.other error) => .error ("could not load identity from the OS keyring: " ++ error)
      match seed with
      | .ok seed => (.ok seed, { identity with cachedSeed := some seed })
      | .error error => (.error error, identity)

def getOrCreateIdentity (crates : Crates) (keyring : Keyring) (fresh : Seed)
    (identity : IdentitySeed) : Except String UserUid × IdentitySeed :=
  let (signingKey, identity) := identity.loadOrCreateSigningKey crates keyring fresh
  (signingKey.map (userUidOf crates), identity)

/-- Signs only the canonical authentication payload. -/
def signAuthChallenge (crates : Crates) (keyring : Keyring) (fresh : Seed)
    (identity : IdentitySeed) (request : SignAuthChallengeRequest) :
    Except String String × IdentitySeed :=
  match decodeNonce crates request.nonceBase64 with
  | .error error => (.error error, identity)
  | .ok nonce =>
    let (signingKey, identity) := identity.loadOrCreateSigningKey crates keyring fresh
    (signingKey.map fun seed => crates.base64.encode (crates.ed25519.sign seed
      (challengePayload crates seed request.protocolVersion nonce request.serverTimestamp)).toList, identity)

variable {crates : Crates} {keyring : Keyring} {fresh : Seed} {identity identity' : IdentitySeed}
  {seed : Seed}

/-- The process keeps the seed it has loaded or created. -/
lemma cached_of_load
    (h : identity.loadOrCreateSigningKey crates keyring fresh = (.ok seed, identity')) :
    identity'.cachedSeed = some seed ∧ identity'.poisoned = false := by
  unfold loadOrCreateSigningKey at h
  split at h
  · cases h
  · rename_i hpoisoned
    split at h
    · rename_i hcached
      cases h
      exact ⟨hcached, by simpa using hpoisoned⟩
    · dsimp only at h
      split at h
      · cases h
        exact ⟨rfl, by simpa using hpoisoned⟩
      · cases h

/-- From then on the keyring does not matter. -/
lemma load_of_cached (hcached : identity.cachedSeed = some seed)
    (hpoisoned : identity.poisoned = false) :
    identity.loadOrCreateSigningKey crates keyring fresh = (.ok seed, identity) := by
  simp [loadOrCreateSigningKey, hcached, hpoisoned]

lemma sign_of_cached (hcached : identity.cachedSeed = some seed)
    (hpoisoned : identity.poisoned = false) {request : SignAuthChallengeRequest} {nonce : Nonce}
    (hnonce : decodeNonce crates request.nonceBase64 = .ok nonce) :
    (identity.signAuthChallenge crates keyring fresh request).1 =
      .ok (crates.base64.encode (crates.ed25519.sign seed
        (challengePayload crates seed request.protocolVersion nonce request.serverTimestamp)).toList) := by
  simp only [signAuthChallenge, hnonce, load_of_cached hcached hpoisoned]
  rfl

end IdentitySeed

end VTNet
