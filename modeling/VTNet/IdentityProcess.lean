import VTNet.Identity
import VTNet.Lib.Execution
import VTNet.Lib.Interaction

/-!
# The commands of a client and its keyring (`client/src-tauri/src/identity.rs`)

The commands are programs that ask the keyring, which can answer in any way. A device runs one
client process after the other, and its keyring outlives them.
-/

namespace VTNet

inductive KeyringOp
  /-- `Entry::new` -/
  | entry
  | getPassword
  | setPassword (password : String)

abbrev KeyringOp.Answer : KeyringOp → Type
  | .entry => Except String Unit
  | .getPassword => Except KeyringError String
  | .setPassword _ => Except String Unit

abbrev KeyringProgram := Interaction KeyringOp KeyringOp.Answer

abbrev KeyringExchange := Interaction.Exchange KeyringOp.Answer

abbrev KeyringEnvironment (σ : Type*) := Interaction.Environment σ KeyringOp.Answer

def IdentitySeed.unset : IdentitySeed := ⟨none, false⟩

/-- `load_or_create_signing_key`, where `fresh` is what the random generator would fill a new
seed with. -/
def IdentitySeed.loadOrCreate (crates : Crates) (fresh : Seed) (identity : IdentitySeed) :
    KeyringProgram (Except String Seed × IdentitySeed) :=
  if identity.poisoned then .done (.error "identity initialization lock was poisoned", identity)
  else
    match identity.cachedSeed with
    | some seed => .done (.ok seed, identity)
    | none => .ask .entry fun
      | .error error => .done (.error ("could not access the OS keyring: " ++ error), identity)
      | .ok () => .ask .getPassword fun
        | .ok encodedSeed =>
          match decodeSeed crates encodedSeed with
          | .error error => .done (.error error, identity)
          | .ok seed => .done (.ok seed, { identity with cachedSeed := some seed })
        | .error .noEntry => .ask (.setPassword (crates.base64.encode fresh.toList)) fun
          | .error error =>
            .done (.error ("could not save identity in the OS keyring: " ++ error), identity)
          | .ok () => .done (.ok fresh, { identity with cachedSeed := some fresh })
        | .error (.other error) =>
          .done (.error ("could not load identity from the OS keyring: " ++ error), identity)

/-! ### The commands of the frontend -/

inductive Command
  | getOrCreateIdentity
  | signAuthChallenge (request : SignAuthChallengeRequest)

inductive CommandResponse
  | identity (userUid : UserUid)
  | signature (signatureBase64 : String)
  deriving DecidableEq

/-- What the command returns for the signing key of a seed. -/
def Command.response (crates : Crates) (seed : Seed) : Command → Except String CommandResponse
  | .getOrCreateIdentity => .ok (.identity (userUidOf crates seed))
  | .signAuthChallenge request => do
    let nonce ← decodeNonce crates request.nonceBase64
    return .signature (crates.base64.encode (crates.ed25519.sign seed
      (challengePayload crates seed request.protocolVersion nonce request.serverTimestamp)).toList)

def Command.program (crates : Crates) (fresh : Seed) (identity : IdentitySeed) :
    Command → KeyringProgram (Except String CommandResponse × IdentitySeed)
  | .getOrCreateIdentity => (identity.loadOrCreate crates fresh).map fun (signingKey, identity) =>
    (signingKey.map fun seed => .identity (userUidOf crates seed), identity)
  | .signAuthChallenge request =>
    match decodeNonce crates request.nonceBase64 with
    | .error error => .done (.error error, identity)
    | .ok nonce => (identity.loadOrCreate crates fresh).map fun (signingKey, identity) =>
      (signingKey.map fun seed => .signature (crates.base64.encode (crates.ed25519.sign seed
        (challengePayload crates seed request.protocolVersion nonce
          request.serverTimestamp)).toList), identity)

/-! ### What the keyring answers -/

/-- The answers that a call gets from an environment. -/
def Keyring.seen {σ : Type*} (env : KeyringEnvironment σ) (world : σ) : Keyring where
  entry := (env .entry world).1
  getPassword := (env .getPassword (env .entry world).2).1
  setPassword password := (env (.setPassword password) (env .getPassword (env .entry world).2).2).1

namespace IdentitySeed

/-- Everything that loading or creating the signing key can do. -/
inductive Loaded (crates : Crates) (fresh : Seed) (identity : IdentitySeed) :
    List KeyringExchange → Except String Seed × IdentitySeed → Prop
  | poisoned {error : String} (poisoned : identity.poisoned = true) :
      Loaded crates fresh identity [] (.error error, identity)
  | cached {seed : Seed} (poisoned : identity.poisoned = false)
      (cached : identity.cachedSeed = some seed) :
      Loaded crates fresh identity [] (.ok seed, identity)
  | inaccessible {error error' : String} :
      Loaded crates fresh identity [⟨.entry, .error error⟩] (.error error', identity)
  | undecodable {text error : String} (decodes : decodeSeed crates text = .error error) :
      Loaded crates fresh identity [⟨.entry, .ok ()⟩, ⟨.getPassword, .ok text⟩]
        (.error error, identity)
  | unreadable {error error' : String} :
      Loaded crates fresh identity [⟨.entry, .ok ()⟩, ⟨.getPassword, .error (.other error)⟩]
        (.error error', identity)
  | unsaved {error error' : String} :
      Loaded crates fresh identity [⟨.entry, .ok ()⟩, ⟨.getPassword, .error .noEntry⟩,
        ⟨.setPassword (crates.base64.encode fresh.toList), .error error⟩] (.error error', identity)
  | read {text : String} {seed : Seed} (poisoned : identity.poisoned = false)
      (unset : identity.cachedSeed = none) (decodes : decodeSeed crates text = .ok seed) :
      Loaded crates fresh identity [⟨.entry, .ok ()⟩, ⟨.getPassword, .ok text⟩]
        (.ok seed, { identity with cachedSeed := some seed })
  | created (poisoned : identity.poisoned = false) (unset : identity.cachedSeed = none) :
      Loaded crates fresh identity [⟨.entry, .ok ()⟩, ⟨.getPassword, .error .noEntry⟩,
        ⟨.setPassword (crates.base64.encode fresh.toList), .ok ()⟩]
        (.ok fresh, { identity with cachedSeed := some fresh })

section Answers

variable {σ : Type*} (crates : Crates) (env : KeyringEnvironment σ) (fresh : Seed)
  (identity : IdentitySeed) (world : σ)

lemma loaded_seen :
    Loaded crates fresh identity
        (Interaction.run env (identity.loadOrCreate crates fresh) world).exchanges
        (Interaction.run env (identity.loadOrCreate crates fresh) world).value ∧
      (Interaction.run env (identity.loadOrCreate crates fresh) world).value =
        identity.loadOrCreateSigningKey crates (Keyring.seen env world) fresh := by
  unfold loadOrCreate loadOrCreateSigningKey Keyring.seen
  split
  · rename_i hpoisoned
    exact ⟨.poisoned hpoisoned, rfl⟩
  · rename_i hpoisoned
    rw [Bool.not_eq_true] at hpoisoned
    cases hcached : identity.cachedSeed with
    | some seed => exact ⟨.cached hpoisoned hcached, rfl⟩
    | none =>
      dsimp only
      rw [Interaction.run_ask]
      cases (env .entry world).1 with
      | error error => exact ⟨.inaccessible, rfl⟩
      | ok _ =>
        dsimp only
        rw [Interaction.run_ask]
        cases (env .getPassword (env .entry world).2).1 with
        | ok encodedSeed =>
          simp only [Except.mapError, Bind.bind, Except.bind]
          cases hdecode : decodeSeed crates encodedSeed with
          | error error => exact ⟨.undecodable hdecode, rfl⟩
          | ok seed => exact ⟨.read hpoisoned hcached hdecode, rfl⟩
        | error error =>
          cases error with
          | other error => exact ⟨.unreadable, rfl⟩
          | noEntry =>
            dsimp only
            rw [Interaction.run_ask]
            cases (env (.setPassword (crates.base64.encode fresh.toList))
              (env .getPassword (env .entry world).2).2).1 with
            | error error => exact ⟨.unsaved, rfl⟩
            | ok _ => exact ⟨.created hpoisoned hcached, rfl⟩

theorem loaded :
    Loaded crates fresh identity
      (Interaction.run env (identity.loadOrCreate crates fresh) world).exchanges
      (Interaction.run env (identity.loadOrCreate crates fresh) world).value :=
  (loaded_seen crates env fresh identity world).1

/-- The program computes what it does with the answers that it gets. -/
theorem run_loadOrCreate :
    (Interaction.run env (identity.loadOrCreate crates fresh) world).value =
      identity.loadOrCreateSigningKey crates (Keyring.seen env world) fresh :=
  (loaded_seen crates env fresh identity world).2

end Answers

end IdentitySeed

section Commands

variable {σ : Type*} (crates : Crates) (env : KeyringEnvironment σ) (fresh : Seed)
  (identity : IdentitySeed) (world : σ)

/-- The commands do what they do with the answers that they get. -/
theorem Command.run_getOrCreateIdentity :
    (Interaction.run env (Command.getOrCreateIdentity.program crates fresh identity) world).value =
      (((identity.getOrCreateIdentity crates (Keyring.seen env world) fresh).1.map .identity),
        (identity.getOrCreateIdentity crates (Keyring.seen env world) fresh).2) := by
  rw [program, Interaction.run_map, IdentitySeed.run_loadOrCreate]
  unfold IdentitySeed.getOrCreateIdentity
  generalize identity.loadOrCreateSigningKey crates (Keyring.seen env world) fresh = loaded
  obtain ⟨signingKey, identity⟩ := loaded
  cases signingKey <;> rfl

theorem Command.run_signAuthChallenge (request : SignAuthChallengeRequest) :
    (Interaction.run env ((Command.signAuthChallenge request).program crates fresh identity)
        world).value =
      (((identity.signAuthChallenge crates (Keyring.seen env world) fresh request).1.map .signature),
        (identity.signAuthChallenge crates (Keyring.seen env world) fresh request).2) := by
  unfold program IdentitySeed.signAuthChallenge
  dsimp only
  cases decodeNonce crates request.nonceBase64 with
  | error error => rfl
  | ok nonce =>
    dsimp only
    rw [Interaction.run_map, IdentitySeed.run_loadOrCreate]
    generalize identity.loadOrCreateSigningKey crates (Keyring.seen env world) fresh = loaded
    obtain ⟨signingKey, identity⟩ := loaded
    cases signingKey <;> rfl

end Commands

/-! ### Devices -/

/-- A client process, and the state of what answers it. -/
structure Device (σ : Type*) where
  identity : IdentitySeed
  world : σ

inductive DeviceEvent
  /-- The frontend of the process invokes a command. -/
  | call (command : Command) (fresh : Seed)
  /-- A call panics or is killed while it holds the lock, after so many operations. -/
  | interrupt (command : Command) (fresh : Seed) (operations : ℕ)
  /-- The process is over and the next one starts. -/
  | launch

/-- A call, its exchanges with the keyring and its result, unless it was interrupted. -/
structure CallRecord where
  command : Command
  fresh : Seed
  before : IdentitySeed
  exchanges : List KeyringExchange
  result : Option (Except String CommandResponse)
  after : IdentitySeed

namespace Device

variable {σ : Type*} (crates : Crates) (env : KeyringEnvironment σ)

def start (world : σ) : Device σ := ⟨.unset, world⟩

def call (device : Device σ) (command : Command) (fresh : Seed) : CallRecord × Device σ :=
  let outcome := Interaction.run env (command.program crates fresh device.identity) device.world
  (⟨command, fresh, device.identity, outcome.exchanges, some outcome.value.1, outcome.value.2⟩,
    ⟨outcome.value.2, outcome.world⟩)

def interrupt (device : Device σ) (command : Command) (fresh : Seed) (operations : ℕ) :
    CallRecord × Device σ :=
  let outcome := Interaction.run env
    ((command.program crates fresh device.identity).cut operations) device.world
  let identity := { device.identity with poisoned := true }
  (⟨command, fresh, device.identity, outcome.exchanges, none, identity⟩, ⟨identity, outcome.world⟩)

def next (device : Device σ) : DeviceEvent → Device σ
  | .call command fresh => (device.call crates env command fresh).2
  | .interrupt command fresh operations => (device.interrupt crates env command fresh operations).2
  | .launch => start device.world

def records (device : Device σ) : DeviceEvent → List CallRecord
  | .call command fresh => [(device.call crates env command fresh).1]
  | .interrupt command fresh operations =>
    [(device.interrupt crates env command fresh operations).1]
  | .launch => []

def step (device : Device σ) (event : DeviceEvent) : Option (Device σ) :=
  some (device.next crates env event)

/-- The calls of a run. -/
def history (device : Device σ) (events : List DeviceEvent) : List CallRecord :=
  Execution.outputs (step crates env) (records crates env) device events

end Device

/-- The keyring returns what was stored last, and nobody else writes to it. Nothing is assumed of
a read that fails otherwise, nor of a write that fails. -/
structure LastStored {σ : Type*} (env : KeyringEnvironment σ) (stored : σ → Option String) :
    Prop where
  entry : ∀ world, stored (env .entry world).2 = stored world
  getPassword : ∀ world, stored (env .getPassword world).2 = stored world
  found : ∀ world text, (env .getPassword world).1 = .ok text → stored world = some text
  absent : ∀ world, (env .getPassword world).1 = .error .noEntry → stored world = none
  saved : ∀ world password, (env (.setPassword password) world).1 = .ok () →
    stored (env (.setPassword password) world).2 = some password

end VTNet
