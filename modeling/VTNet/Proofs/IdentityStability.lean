import VTNet.IdentityProcess
import VTNet.Reference

/-!
# One identity for a device

A process uses one seed whatever its keyring answers, and writes only where nothing was stored.
With a keyring that keeps what it is given, all processes of a device use the same seed.
-/

namespace VTNet.Proofs

/-! ### What a call can do -/

def IsWrite : KeyringExchange → Prop
  | ⟨.setPassword _, _⟩ => True
  | _ => False

def IsNoEntry : KeyringExchange → Prop
  | ⟨.getPassword, .error .noEntry⟩ => True
  | _ => False

/-- Every `setPassword` directly follows a `getPassword` that found no entry. -/
abbrev WritesAfterNoEntry (exchanges : List KeyringExchange) : Prop :=
  Interaction.DirectlyAfter IsWrite IsNoEntry none exchanges

namespace CallRecord

variable (crates : Crates) (record : CallRecord)

def Succeeded : Prop := ∃ response, record.result = some (.ok response)

/-- The response is that of the seed, and the process keeps the seed. -/
def Used (seed : Seed) : Prop :=
  record.after.cachedSeed = some seed ∧
    ∃ response, record.result = some (.ok response) ∧ record.command.response crates seed = .ok response

/-- The seed was there before, the keyring had it, or it is fresh and the keyring has stored it. -/
def Obtained (seed : Seed) : Prop :=
  record.before.cachedSeed = some seed ∨
    (∃ text, ⟨.getPassword, .ok text⟩ ∈ record.exchanges ∧ decodeSeed crates text = .ok seed) ∨
    (seed = record.fresh ∧
      ⟨.setPassword (crates.base64.encode record.fresh.toList), .ok ()⟩ ∈ record.exchanges)

end CallRecord

section Calls

variable {σ : Type*} {crates : Crates} {env : KeyringEnvironment σ} {fresh : Seed}
  {identity : IdentitySeed} {exchanges : List KeyringExchange}
  {loaded : Except String Seed × IdentitySeed} {seed : Seed}

lemma writes_of_loaded (h : IdentitySeed.Loaded crates fresh identity exchanges loaded) :
    WritesAfterNoEntry exchanges := by
  cases h with
  | unsaved => exact ⟨False.elim, False.elim, fun _ => ⟨_, rfl, trivial⟩, trivial⟩
  | created => exact ⟨False.elim, False.elim, fun _ => ⟨_, rfl, trivial⟩, trivial⟩
  | inaccessible => exact ⟨False.elim, trivial⟩
  | undecodable => exact ⟨False.elim, False.elim, trivial⟩
  | unreadable => exact ⟨False.elim, False.elim, trivial⟩
  | read => exact ⟨False.elim, False.elim, trivial⟩
  | poisoned => trivial
  | cached => trivial

lemma unchanged_of_loaded {error : String}
    (h : IdentitySeed.Loaded crates fresh identity exchanges loaded)
    (herror : loaded.1 = .error error) : loaded.2 = identity := by
  cases h with
  | cached | read | created => cases herror
  | _ => rfl

lemma kept_of_loaded (h : IdentitySeed.Loaded crates fresh identity exchanges loaded)
    (hseed : loaded.1 = .ok seed) : loaded.2.cachedSeed = some seed := by
  cases h with
  | cached _ hcached =>
    cases hseed
    exact hcached
  | read | created =>
    cases hseed
    rfl
  | _ => cases hseed

/-- What is cached stays cached. -/
lemma cached_of_loaded (h : IdentitySeed.Loaded crates fresh identity exchanges loaded)
    (hcached : identity.cachedSeed = some seed) : loaded.2.cachedSeed = some seed := by
  cases h with
  | read _ unset | created _ unset =>
    rw [hcached] at unset
    cases unset
  | _ => exact hcached

/-- A seed that is not cached before comes from the keyring or has been stored there. -/
lemma obtained_of_loaded (h : IdentitySeed.Loaded crates fresh identity exchanges loaded)
    (hseed : loaded.2.cachedSeed = some seed) :
    identity.cachedSeed = some seed ∨
      (∃ text, ⟨.getPassword, .ok text⟩ ∈ exchanges ∧ decodeSeed crates text = .ok seed) ∨
      (seed = fresh ∧
        ⟨.setPassword (crates.base64.encode fresh.toList), .ok ()⟩ ∈ exchanges) := by
  cases h with
  | read _ _ decodes =>
    cases hseed
    exact Or.inr (Or.inl ⟨_, by simp, decodes⟩)
  | created =>
    cases hseed
    exact Or.inr (Or.inr ⟨rfl, by simp⟩)
  | _ => exact Or.inl hseed

/-- Both commands load the signing key and respond with it, unless the request is malformed. -/
lemma program_cases (crates : Crates) (fresh : Seed) (identity : IdentitySeed) (command : Command) :
    (∃ error, command.program crates fresh identity = .done (.error error, identity)) ∨
      ∃ respond : Seed → CommandResponse,
        (∀ seed, command.response crates seed = .ok (respond seed)) ∧
        command.program crates fresh identity =
          (identity.loadOrCreate crates fresh).map fun loaded => (loaded.1.map respond, loaded.2) := by
  cases command with
  | getOrCreateIdentity => exact Or.inr ⟨_, fun _ => rfl, rfl⟩
  | signAuthChallenge request =>
    cases hnonce : decodeNonce crates request.nonceBase64 with
    | error error =>
      left
      refine ⟨error, ?_⟩
      simp only [Command.program, hnonce]
    | ok nonce =>
      right
      refine ⟨fun seed => .signature (crates.base64.encode (crates.ed25519.sign seed
        (challengePayload crates seed request.protocolVersion nonce
          request.serverTimestamp)).toList), ?_, ?_⟩
      · intro seed
        simp only [Command.response, hnonce]
        rfl
      · simp only [Command.program, hnonce]

/-- What holds of every call, whatever the keyring answers. -/
structure CallRecord.Sound (crates : Crates) (record : CallRecord) : Prop where
  writes : WritesAfterNoEntry record.exchanges
  unchanged : ¬CallRecord.Succeeded record → record.after.cachedSeed = record.before.cachedSeed
  kept : ∀ seed, record.before.cachedSeed = some seed → record.after.cachedSeed = some seed
  used : CallRecord.Succeeded record → ∃ seed, CallRecord.Used crates record seed
  obtained : ∀ seed, record.after.cachedSeed = some seed → CallRecord.Obtained crates record seed

variable (crates env) (device : Device σ) (command : Command) (fresh : Seed)

lemma writes_of_program (identity : IdentitySeed) (world : σ) : WritesAfterNoEntry
    (Interaction.run env (command.program crates fresh identity) world).exchanges := by
  rcases program_cases crates fresh identity command with ⟨error, he⟩ | ⟨respond, -, he⟩
  · rw [he]
    trivial
  · rw [he, Interaction.run_map]
    exact writes_of_loaded (identity.loaded crates env fresh world)

theorem call_sound : CallRecord.Sound crates (device.call crates env command fresh).1 := by
  have hwrites := writes_of_program crates env command fresh device.identity device.world
  unfold Device.call
  rcases program_cases crates fresh device.identity command with
    ⟨error, he⟩ | ⟨respond, hrespond, he⟩
  · rw [he] at hwrites ⊢
    refine ⟨hwrites, fun _ => rfl, fun _ h => h, ?_, fun _ h => Or.inl h⟩
    rintro ⟨response, hresponse⟩
    cases hresponse
  · have hloaded := device.identity.loaded crates env fresh device.world
    rw [he, Interaction.run_map] at hwrites ⊢
    dsimp only at hwrites ⊢
    generalize (Interaction.run env (device.identity.loadOrCreate crates fresh) device.world).value =
      loaded at hloaded
    refine ⟨hwrites, ?_, fun seed h => cached_of_loaded hloaded h, ?_,
      fun seed h => obtained_of_loaded hloaded h⟩
    · intro hfailed
      cases hkey : loaded.1 with
      | error error => exact congrArg IdentitySeed.cachedSeed (unchanged_of_loaded hloaded hkey)
      | ok seed =>
        refine absurd ⟨respond seed, ?_⟩ hfailed
        dsimp only
        rw [hkey]
        rfl
    · rintro ⟨response, hresponse⟩
      cases hkey : loaded.1 with
      | error error =>
        rw [hkey] at hresponse
        cases hresponse
      | ok seed =>
        exact ⟨seed, kept_of_loaded hloaded hkey, respond seed, rfl, hrespond seed⟩

theorem interrupt_sound (operations : ℕ) :
    CallRecord.Sound crates (device.interrupt crates env command fresh operations).1 := by
  have hwrites := writes_of_program crates env command fresh device.identity device.world
  have hcut := hwrites.take operations
  rw [← Interaction.exchanges_cut] at hcut
  refine ⟨hcut, fun _ => rfl, fun _ h => h, ?_, fun _ h => Or.inl h⟩
  rintro ⟨response, hresponse⟩
  cases hresponse

lemma records_sound {device : Device σ} {event : DeviceEvent} {record : CallRecord}
    (h : record ∈ device.records crates env event) :
    CallRecord.Sound crates record := by
  cases event with
  | call command fresh =>
    rw [List.mem_singleton.mp h]
    exact call_sound crates env device command fresh
  | interrupt command fresh operations =>
    rw [List.mem_singleton.mp h]
    exact interrupt_sound crates env device command fresh operations
  | launch => cases h

/-- Every call of every run is sound. -/
theorem history_sound {device : Device σ} {events : List DeviceEvent} {record : CallRecord}
    (h : record ∈ device.history crates env events) : CallRecord.Sound crates record := by
  induction events generalizing device with
  | nil => cases h
  | cons event events ih =>
    rcases List.mem_append.mp h with h | h
    · exact records_sound crates env h
    · exact ih h

end Calls

/-! ### The seed of a process -/

section Devices

variable {σ : Type*} {crates : Crates} {env : KeyringEnvironment σ} {device : Device σ}
  {event : DeviceEvent} {record : CallRecord} {seed : Seed}

/-- Every call of a step starts from the process and leaves it as it is after the step. -/
lemma records_ends (h : record ∈ device.records crates env event) :
    record.before = device.identity ∧ record.after = (device.next crates env event).identity := by
  cases event with
  | call command fresh =>
    rw [List.mem_singleton.mp h]
    exact ⟨rfl, rfl⟩
  | interrupt command fresh operations =>
    rw [List.mem_singleton.mp h]
    exact ⟨rfl, rfl⟩
  | launch => cases h

/-- The process keeps its seed as long as it lives. -/
lemma cached_next (hevent : event ≠ .launch) (hcached : device.identity.cachedSeed = some seed) :
    (device.next crates env event).identity.cachedSeed = some seed := by
  cases event with
  | call command fresh => exact (call_sound crates env device command fresh).kept seed hcached
  | interrupt command fresh operations => exact hcached
  | launch => exact absurd rfl hevent

lemma device_runs (crates : Crates) (env : KeyringEnvironment σ) (device : Device σ)
    (events : List DeviceEvent) :
    ∃ device', Execution.exec (Device.step crates env) device events = some device' := by
  induction events generalizing device with
  | nil => exact ⟨device, rfl⟩
  | cons event events ih => exact ih (device.next crates env event)

variable {world : σ} {events : List DeviceEvent}

/-- The seeds of the calls that succeeded are the one that the process keeps. -/
lemma used_of_process
    (hrun : Execution.exec (Device.step crates env) (Device.start world) events = some device)
    (hlaunch : .launch ∉ events) :
    ∀ record ∈ (Device.start world).history crates env events, CallRecord.Succeeded record →
      ∃ seed, device.identity.cachedSeed = some seed ∧ CallRecord.Used crates record seed := by
  revert hlaunch
  apply Execution.outputs_induction (Device.step crates env) (Device.records crates env)
    (motive := fun events records device => .launch ∉ events → ∀ record ∈ records,
      CallRecord.Succeeded record →
      ∃ seed, device.identity.cachedSeed = some seed ∧ CallRecord.Used crates record seed)
    (fun _ _ h => by cases h) ?_ events device hrun
  intro before records now event next _ ih hstep hlaunch record hrecord hsucceeded
  cases hstep
  rw [List.mem_append, List.mem_singleton, not_or] at hlaunch
  rcases List.mem_append.mp hrecord with hrecord | hrecord
  · obtain ⟨seed, hcached, hseed⟩ := ih hlaunch.1 record hrecord hsucceeded
    exact ⟨seed, cached_next (Ne.symm hlaunch.2) hcached, hseed⟩
  · obtain ⟨seed, hseed⟩ := (records_sound crates env hrecord).used hsucceeded
    refine ⟨seed, ?_, hseed⟩
    rw [← (records_ends hrecord).2]
    exact hseed.1

/-! ### The seed of a device -/

variable {stored : σ → Option String}

/-- The keyring has the seed. -/
def HasStored (crates : Crates) (stored : σ → Option String) (seed : Seed) (world : σ) : Prop :=
  ∃ text, stored world = some text ∧ decodeSeed crates text = .ok seed

/-- Nothing is stored when something is written. -/
def WritesNew (stored : σ → Option String) (op : KeyringOp) (world : σ) : Prop :=
  ∀ password, op = .setPassword password → stored world = none

/-- A seed that gets cached is stored. -/
lemma loadOrCreate_guarantees (hstored : LastStored env stored)
    (hbase64 : crates.base64.DecodeInvertsEncode) (fresh : Seed) (identity : IdentitySeed)
    (world : σ) :
    Interaction.Guarantees env (WritesNew stored)
      (fun loaded world => ∀ seed, loaded.2.cachedSeed = some seed →
        identity.cachedSeed = some seed ∨ HasStored crates stored seed world)
      (identity.loadOrCreate crates fresh) world := by
  unfold IdentitySeed.loadOrCreate
  split
  · exact fun _ h => Or.inl h
  · cases hcached : identity.cachedSeed with
    | some cached =>
      intro seed h
      rw [hcached] at h
      exact Or.inl h
    | none =>
      have hunset : ∀ world' seed, identity.cachedSeed = some seed →
          none = some seed ∨ HasStored crates stored seed world' := by
        intro world' seed h
        rw [hcached] at h
        cases h
      refine ⟨(fun _ h => by cases h), ?_⟩
      cases (env .entry world).1 with
      | error error => exact hunset _
      | ok _ =>
        refine ⟨(fun _ h => by cases h), ?_⟩
        have hfound := hstored.found (env .entry world).2
        have habsent := hstored.absent (env .entry world).2
        have hkept := hstored.getPassword (env .entry world).2
        cases hanswer : (env .getPassword (env .entry world).2).1 with
        | ok text =>
          dsimp only
          cases hdecode : decodeSeed crates text with
          | error error => exact hunset _
          | ok seed =>
            intro seed' h
            cases h
            exact Or.inr ⟨text, hkept.trans (hfound text hanswer), hdecode⟩
        | error error =>
          cases error with
          | other error => exact hunset _
          | noEntry =>
            refine ⟨fun _ _ => hkept.trans (habsent hanswer), ?_⟩
            have hsaved := hstored.saved (env .getPassword (env .entry world).2).2
              (crates.base64.encode fresh.toList)
            cases hwrite : (env (.setPassword (crates.base64.encode fresh.toList))
              (env .getPassword (env .entry world).2).2).1 with
            | error error => exact hunset _
            | ok _ =>
              intro seed h
              cases h
              exact Or.inr ⟨_, hsaved hwrite, decodeBytes_encode hbase64 fresh _ _⟩

lemma program_guarantees (hstored : LastStored env stored)
    (hbase64 : crates.base64.DecodeInvertsEncode) (fresh : Seed) (identity : IdentitySeed)
    (command : Command) (world : σ) :
    Interaction.Guarantees env (WritesNew stored)
      (fun value world => ∀ seed, value.2.cachedSeed = some seed →
        identity.cachedSeed = some seed ∨ HasStored crates stored seed world)
      (command.program crates fresh identity) world := by
  rcases program_cases crates fresh identity command with ⟨error, he⟩ | ⟨respond, -, he⟩
  · rw [he]
    exact fun _ h => Or.inl h
  · rw [he]
    apply Interaction.Guarantees.map
    exact loadOrCreate_guarantees hstored hbase64 fresh identity world

lemma stored_op (hstored : LastStored env stored) (text : String) (op : KeyringOp) (world : σ)
    (hnew : WritesNew stored op world) (htext : stored world = some text) :
    stored (env op world).2 = some text := by
  cases op with
  | entry => exact (hstored.entry world).trans htext
  | getPassword => exact (hstored.getPassword world).trans htext
  | setPassword password =>
    rw [hnew password rfl] at htext
    cases htext

lemma stored_next (hstored : LastStored env stored) (hbase64 : crates.base64.DecodeInvertsEncode)
    {text : String} (htext : stored device.world = some text) (event : DeviceEvent) :
    stored (device.next crates env event).world = some text := by
  cases event with
  | call command fresh =>
    exact (program_guarantees hstored hbase64 fresh device.identity command device.world).preserved
      (P := fun world => stored world = some text) (stored_op hstored text) htext
  | interrupt command fresh operations =>
    exact (program_guarantees hstored hbase64 fresh device.identity command
      device.world).preserved_cut (P := fun world => stored world = some text)
      (stored_op hstored text) operations htext
  | launch => exact htext

/-- What is stored stays stored. -/
lemma stored_exec (hstored : LastStored env stored) (hbase64 : crates.base64.DecodeInvertsEncode)
    {text : String} {events : List DeviceEvent} {device' : Device σ}
    (hrun : Execution.exec (Device.step crates env) device events = some device')
    (htext : stored device.world = some text) : stored device'.world = some text := by
  apply Execution.exec_induction (Device.step crates env)
    (motive := fun _ device' => stored device'.world = some text) htext ?_ events device' hrun
  intro _ now event next _ ih hstep
  cases hstep
  exact stored_next hstored hbase64 ih event

lemma hasStored_next (hstored : LastStored env stored)
    (hbase64 : crates.base64.DecodeInvertsEncode) (event : DeviceEvent)
    (h : HasStored crates stored seed device.world) :
    HasStored crates stored seed (device.next crates env event).world := by
  obtain ⟨text, htext, hdecode⟩ := h
  exact ⟨text, stored_next hstored hbase64 htext event, hdecode⟩

/-- The seed that a process caches is stored. -/
lemma cached_stored_next (hstored : LastStored env stored)
    (hbase64 : crates.base64.DecodeInvertsEncode) (event : DeviceEvent)
    (h : ∀ seed, device.identity.cachedSeed = some seed →
      HasStored crates stored seed device.world) :
    ∀ seed, (device.next crates env event).identity.cachedSeed = some seed →
      HasStored crates stored seed (device.next crates env event).world := by
  intro seed hseed
  cases event with
  | call command fresh =>
    have hpost := (program_guarantees hstored hbase64 fresh device.identity command
      device.world).post
    rcases hpost seed hseed with hcached | hnew
    · exact hasStored_next hstored hbase64 (.call command fresh) (h seed hcached)
    · exact hnew
  | interrupt command fresh operations =>
    exact hasStored_next hstored hbase64 (.interrupt command fresh operations) (h seed hseed)
  | launch => cases hseed

/-- The seeds of the calls that succeeded are stored. -/
lemma used_of_device (hstored : LastStored env stored)
    (hbase64 : crates.base64.DecodeInvertsEncode)
    (hrun : Execution.exec (Device.step crates env) (Device.start world) events = some device) :
    (∀ seed, device.identity.cachedSeed = some seed →
      HasStored crates stored seed device.world) ∧
    ∀ record ∈ (Device.start world).history crates env events, CallRecord.Succeeded record →
      ∃ seed, HasStored crates stored seed device.world ∧ CallRecord.Used crates record seed := by
  apply Execution.outputs_induction (Device.step crates env) (Device.records crates env)
    (motive := fun _ records device => (∀ seed, device.identity.cachedSeed = some seed →
        HasStored crates stored seed device.world) ∧
      ∀ record ∈ records, CallRecord.Succeeded record →
        ∃ seed, HasStored crates stored seed device.world ∧ CallRecord.Used crates record seed)
    ⟨(fun _ h => by cases h), (fun _ h => by cases h)⟩ ?_ events device hrun
  rintro before records now event next - ⟨hcached, hused⟩ hstep
  cases hstep
  have hcached' := cached_stored_next hstored hbase64 event hcached
  refine ⟨hcached', ?_⟩
  intro record hrecord hsucceeded
  rcases List.mem_append.mp hrecord with hrecord | hrecord
  · obtain ⟨seed, hseed, hrecord⟩ := hused record hrecord hsucceeded
    exact ⟨seed, hasStored_next hstored hbase64 event hseed, hrecord⟩
  · obtain ⟨seed, hseed⟩ := (records_sound crates env hrecord).used hsucceeded
    refine ⟨seed, hcached' seed ?_, hseed⟩
    rw [← (records_ends hrecord).2]
    exact hseed.1

/-- Calls that have all used the only seed of some kind have used one seed. -/
lemma one_seed {records : List CallRecord} {P : Seed → Prop} (unique : ∀ a b, P a → P b → a = b)
    (h : ∀ record ∈ records, CallRecord.Succeeded record →
      ∃ seed, P seed ∧ CallRecord.Used crates record seed) :
    ∃ seed, ∀ record ∈ records, CallRecord.Succeeded record →
      P seed ∧ CallRecord.Used crates record seed := by
  by_cases hex : ∃ seed, P seed
  · obtain ⟨seed, hseed⟩ := hex
    refine ⟨seed, ?_⟩
    intro record hrecord hsucceeded
    obtain ⟨seed', hseed', hused⟩ := h record hrecord hsucceeded
    rw [unique seed' seed hseed' hseed] at hused
    exact ⟨hseed, hused⟩
  · refine ⟨Bytes.Fixed.replicate 32 0, ?_⟩
    intro record hrecord hsucceeded
    obtain ⟨seed, hseed, -⟩ := h record hrecord hsucceeded
    exact absurd ⟨seed, hseed⟩ hex

lemma HasStored.unique {seed' : Seed} (h : HasStored crates stored seed world)
    (h' : HasStored crates stored seed' world) : seed = seed' := by
  obtain ⟨text, htext, hdecode⟩ := h
  obtain ⟨text', htext', hdecode'⟩ := h'
  rw [htext] at htext'
  cases htext'
  exact Except.ok.inj (hdecode.symm.trans hdecode')

/-- An identity that is returned is that of the seed. -/
lemma identity_of_used {userUid : UserUid} (h : CallRecord.Used crates record seed)
    (hresult : record.result = some (.ok (.identity userUid))) : userUid = userUidOf crates seed := by
  obtain ⟨-, response, hresponse, hseed⟩ := h
  rw [hresult] at hresponse
  cases hresponse
  cases hcommand : record.command with
  | getOrCreateIdentity =>
    rw [hcommand] at hseed
    cases hseed
    rfl
  | signAuthChallenge request =>
    rw [hcommand, Command.response] at hseed
    cases hnonce : decodeNonce crates request.nonceBase64 with
    | error error =>
      rw [hnonce] at hseed
      cases hseed
    | ok nonce =>
      rw [hnonce] at hseed
      cases hseed

end Devices

/-- Every `setPassword` of a list of calls directly follows an answer that there is no entry. -/
def NeverOverwrites (records : List CallRecord) : Prop :=
  ∀ before password answer after,
    records.flatMap CallRecord.exchanges = before ++ ⟨.setPassword password, answer⟩ :: after →
    ∃ earlier, before = earlier ++ [⟨.getPassword, .error .noEntry⟩]

lemma neverOverwrites {records : List CallRecord}
    (h : ∀ record ∈ records, WritesAfterNoEntry record.exchanges) : NeverOverwrites records := by
  intro before password answer after hsplit
  have hwrites := Interaction.DirectlyAfter.flatMap h
  rw [hsplit] at hwrites
  obtain ⟨earlier, ⟨op, found⟩, hbefore, hfound⟩ := hwrites.split trivial
  refine ⟨earlier, ?_⟩
  rw [hbefore]
  cases op with
  | getPassword =>
    cases found with
    | error error =>
      cases error with
      | noEntry => rfl
      | other error => exact hfound.elim
    | ok text => exact hfound.elim
  | _ => exact hfound.elim

/-- Whatever the keyring answers, the calls of one process that succeed use one seed, a call that
does not succeed leaves the cached seed alone, nothing is written but directly after the keyring
had no entry, and a seed is new to a process only if the keyring had it or has stored it. With a
keyring that returns what was stored last, this seed is the same for all processes of a device,
what is stored is never overwritten, and the seed of every identity that was returned is stored. -/
theorem identity_stable {σ : Type*} (crates : Crates) (env : KeyringEnvironment σ) (world : σ)
    (events : List DeviceEvent) :
    (.launch ∉ events → ∃ seed, ∀ record ∈ (Device.start world).history crates env events,
      CallRecord.Succeeded record → CallRecord.Used crates record seed) ∧
    (∀ record ∈ (Device.start world).history crates env events,
      ¬CallRecord.Succeeded record → record.after.cachedSeed = record.before.cachedSeed) ∧
    NeverOverwrites ((Device.start world).history crates env events) ∧
    (∀ record ∈ (Device.start world).history crates env events, ∀ seed,
      CallRecord.Used crates record seed → CallRecord.Obtained crates record seed) ∧
    ∀ stored, LastStored env stored → crates.base64.DecodeInvertsEncode →
      ∃ device seed, Execution.exec (Device.step crates env) (Device.start world) events =
          some device ∧
        (∀ before now text, before <+: events →
          Execution.exec (Device.step crates env) (Device.start world) before = some now →
          stored now.world = some text → stored device.world = some text) ∧
        ∀ record ∈ (Device.start world).history crates env events, CallRecord.Succeeded record →
          CallRecord.Used crates record seed ∧ HasStored crates stored seed device.world ∧
          ∀ userUid, record.result = some (.ok (.identity userUid)) →
            userUid = userUidOf crates seed := by
  obtain ⟨device, hrun⟩ := device_runs crates env (Device.start world) events
  have hsound : ∀ record ∈ (Device.start world).history crates env events,
      CallRecord.Sound crates record := fun _ h => history_sound crates env h
  refine ⟨?_, fun record hrecord => (hsound record hrecord).unchanged,
    neverOverwrites fun record hrecord => (hsound record hrecord).writes,
    fun record hrecord seed hused => (hsound record hrecord).obtained seed hused.1, ?_⟩
  · intro hlaunch
    obtain ⟨seed, hseed⟩ := one_seed
      (P := fun seed => device.identity.cachedSeed = some seed)
      (fun a b ha hb => Option.some.inj (ha.symm.trans hb)) (used_of_process hrun hlaunch)
    exact ⟨seed, fun record hrecord hsucceeded => (hseed record hrecord hsucceeded).2⟩
  · intro stored hstored hbase64
    obtain ⟨seed, hseed⟩ := one_seed
      (P := fun seed => HasStored crates stored seed device.world)
      (fun a b ha hb => ha.unique hb) (used_of_device hstored hbase64 hrun).2
    refine ⟨device, seed, hrun, ?_, ?_⟩
    · intro before now text hbefore hnow htext
      obtain ⟨rest, rfl⟩ := hbefore
      rw [Execution.exec_append, hnow, Option.bind_some] at hrun
      exact stored_exec hstored hbase64 hrun htext
    · intro record hrecord hsucceeded
      obtain ⟨hstoredSeed, husedSeed⟩ := hseed record hrecord hsucceeded
      exact ⟨husedSeed, hstoredSeed, fun _ hresult => identity_of_used husedSeed hresult⟩

/-- A keyring that does not fail. Its state is what it has stored. -/
def plainKeyring : KeyringEnvironment (Option String)
  | .entry, stored => (.ok (), stored)
  | .getPassword, some text => (.ok text, some text)
  | .getPassword, none => (.error .noEntry, none)
  | .setPassword password, _ => (.ok (), some password)

lemma plainKeyring_lastStored : LastStored plainKeyring id where
  entry _ := rfl
  getPassword world := by cases world <;> rfl
  found world text h := by
    cases world with
    | none => cases h
    | some stored =>
      cases h
      rfl
  absent world h := by
    cases world with
    | none => rfl
    | some stored => cases h
  saved _ _ _ := rfl

/-- Two processes ask for the identity, and the random generator differs. -/
def twoProcesses : List DeviceEvent :=
  [.call .getOrCreateIdentity Reference.first.seed, .launch,
    .call .getOrCreateIdentity Reference.second.seed]

theorem identity_stable_twoProcesses :
    ((Device.start none).history Reference.crates plainKeyring twoProcesses).map
        CallRecord.result =
      [some (.ok (.identity ⟨Reference.first.key⟩)), some (.ok (.identity ⟨Reference.first.key⟩))] ∧
    ∃ device seed, Execution.exec (Device.step Reference.crates plainKeyring)
        (Device.start none) twoProcesses = some device ∧
      ∀ record ∈ (Device.start none).history Reference.crates plainKeyring twoProcesses,
        CallRecord.Succeeded record → CallRecord.Used Reference.crates record seed ∧
          HasStored Reference.crates id seed device.world := by
  obtain ⟨-, -, -, -, hdevice⟩ := identity_stable Reference.crates plainKeyring none twoProcesses
  obtain ⟨device, seed, hrun, -, hused⟩ :=
    hdevice id plainKeyring_lastStored Reference.base64_decodes
  refine ⟨by decide +kernel, device, seed, hrun, ?_⟩
  intro record hrecord hsucceeded
  obtain ⟨hseed, hstored, -⟩ := hused record hrecord hsucceeded
  exact ⟨hseed, hstored⟩

end VTNet.Proofs
