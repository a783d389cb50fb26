import VTNet.Lib.Script
import VTNet.Proofs.DeviceLogin
import VTNet.Proofs.PresenceInvariant
import VTNet.Proofs.Serialization

/-!
# A device gets in again

Whatever the server has been through and whatever the other connections do meanwhile, a device
that is not connected can open a connection and log in.
-/

namespace VTNet.Proofs

open ConnectionAuthenticator

/-- What a connection sends to log in, and what the server draws and reads then. -/
structure Attempt where
  userUid : UserUid
  identifyText : String
  responseText : String
  nonce : Nonce
  nonce' : Nonce
  serverTimestamp : UInt64
  serverTimestamp' : UInt64
  t0 : Instant
  t1 : Instant

namespace Attempt

variable (attempt : Attempt) (crates : Crates)

def challenge : AuthChallenge :=
  ⟨attempt.userUid, protocolVersionSupported, attempt.nonce, attempt.serverTimestamp, attempt.t0⟩

/-- The answer is given in time and its signature verifies. -/
structure Sound : Prop where
  identify : decodeClientMessage crates attempt.identifyText =
    .ok (.authIdentify protocolVersion attempt.userUid)
  response : ∃ signatureBase64, decodeClientMessage crates attempt.responseText =
    .ok (.authResponse signatureBase64) ∧ Accepts crates attempt.challenge signatureBase64 attempt.t1

def actions (c : ConnId) : List Action :=
  [.accept c, .receive c (.text attempt.identifyText) attempt.nonce attempt.serverTimestamp attempt.t0,
    .reply c,
    .receive c (.text attempt.responseText) attempt.nonce' attempt.serverTimestamp' attempt.t1,
    .register c, .reply c]

def challenged : ServerMessage :=
  .authChallenge (crates.base64.encode attempt.nonce.toList) attempt.serverTimestamp

def welcome : ServerMessage :=
  .authSuccess attempt.userUid (defaultDisplayName attempt.userUid) serverName

/-- The task after so many of the actions. -/
def task : ℕ → Option SocketTask
  | 0 => none
  | 1 => some SocketTask.start
  | 2 => some ⟨⟨serverName, .challengeIssued attempt.challenge⟩, none, false,
      .replying (attempt.challenged crates)⟩
  | 3 => some ⟨⟨serverName, .challengeIssued attempt.challenge⟩, none, false, .reading⟩
  | 4 => some ⟨⟨serverName, .connected⟩, none, false,
      .registering (sessionOf attempt.challenge) attempt.welcome⟩
  | 5 => some ⟨⟨serverName, .connected⟩, some (sessionOf attempt.challenge), true,
      .replying attempt.welcome⟩
  | _ => some ⟨⟨serverName, .connected⟩, some (sessionOf attempt.challenge), true, .reading⟩

/-- The log after so many of the actions. -/
def log : ℕ → List ServerMessage
  | 0 | 1 | 2 => []
  | 3 | 4 | 5 => [attempt.challenged crates]
  | _ => [attempt.challenged crates, attempt.welcome]

/-- How far the attempt of a connection is. -/
structure Reached (c : ConnId) (k : ℕ) (system : System) : Prop where
  inv : Inv system
  task : system.tasks c = attempt.task crates k
  log : system.outbound c = attempt.log crates k

end Attempt

section Steps

variable {crates : Crates} {attempt : Attempt} {c : ConnId} {k : ℕ} {system system' : System}
  {action : Action}

/-- The attempt leads to no room. -/
lemma Attempt.Reached.room (h : attempt.Reached crates c k system) :
    system.roster.room c = none := by
  have hsession : ∀ s, system.roster c = some s → s = sessionOf attempt.challenge := by
    intro s hs
    obtain ⟨task, htask, hs⟩ := Option.bind_eq_some_iff.mp hs
    rw [h.task] at htask
    unfold Attempt.task at htask
    split at htask
    all_goals
      cases htask
      try cases hs
      try rfl
  cases hs : system.roster c with
  | none => simp [Roster.room, hs]
  | some s =>
    rw [Roster.room_of_some hs, hsession s hs]
    rfl

/-- What the other connections do does not matter to it. -/
lemma Attempt.Reached.other (h : attempt.Reached crates c k system)
    (hstep : system.step crates action = some system') (hother : c ≠ action.actor) :
    attempt.Reached crates c k system' := by
  have hrefines := step_refines h.inv hstep
  refine ⟨hrefines.inv, ?_, ?_⟩
  · rw [(System.stepped_of_step hstep).task_other hother]
    exact h.task
  · rw [hrefines.outbound, heard_nil_of_other h.inv hstep hother h.room, List.append_nil]
    exact h.log

lemma accepted_of_stepped (h : System.Stepped crates system action system') :
    ∃ task, system'.tasks action.actor = some task := by
  cases h with
  | @register c task session serverMessage =>
    unfold System.register
    split
    · exact ⟨_, Function.update_self ..⟩
    · exact ⟨_, Function.update_self ..⟩
  | @disconnect c task =>
    unfold System.disconnect
    split
    · exact ⟨_, Function.update_self ..⟩
    · exact ⟨_, Function.update_self ..⟩
  | _ => exact ⟨_, Function.update_self ..⟩

/-- A connection that has not been accepted has heard nothing. -/
lemma silent_of_unaccepted (h : Reachable crates system) (hfree : system.tasks c = none) :
    system.outbound c = [] := by
  revert hfree
  refine @Execution.invariant_of_reachable_step _ _ _
    (fun system => system.tasks c = none → system.outbound c = []) _ (fun _ => rfl) ?_ _ h
  intro system action system' hreachable ih hstep hfree
  have hinv := inv_of_reachable hreachable
  have hstepped := System.stepped_of_step hstep
  have hother : c ≠ action.actor := by
    rintro rfl
    obtain ⟨task, htask⟩ := accepted_of_stepped hstepped
    rw [hfree] at htask
    cases htask
  rw [hstepped.task_other hother] at hfree
  have hroom : system.roster.room c = none := by simp [Roster.room, System.roster, hfree]
  rw [(step_refines hinv hstep).outbound, heard_nil_of_other hinv hstep hother hroom,
    List.append_nil]
  exact ih hfree

/-! ### The attempt -/

lemma receive_identify (hsound : attempt.Sound crates) :
    SocketTask.start.receive crates (.text attempt.identifyText) attempt.nonce
        attempt.serverTimestamp attempt.t0 =
      ⟨⟨serverName, .challengeIssued attempt.challenge⟩, none, false,
        .replying (attempt.challenged crates)⟩ := by
  have hidentify : handleMessage crates (ConnectionAuthenticator.new serverName)
      (.authIdentify protocolVersion attempt.userUid) attempt.nonce attempt.serverTimestamp
        attempt.t0 = _ := handleMessage_identify rfl attempt.userUid
  simp only [SocketTask.receive, hsound.identify, SocketTask.start, Option.isSome_none,
    Bool.false_eq_true, if_false, hidentify]
  rfl

lemma receive_response (hsound : attempt.Sound crates) :
    SocketTask.receive crates
        ⟨⟨serverName, .challengeIssued attempt.challenge⟩, none, false, .reading⟩
        (.text attempt.responseText) attempt.nonce' attempt.serverTimestamp' attempt.t1 =
      ⟨⟨serverName, .connected⟩, none, false,
        .registering (sessionOf attempt.challenge) attempt.welcome⟩ := by
  obtain ⟨signatureBase64, hresponse, haccepts⟩ := hsound.response
  have haccepted : handleMessage crates ⟨serverName, .challengeIssued attempt.challenge⟩
      (.authResponse signatureBase64) attempt.nonce' attempt.serverTimestamp' attempt.t1 = _ :=
    handleMessage_accepted rfl haccepts
  simp only [SocketTask.receive, hresponse, Option.isSome_none, Bool.false_eq_true, if_false,
    haccepted]
  rfl

/-- Where the identity is free, each action leads to the next one. -/
lemma Attempt.Reached.turn (hsound : attempt.Sound crates)
    (h : attempt.Reached crates c k system) (hnext : (attempt.actions c)[k]? = some action)
    (hstep : system.step crates action = some system')
    (hfree : action = .register c → system.state.connections attempt.userUid = none) :
    attempt.Reached crates c (k + 1) system' := by
  have hinv := (step_refines h.inv hstep).inv
  have htask := h.task
  have hlog := h.log
  have hactor : ∀ task, (system.setTask c task).tasks c = some task :=
    fun task => Function.update_self ..
  have hsent : ∀ message, (system.outbound.send c message) c = system.outbound c ++ [message] :=
    fun message => Function.update_self ..
  match k with
  | 0 =>
    obtain rfl := Option.some.inj hnext
    cases System.stepped_of_step hstep with
    | accept free => exact ⟨hinv, hactor _, hlog⟩
  | 1 =>
    obtain rfl := Option.some.inj hnext
    cases System.stepped_of_step hstep with
    | receive _ _ _ _ running reading =>
      obtain rfl := Option.some.inj (htask.symm.trans running)
      refine ⟨hinv, ?_, hlog⟩
      rw [hactor, receive_identify hsound]
      rfl
  | 2 =>
    obtain rfl := Option.some.inj hnext
    cases System.stepped_of_step hstep with
    | reply running replying =>
      obtain rfl := Option.some.inj (htask.symm.trans running)
      cases replying
      refine ⟨hinv, hactor _, ?_⟩
      exact (hsent _).trans (by rw [hlog]; rfl)
  | 3 =>
    obtain rfl := Option.some.inj hnext
    cases System.stepped_of_step hstep with
    | receive _ _ _ _ running reading =>
      obtain rfl := Option.some.inj (htask.symm.trans running)
      refine ⟨hinv, ?_, hlog⟩
      rw [hactor, receive_response hsound]
      rfl
  | 4 =>
    obtain rfl := Option.some.inj hnext
    cases System.stepped_of_step hstep with
    | register running registering =>
      obtain rfl := Option.some.inj (htask.symm.trans running)
      cases registering
      have hnobody : ¬(system.state.connections (sessionOf attempt.challenge).userUid).isSome := by
        rw [Option.not_isSome_iff_eq_none]
        exact hfree rfl
      rw [System.register, if_neg hnobody] at hinv ⊢
      exact ⟨hinv, hactor _, hlog⟩
  | 5 =>
    obtain rfl := Option.some.inj hnext
    cases System.stepped_of_step hstep with
    | reply running replying =>
      obtain rfl := Option.some.inj (htask.symm.trans running)
      cases replying
      refine ⟨hinv, hactor _, ?_⟩
      exact (hsent _).trans (by rw [hlog]; rfl)
  | k + 6 => cases hnext

/-- No action has to wait for another connection. -/
lemma Attempt.Reached.enabled (h : attempt.Reached crates c k system)
    (hnext : (attempt.actions c)[k]? = some action) : (system.step crates action).isSome := by
  have htask := h.task
  match k with
  | 0 | 1 | 2 | 3 | 4 | 5 =>
    obtain rfl := Option.some.inj hnext
    simp [System.step, htask, Attempt.task, SocketTask.start]
  | k + 6 => cases hnext

/-- An identity that nobody is registered for has no entry. -/
lemma free_of_unregistered (h : Inv system) {userUid : UserUid}
    (hnobody : ∀ d s, system.Registered d s → s.userUid ≠ userUid) :
    system.state.connections userUid = none := by
  by_contra hsome
  obtain ⟨d, hd⟩ := Option.ne_none_iff_exists'.mp hsome
  obtain ⟨s, hs, huid⟩ := (h.tracks.connections_iff userUid d).mp hd
  exact hnobody d s ((registered_iff h).mpr hs) huid

/-- The attempt of a connection among the actions of the others. -/
lemma reached_of_run (hsound : attempt.Sound crates) (hreachable : Reachable crates system)
    (hunaccepted : system.tasks c = none) {actions : List Action}
    (hrun : Execution.exec (System.step crates) system actions = some system')
    (hscript : actions.filter (·.actor = c) <+: attempt.actions c)
    (hnobody : ∀ before there, before ++ [.register c] <+: actions →
      Execution.exec (System.step crates) system before = some there →
      ∀ d s, there.Registered d s → s.userUid ≠ attempt.userUid) :
    attempt.Reached crates c (actions.filter (·.actor = c)).length system' := by
  have init : attempt.Reached crates c 0 system :=
    ⟨inv_of_reachable hreachable, hunaccepted, silent_of_unaccepted hreachable hunaccepted⟩
  refine @Execution.exec_script _ _ _ _ _ (attempt.Reached crates c) _ _ init ?_ ?_ _ hrun hscript
  · intro k there action next hother hstep hreached
    exact hreached.other hstep (Ne.symm (of_decide_eq_false hother))
  · intro before k action there next hbefore hexec _ hnext hstep hreached
    refine hreached.turn hsound hnext hstep ?_
    rintro rfl
    exact free_of_unregistered hreached.inv (hnobody before there hbefore hexec)

end Steps

/-- In every reachable state of the server a device can log in on a new connection. Whatever the
others do in between, none of its steps has to wait for them, and once they are taken it is
registered with the identity that any process of the device was given, unless somebody else was
when it got the lock. -/
theorem device_connects {σ : Type*} {crates : Crates}
    (hbase64 : crates.base64.DecodeInvertsEncode) (hed25519 : crates.ed25519.AcceptsOwnSignatures)
    {env : KeyringEnvironment σ} {stored : σ → Option String} (hstored : LastStored env stored)
    {world : σ} {events : List DeviceEvent} {introduced answered : CallRecord}
    (hintroduced : introduced ∈ (Device.start world).history crates env events)
    (hanswered : answered ∈ (Device.start world).history crates env events)
    {attempt : Attempt} (hidentity : introduced.result = some (.ok (.identity attempt.userUid)))
    (hcommand : answered.command = .signAuthChallenge ⟨protocolVersion,
      crates.base64.encode attempt.nonce.toList, attempt.serverTimestamp⟩)
    {signatureBase64 : String}
    (hsignature : answered.result = some (.ok (.signature signatureBase64)))
    (hidentify : decodeClientMessage crates attempt.identifyText =
      .ok (.authIdentify protocolVersion attempt.userUid))
    (hresponse : decodeClientMessage crates attempt.responseText =
      .ok (.authResponse signatureBase64))
    (httl : attempt.t1 ≤ attempt.t0 + authChallengeTtl) {system now : System}
    (hreachable : Reachable crates system) {c : ConnId} (hunaccepted : system.tasks c = none)
    {actions : List Action}
    (hrun : Execution.exec (System.step crates) system actions = some now)
    (hscript : actions.filter (·.actor = c) <+: attempt.actions c)
    (hnobody : ∀ before there, before ++ [.register c] <+: actions →
      Execution.exec (System.step crates) system before = some there →
      ∀ d s, there.Registered d s → s.userUid ≠ attempt.userUid) :
    (∀ action rest, attempt.actions c = actions.filter (·.actor = c) ++ action :: rest →
        (now.step crates action).isSome) ∧
      (actions.filter (·.actor = c) = attempt.actions c →
        now.state.connections attempt.userUid = some c ∧
        now.outbound c = [attempt.challenged crates, attempt.welcome] ∧
        ∃ s, now.Registered c s ∧ s.userUid = attempt.userUid ∧ s.activeVoiceRoomId = none) := by
  have hverifies : verifySignature crates attempt.challenge signatureBase64 = .ok () :=
    verifies_of_device hstored hbase64 hed25519 hintroduced hanswered hidentity hcommand hsignature
  have haccepts : Accepts crates attempt.challenge signatureBase64 attempt.t1 :=
    ⟨Nat.sub_le_iff_le_add'.mpr httl, hverifies⟩
  have hreached := reached_of_run ⟨hidentify, signatureBase64, hresponse, haccepts⟩ hreachable
    hunaccepted hrun hscript hnobody
  constructor
  · intro action rest hnext
    apply hreached.enabled
    rw [hnext]
    simp
  · intro hall
    rw [hall] at hreached
    have hsession : now.roster c = some (sessionOf attempt.challenge) := roster_of_task hreached.task
    have hregistered := (registered_iff hreached.inv).mpr hsession
    exact ⟨hreached.inv.tracks.connection hsession, hreached.log, _, hregistered, rfl, rfl⟩

/-- The first login is over. -/
def loggedOut : List Action :=
  Reference.logIn 1 Reference.first ++
    [.receive 1 .close Reference.first.nonce 43 0, .disconnect 1]

/-- The same identity on another connection. -/
def comeback : Attempt where
  userUid := ⟨Reference.first.key⟩
  identifyText := Reference.identifyText Reference.first
  responseText := Reference.responseText Reference.first
  nonce := Reference.first.nonce
  nonce' := Reference.second.nonce
  serverTimestamp := 42
  serverTimestamp' := 44
  t0 := 7
  t1 := 7 + authChallengeTtl

/-- Another connection comes and goes meanwhile. -/
def crowded : List Action :=
  .accept 2 :: (comeback.actions 0).take 4 ++
    [.receive 2 .close Reference.second.nonce 43 0, .disconnect 2] ++ (comeback.actions 0).drop 4

def registers : Action → Option ConnId
  | .register c => some c
  | _ => none

/-- The connection gets the lock when nobody is registered for its identity. -/
lemma crowded_runs : ∃ system there now,
    Execution.exec (System.step Reference.crates) System.default loggedOut = some system ∧
      system.tasks 0 = none ∧
      Execution.exec (System.step Reference.crates) system (crowded.take 7) = some there ∧
      there.state.connections ⟨Reference.first.key⟩ = none ∧
      Execution.exec (System.step Reference.crates) system crowded = some now := by
  have hleaves : (do
      let system ← Execution.exec (System.step Reference.crates) System.default loggedOut
      let there ← Execution.exec (System.step Reference.crates) system (crowded.take 7)
      let now ← Execution.exec (System.step Reference.crates) there (crowded.drop 7)
      return ((system.tasks 0).isSome, there.state.connections ⟨Reference.first.key⟩,
        (now.tasks 0).isSome)) = some (false, none, true) := by
    decide +kernel
  simp only [Option.bind_eq_bind, Option.bind_eq_some_iff] at hleaves
  obtain ⟨system, hsystem, there, hthere, now, hnow, h⟩ := hleaves
  obtain ⟨htask, hrest⟩ := Prod.mk.inj (Option.some.inj h)
  have hunaccepted := Option.isNone_iff_eq_none.mp (Option.isSome_eq_false_iff.mp htask)
  have hall := Execution.exec_append_of _ hthere hnow
  rw [List.take_append_drop] at hall
  exact ⟨system, there, now, hsystem, hunaccepted, hthere, (Prod.mk.inj hrest).1, hall⟩

lemma crowded_register {before : List Action} (h : before ++ [.register 0] <+: crowded) :
    before = crowded.take 7 := by
  obtain ⟨after, h⟩ := h
  have hget : crowded[before.length]? = some (.register 0) := by
    rw [← h]
    simp
  have hindex : ∀ i : Fin crowded.length, (crowded.map registers)[i]? = some (some 0) →
      i.val = 7 := by decide
  have hlength : before.length = 7 := by
    have hsmall : before.length < crowded.length := (List.getElem?_eq_some_iff.mp hget).1
    apply hindex ⟨before.length, hsmall⟩
    simp only [Fin.getElem?_fin, List.getElem?_map, hget, Option.map_some, registers]
  rw [← h, ← hlength, List.append_assoc, List.take_left]

theorem device_connects_crowded : ∃ system now,
    Execution.exec (System.step Reference.crates) System.default loggedOut = some system ∧
      Execution.exec (System.step Reference.crates) system crowded = some now ∧
      now.state.connections ⟨Reference.first.key⟩ = some 0 ∧
      ∃ s, now.Registered 0 s ∧ s.userUid = ⟨Reference.first.key⟩ := by
  obtain ⟨system, there, now, hsystem, hunaccepted, hthere, hfree, hnow⟩ := crowded_runs
  obtain ⟨⟨introduced, hintroduced, hidentity⟩, answered, hanswered, hcommand, hsignature⟩ :=
    restarted_leaves
  have hgiven : introduced.result = some (.ok (.identity comeback.userUid)) := hidentity
  have hidentify : decodeClientMessage Reference.crates comeback.identifyText =
      .ok (.authIdentify protocolVersion comeback.userUid) := by decide +kernel
  have hresponse : decodeClientMessage Reference.crates comeback.responseText =
      .ok (.authResponse (Reference.base64.encode Reference.first.signature.toList)) := by
    decide +kernel
  have hscript : crowded.filter (·.actor = 0) = comeback.actions 0 := rfl
  have hnobody : ∀ before there, before ++ [.register 0] <+: crowded →
      Execution.exec (System.step Reference.crates) system before = some there →
      ∀ d s, there.Registered d s → s.userUid ≠ comeback.userUid := by
    intro before there' hbefore hexec d s hs huid
    rw [crowded_register hbefore, hthere] at hexec
    obtain rfl := Option.some.inj hexec
    have hinv := inv_of_reachable ⟨loggedOut ++ crowded.take 7,
      Execution.exec_append_of _ hsystem hthere⟩
    have hentry := hinv.tracks.connection ((registered_iff hinv).mp hs)
    rw [huid] at hentry
    exact Option.some_ne_none d (hentry.symm.trans hfree)
  have hconnects := device_connects Reference.base64_decodes Reference.ed25519_accepts
    plainKeyring_lastStored hintroduced hanswered hgiven hcommand hsignature hidentify hresponse
    (le_refl (7 + authChallengeTtl)) ⟨loggedOut, hsystem⟩ hunaccepted hnow
    (hscript ▸ List.prefix_rfl) hnobody
  obtain ⟨hentry, -, s, hregistered, huid, -⟩ := hconnects.2 hscript
  exact ⟨system, now, hsystem, hnow, hentry, s, hregistered, huid⟩

end VTNet.Proofs
