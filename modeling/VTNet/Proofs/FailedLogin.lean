import VTNet.Lib.Lockstep
import VTNet.Proofs.OutboundProtocol

/-!
# What follows a refused proof of possession

The authenticator answers a proof that does not hold with `AuthFailure` and is ready for the next
challenge, and the loop of the connection goes on. Only the registration of a duplicate identity
leaves the loop.
-/

namespace VTNet.Proofs

open ConnectionAuthenticator

/-! ### Refusals -/

/-- The task has received a message and is about to do what it asks for. -/
def Phase.Handles : Phase → Prop
  | .handling _ _ => True
  | .registering _ _ => True
  | .replying _ => True
  | .reading => False
  | .leaving => False
  | .closed => False

/-- A frame of the connection is processed as a message. -/
def Processed (crates : Crates) (system : System) (c : ConnId) : Action → Prop
  | .receive d frame nonce serverTimestamp now => d = c ∧ ∃ task, system.tasks c = some task ∧
      task.phase = .reading ∧
      Phase.Handles (task.receive crates frame nonce serverTimestamp now).phase
  | _ => False

/-- An `AuthResponse` of the connection is answered with `AuthFailure`. -/
inductive ResponseRefused (crates : Crates) (system : System) (c : ConnId) : Action → Prop
  | proof {task : SocketTask} {frame : Frame} {signatureBase64 : String} {nonce : Nonce}
      {serverTimestamp : UInt64} {now : Instant} {reason : AuthFailureReason}
      (running : system.tasks c = some task)
      (response : Frame.message? crates frame = some (.authResponse signatureBase64))
      (answer : (task.receive crates frame nonce serverTimestamp now).phase =
        .replying (.authFailure reason)) :
      ResponseRefused crates system c (.receive c frame nonce serverTimestamp now)
  | duplicate (taken : Refused system c) : ResponseRefused crates system c (.register c)

/-- After the refusal no frame is processed and the connection is not registered. -/
def RefusalEnds (crates : Crates) (c : ConnId) (actions : List Action) : Prop :=
  ∀ before action after system next, actions = before ++ action :: after →
    Execution.exec (System.step crates) System.default before = some system →
    system.step crates action = some next → ResponseRefused crates system c action →
    (∀ between later rest now, after = between ++ later :: rest →
      Execution.exec (System.step crates) next between = some now →
      ¬Processed crates now c later) ∧
    Execution.Throughout (System.step crates) (fun now => ∀ s, ¬now.Registered c s) next after

/-- A challenge of the connection is pending, and the signature answers it in time. -/
def System.AcceptsProof (crates : Crates) (system : System) (c : ConnId) (signatureBase64 : String)
    (now : Instant) : Prop :=
  ∃ task challenge, system.tasks c = some task ∧
    task.authenticator.state = .challengeIssued challenge ∧
    Accepts crates challenge signatureBase64 now

/-- Every `AuthResponse` of the unregistered connection is accepted, unless it is the last message
that the connection receives. -/
def ProofsHold (crates : Crates) (c : ConnId) (actions : List Action) : Prop :=
  ∀ before frame nonce serverTimestamp now after system signatureBase64,
    actions = before ++ .receive c frame nonce serverTimestamp now :: after →
    Execution.exec (System.step crates) System.default before = some system →
    system.roster c = none →
    Frame.message? crates frame = some (.authResponse signatureBase64) →
    (∃ later ∈ after, (Action.message? crates c later).isSome) →
    System.AcceptsProof crates system c signatureBase64 now

/-! ### One frame -/

section Frames

variable {crates : Crates} (task : SocketTask) {frame : Frame} {message : ClientMessage}
  {signatureBase64 : String} (nonce : Nonce) (serverTimestamp : UInt64) (now : Instant)

/-- Every message is processed while the loop runs. -/
lemma receive_message (h : Frame.message? crates frame = some message) :
    Phase.Handles (task.receive crates frame nonce serverTimestamp now).phase := by
  cases frame with
  | text payload =>
    simp only [SocketTask.receive, message?_text.mp h]
    split
    · trivial
    · split <;> trivial
  | _ => cases h

lemma receive_known (h : Frame.message? crates frame = some message)
    (hsession : task.session.isSome) :
    (task.receive crates frame nonce serverTimestamp now).phase =
      .handling message serverTimestamp := by
  cases frame with
  | text payload =>
    simp only [SocketTask.receive, message?_text.mp h, hsession, if_true]
  | _ => cases h

lemma receive_unknown (h : Frame.message? crates frame = some message)
    (hsession : task.session = none)
    (hidle : (handleMessage crates task.authenticator message nonce serverTimestamp now).2.Idle) :
    (task.receive crates frame nonce serverTimestamp now).phase = .replying
      (handleMessage crates task.authenticator message nonce serverTimestamp now).1.message := by
  cases frame with
  | text payload =>
    simp only [SocketTask.receive, message?_text.mp h, hsession, Option.isSome_none,
      Bool.false_eq_true, if_false, take_of_idle hidle]
  | _ => cases h

/-- A proof that holds is not answered before the identity is registered. -/
lemma receive_accepted {challenge : AuthChallenge}
    (h : Frame.message? crates frame = some (.authResponse signatureBase64))
    (hsession : task.session = none) (hpending : task.authenticator.state = .challengeIssued challenge)
    (haccepts : Accepts crates challenge signatureBase64 now) :
    ∃ session serverMessage,
      (task.receive crates frame nonce serverTimestamp now).phase =
        .registering session serverMessage := by
  cases frame with
  | text payload =>
    simp only [SocketTask.receive, message?_text.mp h, hsession, Option.isSome_none,
      Bool.false_eq_true, if_false, handleMessage_accepted hpending haccepts]
    exact ⟨_, _, rfl⟩
  | _ => cases h

/-- Any other response is refused at once. -/
lemma receive_rejected (h : Frame.message? crates frame = some (.authResponse signatureBase64))
    (hsession : task.session = none) (hidle : task.authenticator.Idle)
    (hrejects : ∀ challenge, task.authenticator.state = .challengeIssued challenge →
      ¬Accepts crates challenge signatureBase64 now) :
    ∃ reason, (task.receive crates frame nonce serverTimestamp now).phase =
      .replying (.authFailure reason) := by
  have hrefused : ∃ reason auth, handleMessage crates task.authenticator
      (.authResponse signatureBase64) nonce serverTimestamp now = (failure reason, auth) ∧
      auth.Idle := by
    cases hstate : task.authenticator.state with
    | authenticated session => exact absurd hstate (hidle session)
    | connected =>
      have hfailure : ∃ reason, handleMessage crates task.authenticator
          (.authResponse signatureBase64) nonce serverTimestamp now =
            (failure reason, task.authenticator) :=
        handleMessage_connected hstate (fun _ he => by cases he)
      obtain ⟨reason, he⟩ := hfailure
      exact ⟨reason, _, he, hidle⟩
    | challengeIssued challenge =>
      have hfailure : ∃ reason, handleMessage crates task.authenticator
          (.authResponse signatureBase64) nonce serverTimestamp now =
            (failure reason, ⟨task.authenticator.serverName, .connected⟩) :=
        handleMessage_rejected hstate (hrejects challenge hstate)
      obtain ⟨reason, he⟩ := hfailure
      exact ⟨reason, _, he, fun session hs => by cases hs⟩
  obtain ⟨reason, auth, he, hauth⟩ := hrefused
  refine ⟨reason, ?_⟩
  rw [receive_unknown task nonce serverTimestamp now h hsession (by rw [he]; exact hauth), he]
  rfl

end Frames

/-! ### Runs -/

section Runs

variable {crates : Crates} {system next : System} {c : ConnId} {task : SocketTask}
  {action : Action} {waits : Prop}

/-- A dormant connection processes nothing, unless it waits for a message. -/
lemma Dormant.not_processed (h : Dormant waits task) (htask : system.tasks c = some task)
    (hnothing : waits → Action.message? crates c action = none) :
    ¬Processed crates system c action := by
  intro hprocessed
  cases action with
  | receive d frame nonce serverTimestamp now =>
    obtain ⟨rfl, task', htask', hreading, hhandles⟩ := hprocessed
    rw [htask] at htask'
    cases htask'
    have hwaits := h.phase
    rw [hreading] at hwaits
    have hmessage := hnothing hwaits
    simp only [Action.message?, if_true] at hmessage
    rcases receive_nothing task nonce serverTimestamp now hmessage with he | he
    · rw [he, hreading] at hhandles
      exact hhandles
    · rw [he] at hhandles
      exact hhandles
  | _ => exact hprocessed

/-- A refusal leaves the connection waiting for its next message, or it leaves the loop. -/
lemma dormant_of_refused (hinv : Inv system) (hstep : system.step crates action = some next)
    (h : ResponseRefused crates system c action) :
    ∃ waits task, next.tasks c = some task ∧ Dormant waits task ∧
      (waits → ∃ frame nonce serverTimestamp now signatureBase64,
        action = .receive c frame nonce serverTimestamp now ∧ system.roster c = none ∧
        Frame.message? crates frame = some (.authResponse signatureBase64) ∧
        ¬System.AcceptsProof crates system c signatureBase64 now) := by
  cases h with
  | @proof task frame signatureBase64 nonce serverTimestamp now reason running response answer =>
    have hsession : task.session = none := by
      apply Option.not_isSome_iff_eq_none.mp
      intro hsome
      rw [receive_known task nonce serverTimestamp now response hsome] at answer
      cases answer
    have hrejects : ¬System.AcceptsProof crates system c signatureBase64 now := by
      rintro ⟨task', challenge, htask', hpending, haccepts⟩
      rw [running] at htask'
      cases htask'
      obtain ⟨session, serverMessage, hregistering⟩ :=
        receive_accepted task nonce serverTimestamp now response hsession hpending haccepts
      rw [hregistering] at answer
      cases answer
    have hnext : next = system.setTask c (task.receive crates frame nonce serverTimestamp now) ∧
        task.phase = .reading := by
      cases System.stepped_of_step hstep with
      | receive _ _ _ _ running' reading =>
        rw [running] at running'
        cases running'
        exact ⟨rfl, reading⟩
    have hregistered : task.isRegistered = false := by
      have hsettled := (hinv.settled c task running).2
      rw [hnext.2] at hsettled
      exact hsettled.trans (by rw [hsession]; rfl)
    refine ⟨True, _, by rw [hnext.1]; exact setTask_self ..,
      ⟨(receive_registered ..).trans hregistered, ?_⟩, ?_⟩
    · rw [answer]
      trivial
    · intro _
      exact ⟨_, _, _, _, _, rfl, (roster_of_task running).trans hsession, response, hrejects⟩
  | duplicate taken =>
    obtain ⟨task, htask, hdormant⟩ := (taken.stopped hinv hstep).dormant
    exact ⟨False, task, htask, hdormant, False.elim⟩

/-- A proof that does not hold is refused. -/
lemma refused_of_rejects (hinv : Inv system) {frame : Frame} {nonce : Nonce}
    {serverTimestamp : UInt64} {now : Instant} {signatureBase64 : String}
    (hstep : system.step crates (.receive c frame nonce serverTimestamp now) = some next)
    (hnone : system.roster c = none)
    (hresponse : Frame.message? crates frame = some (.authResponse signatureBase64))
    (hrejects : ¬System.AcceptsProof crates system c signatureBase64 now) :
    ResponseRefused crates system c (.receive c frame nonce serverTimestamp now) := by
  cases System.stepped_of_step hstep with
  | @receive _ task _ _ _ _ running reading =>
    rw [roster_of_task running] at hnone
    obtain ⟨reason, hanswer⟩ := receive_rejected task nonce serverTimestamp now hresponse hnone
      (hinv.settled c task running).1
      (fun challenge hpending haccepts => hrejects ⟨task, challenge, running, hpending, haccepts⟩)
    exact .proof running hresponse hanswer

/-- Every message that arrives is processed. -/
lemma processed_of_message (hstep : system.step crates action = some next)
    (hmessage : (Action.message? crates c action).isSome) : Processed crates system c action := by
  obtain ⟨message, hmessage⟩ := Option.isSome_iff_exists.mp hmessage
  cases System.stepped_of_step hstep with
  | @receive d task frame nonce serverTimestamp now running reading =>
    by_cases hd : d = c
    · subst hd
      simp only [Action.message?, if_true] at hmessage
      exact ⟨rfl, task, running, reading, receive_message task nonce serverTimestamp now hmessage⟩
    · simp only [Action.message?, if_neg hd] at hmessage
      cases hmessage
  | _ => cases hmessage

end Runs

/-- Refusals end the connection exactly in the runs in which no message follows a refused proof. -/
theorem refusal_ends_iff {crates : Crates} {actions : List Action} {system : System} (c : ConnId)
    (hrun : Execution.exec (System.step crates) System.default actions = some system) :
    RefusalEnds crates c actions ↔ ProofsHold crates c actions := by
  constructor
  · intro hends before frame nonce serverTimestamp now after here signatureBase64 hactions hbefore
      hnone hresponse hlater
    by_contra hrejects
    rw [hactions] at hrun
    obtain ⟨next, hstep, hafter⟩ := Execution.exec_next _ hrun hbefore
    have hrefused := refused_of_rejects (inv_of_reachable ⟨before, hbefore⟩) hstep hnone hresponse
      hrejects
    obtain ⟨later, hlater, hmessage⟩ := hlater
    obtain ⟨between, rest, hsplit⟩ := List.append_of_mem hlater
    rw [hsplit, Execution.exec_append] at hafter
    obtain ⟨there, hbetween, hrest⟩ := Option.bind_eq_some_iff.mp hafter
    rw [Execution.exec_cons] at hrest
    obtain ⟨_, hlaterStep, -⟩ := Option.bind_eq_some_iff.mp hrest
    obtain ⟨hnothing, -⟩ := hends before _ after here next hactions hbefore hstep hrefused
    exact hnothing between later rest there hsplit hbetween
      (processed_of_message hlaterStep hmessage)
  · intro hhold before action after here next hactions hbefore hstep hrefused
    obtain ⟨waits, task, htask, hdormant, hrejected⟩ :=
      dormant_of_refused (inv_of_reachable ⟨before, hbefore⟩) hstep hrefused
    have hnothing : waits → ∀ later ∈ after, Action.message? crates c later = none := by
      intro hwaits later hlater
      apply Option.not_isSome_iff_eq_none.mp
      intro hmessage
      obtain ⟨frame, nonce, serverTimestamp, now, signatureBase64, rfl, hnone, hresponse, hrejects⟩ :=
        hrejected hwaits
      exact hrejects (hhold before frame nonce serverTimestamp now after here signatureBase64 hactions
        hbefore hnone hresponse ⟨later, hlater, hmessage⟩)
    constructor
    · intro between later rest there hsplit hbetween
      obtain ⟨task', htask', hdormant'⟩ := hdormant.exec htask hbetween
        (fun hwaits a ha => hnothing hwaits a (by rw [hsplit]; exact List.mem_append_left _ ha))
      exact hdormant'.not_processed htask'
        (fun hwaits => hnothing hwaits later (by rw [hsplit]; simp))
    · intro between there hbetween hthere s
      obtain ⟨task', htask', hdormant'⟩ := hdormant.exec htask hthere
        (fun hwaits a ha => hnothing hwaits a (hbetween.subset ha))
      exact hdormant'.not_registered htask' s

/-! ### A client that guesses -/

section Guess

open Reference

/-- The client has been given a challenge. -/
def challenged : List Action :=
  [.accept 0, .receive 0 (.text (identifyText first)) second.nonce second.serverTimestamp 0,
    .reply 0]

def guessFrame : Frame :=
  .text (sendMessageText "auth_response" [("signature_base64", ofString "guess")])

/-- It answers with something that is no signature. -/
def guess : Action := .receive 0 guessFrame second.nonce second.serverTimestamp 0

/-- It hears of the refusal and logs in. -/
def secondTry : List Action := .reply 0 :: (logIn 0 first).tail

def guesser : Session :=
  ⟨⟨first.key⟩, defaultDisplayName ⟨first.key⟩, none⟩

def Phase.answer? : Phase → Option ServerMessage
  | .replying serverMessage => some serverMessage
  | _ => none

lemma guess_message :
    Frame.message? crates guessFrame = some (.authResponse "guess") := by
  decide +kernel

/-- What the client hears after its guess, and its session in the end. -/
lemma guess_leaves :
    (do
      let here ← Execution.exec (System.step crates) System.default challenged
      let next ← System.step crates here guess
      let system ← Execution.exec (System.step crates) next secondTry
      return ((next.tasks 0).bind fun task => Phase.answer? task.phase, system.roster 0)) =
      some (some (.authFailure .invalidCredentials), some guesser) := by
  decide +kernel

def guessing : List Action := challenged ++ guess :: secondTry

lemma guessing_runs : ∃ here next system,
    Execution.exec (System.step crates) System.default guessing = some system ∧
      Execution.exec (System.step crates) System.default challenged = some here ∧
      System.step crates here guess = some next ∧
      Execution.exec (System.step crates) next secondTry = some system ∧
      ResponseRefused crates here 0 guess ∧ system.roster 0 = some guesser := by
  have hleaves := guess_leaves
  simp only [Option.bind_eq_bind, Option.bind_eq_some_iff] at hleaves
  obtain ⟨here, hhere, next, hnext, system, hsystem, h⟩ := hleaves
  obtain ⟨hanswer, hroster⟩ := Prod.mk.inj (Option.some.inj h)
  have hrun : Execution.exec (System.step crates) System.default guessing = some system := by
    rw [guessing, Execution.exec_append, hhere, Option.bind_some, Execution.exec_cons, hnext,
      Option.bind_some, hsystem]
  refine ⟨here, next, system, hrun, hhere, hnext, hsystem, ?_, hroster⟩
  have hstepped := System.stepped_of_step hnext
  unfold guess at hstepped ⊢
  cases hstepped with
  | @receive _ task _ _ _ _ running reading =>
    rw [setTask_self, Option.bind_some] at hanswer
    unfold Phase.answer? at hanswer
    split at hanswer
    · rename_i hphase
      cases hanswer
      exact .proof running guess_message hphase
    · cases hanswer

/-- After the refusal the connection is registered. -/
theorem guess_logs_in : ∃ system,
    Execution.exec (System.step crates) System.default guessing = some system ∧
    system.Registered 0 guesser ∧ ¬RefusalEnds crates 0 guessing := by
  obtain ⟨here, next, system, hrun, hhere, hnext, hsystem, hrefused, hroster⟩ := guessing_runs
  have hregistered : system.Registered 0 guesser :=
    (registered_iff (inv_of_reachable ⟨_, hrun⟩)).mpr hroster
  refine ⟨system, hrun, hregistered, ?_⟩
  intro hends
  obtain ⟨-, hnever⟩ := hends challenged guess secondTry here next rfl hhere hnext hrefused
  exact hnever secondTry system (List.prefix_refl _) hsystem guesser hregistered

theorem refusal_ends_iff_guess : ∃ system,
    Execution.exec (System.step crates) System.default guessing = some system ∧
    (RefusalEnds crates 0 guessing ↔ ProofsHold crates 0 guessing) := by
  obtain ⟨_, _, system, hrun, -⟩ := guessing_runs
  exact ⟨system, hrun, refusal_ends_iff 0 hrun⟩

end Guess

end VTNet.Proofs
