import VTNet.Proofs.Interference
import Mathlib.Logic.Relation

/-!
# One frame more

A frame of a registered connection that moves no session and that an observer does not hear can
be inserted into a run, or taken out of it, without the observer noticing. Chat and signaling for
others are such frames, and so are all frames that repeat what has been done or are refused.
-/

namespace VTNet.Proofs

/-- The second run is the first one with one more frame of a registered connection. The frame is
handled in a state in which `Skipped` holds of it, or it still waits for the lock in the end. -/
inductive OneMoreFrame (crates : Crates)
    (Skipped : System → Session → ClientMessage → UInt64 → Prop) :
    List Action → List Action → Prop
  | handled {before mid after : List Action} {c : ConnId} {payload : String} {nonce : Nonce}
      {serverTimestamp : UInt64} {now : Instant} {message : ClientMessage} {system : System}
      {s : Session} (decodes : decodeClientMessage crates payload = .ok message)
      (others : ∀ action ∈ mid, action.actor ≠ c)
      (reached : Execution.exec (System.step crates) System.default
        (before ++ .receive c (.text payload) nonce serverTimestamp now :: mid) = some system)
      (registered : system.Registered c s)
      (skipped : Skipped system s message serverTimestamp) :
      OneMoreFrame crates Skipped (before ++ (mid ++ after))
        (before ++ .receive c (.text payload) nonce serverTimestamp now ::
          (mid ++ .handle c :: after))
  | waiting {before after : List Action} {c : ConnId} {payload : String} {nonce : Nonce}
      {serverTimestamp : UInt64} {now : Instant} {message : ClientMessage} {system : System}
      {s : Session} (decodes : decodeClientMessage crates payload = .ok message)
      (others : ∀ action ∈ after, action.actor ≠ c)
      (reached : Execution.exec (System.step crates) System.default
        (before ++ .receive c (.text payload) nonce serverTimestamp now :: after) = some system)
      (registered : system.Registered c s) :
      OneMoreFrame crates Skipped (before ++ after)
        (before ++ .receive c (.text payload) nonce serverTimestamp now :: after)

section Frames

variable {crates : Crates} {on : ConnId → Prop} {c : ConnId} {payload : String} {nonce : Nonce}
  {serverTimestamp : UInt64} {now : Instant} {message : ClientMessage} {s : Session}

/-- What a frame that waits for the lock has changed: the phase of its task and nothing else. -/
lemma waiting_alike {before mid : List Action} {system : System}
    (hdecodes : decodeClientMessage crates payload = .ok message)
    (hothers : ∀ action ∈ mid, action.actor ≠ c)
    (hreached : Execution.exec (System.step crates) System.default
      (before ++ .receive c (.text payload) nonce serverTimestamp now :: mid) = some system)
    (hregistered : system.Registered c s) :
    ∃ system' task, Execution.exec (System.step crates) System.default (before ++ mid) = some system' ∧
      Alike (· = c) on system system' ∧ system'.tasks c = some task ∧ task.phase = .reading ∧
      task.session = some s ∧
      system.tasks c = some { task with phase := .handling message serverTimestamp } := by
  have hinv := inv_of_reachable ⟨_, hreached⟩
  rw [Execution.exec_append, Option.bind_eq_some_iff] at hreached
  obtain ⟨start, hstart, hreached⟩ := hreached
  rw [Execution.exec_cons, Option.bind_eq_some_iff] at hreached
  obtain ⟨received, hreceive, hmid⟩ := hreached
  cases System.stepped_of_step hreceive with
  | @receive _ task _ _ _ _ hrunning hreading =>
    have htask := exec_other hmid hothers
    have hsession : task.session = some s := by
      have hroster := (registered_iff hinv).mp hregistered
      rw [System.roster, htask, setTask_self, Option.bind_some, receive_session] at hroster
      exact hroster
    have hreceived : task.receive crates (.text payload) nonce serverTimestamp now =
        { task with phase := .handling message serverTimestamp } := by
      simp only [SocketTask.receive, hdecodes, hsession, Option.isSome_some, if_true]
    have hinvstart := inv_of_reachable ⟨_, hstart⟩
    have hrefines := step_refines hinvstart hreceive
    have halike : Alike (· = c) on
        (start.setTask c (task.receive crates (.text payload) nonce serverTimestamp now)) start := by
      refine ⟨hrefines.inv, hinvstart, hrefines.roster, ?_, fun d _ => rfl⟩
      intro d hd
      exact Function.update_of_ne hd ..
    obtain ⟨system', hmid', halike'⟩ := halike.exec hothers hmid
    refine ⟨system', task, Execution.exec_append_of _ hstart hmid', halike', ?_, hreading, hsession,
      ?_⟩
    · rw [exec_other hmid' hothers, hrunning]
    · rw [htask, setTask_self, hreceived]

/-- An event that moves no session and that nobody in `on` hears. -/
def Unnoticed (on : ConnId → Prop) (roster : Roster) (event : Event) : Prop :=
  event.next roster = roster ∧ ∀ d, on d → event.heard roster d = []

/-- Handling a frame that goes unnoticed makes up for having received it. -/
lemma handled_alike {system system' : System} {task : SocketTask}
    (halike : Alike (· = c) on system system') (htask' : system'.tasks c = some task)
    (hreading : task.phase = .reading) (hsession : task.session = some s)
    (htask : system.tasks c = some { task with phase := .handling message serverTimestamp })
    (hunnoticed : Unnoticed on system.roster (messageEvent c message serverTimestamp)) :
    ∃ next, system.step crates (.handle c) = some next ∧
      Alike (fun _ => False) on next system' := by
  have hstep : system.step crates (.handle c) = some _ :=
    step_of_stepped (.handle htask rfl hsession)
  have hevent : system.event (.handle c) = messageEvent c message serverTimestamp := by
    simp [System.event, htask]
  have hrefines := step_refines halike.inv hstep
  have hroster := hrefines.roster
  rw [hevent, hunnoticed.1, halike.roster] at hroster
  refine ⟨_, hstep, hrefines.inv, halike.inv', hroster, ?_, ?_⟩
  · intro d _
    by_cases hd : d = c
    · rw [hd, handle_task, hroster, htask', roster_of_task htask']
      cases task
      cases hreading
      rfl
    · rw [(System.stepped_of_step hstep).task_other hd]
      exact halike.tasks d hd
  · intro d hd
    rw [hrefines.outbound, hevent, hunnoticed.2 d hd, List.append_nil]
    exact halike.outbound d hd

/-- Every end of the first run is, for the observers, one of the second run. -/
def Imitates (crates : Crates) (on : ConnId → Prop) (actions actions' : List Action) : Prop :=
  ∀ system, Execution.exec (System.step crates) System.default actions = some system →
    ∃ system', Execution.exec (System.step crates) System.default actions' = some system' ∧
      Alike (fun _ => True) on system system'

/-- The observers cannot tell which of the two runs it was. -/
def Indistinguishable (crates : Crates) (on : ConnId → Prop) (actions actions' : List Action) :
    Prop :=
  Imitates crates on actions actions' ∧ Imitates crates on actions' actions

lemma indistinguishable_equivalence (crates : Crates) (on : ConnId → Prop) :
    Equivalence (Indistinguishable crates on) := by
  have hrefl : ∀ actions, Imitates crates on actions actions :=
    fun actions system hrun => ⟨system, hrun, Alike.refl (inv_of_reachable ⟨actions, hrun⟩)⟩
  have htrans : ∀ first second third, Imitates crates on first second →
      Imitates crates on second third → Imitates crates on first third := by
    intro first second third h h' system hrun
    obtain ⟨system', hrun', halike⟩ := h system hrun
    obtain ⟨system'', hrun'', halike'⟩ := h' system' hrun'
    exact ⟨system'', hrun'', halike.trans halike'⟩
  constructor
  · exact fun actions => ⟨hrefl actions, hrefl actions⟩
  · exact fun h => ⟨h.2, h.1⟩
  · exact fun h h' => ⟨htrans _ _ _ h.1 h'.1, htrans _ _ _ h'.2 h.2⟩

/-- Two runs that have come to states that are alike stay indistinguishable along the same
actions. -/
lemma follows_of_alike {before before' after : List Action} {system system' : System}
    (hrun : Execution.exec (System.step crates) System.default before = some system)
    (hrun' : Execution.exec (System.step crates) System.default before' = some system')
    (halike : Alike (fun _ => False) on system system') :
    Imitates crates on (before ++ after) (before' ++ after) := by
  intro final hfinal
  rw [Execution.exec_append, hrun, Option.bind_some] at hfinal
  obtain ⟨final', hfinal', h⟩ := halike.exec (fun _ _ => not_false) hfinal
  refine ⟨final', Execution.exec_append_of _ hrun' hfinal', h.inv, h.inv', h.roster, ?_, h.outbound⟩
  exact fun _ htrue => absurd trivial htrue

/-- One frame more that goes unnoticed. -/
theorem oneMoreFrame_indistinguishable {actions actions' : List Action}
    {Skipped : System → Session → ClientMessage → UInt64 → Prop}
    (hskipped : ∀ system c s message serverTimestamp, Inv system → system.roster c = some s →
      Skipped system s message serverTimestamp →
      Unnoticed on system.roster (messageEvent c message serverTimestamp))
    (h : OneMoreFrame crates Skipped actions actions') :
    Indistinguishable crates on actions actions' := by
  cases h with
  | @handled before mid after c payload nonce serverTimestamp now message system s decodes others
      reached registered skipped =>
    have hwaiting : ∃ system' task, _ ∧ Alike (· = c) on system system' ∧ _ :=
      waiting_alike decodes others reached registered
    obtain ⟨system', task, hreached', halike, htask', hreading, hsession, htask⟩ := hwaiting
    have hunnoticed := hskipped system c s message serverTimestamp halike.inv
      ((registered_iff halike.inv).mp registered) skipped
    have hhandled : ∃ next, system.step crates (.handle c) = some next ∧ _ :=
      handled_alike halike htask' hreading hsession htask hunnoticed
    obtain ⟨next, hstep, hnext⟩ := hhandled
    have hhandled := (Execution.exec_concat _ _ _ _ _).mpr ⟨system, reached, hstep⟩
    have hwith : before ++ .receive c (.text payload) nonce serverTimestamp now ::
        (mid ++ .handle c :: after) =
        before ++ .receive c (.text payload) nonce serverTimestamp now :: mid ++ [.handle c] ++
          after := by simp
    rw [hwith, ← List.append_assoc]
    exact ⟨follows_of_alike hreached' hhandled hnext.symm, follows_of_alike hhandled hreached' hnext⟩
  | @waiting before after c payload nonce serverTimestamp now message system s decodes others
      reached registered =>
    have hwaiting : ∃ system' task, _ ∧ Alike (· = c) on system system' ∧ _ :=
      waiting_alike decodes others reached registered
    obtain ⟨system', task, hreached', halike, -⟩ := hwaiting
    have hwide : Alike (fun _ => True) on system system' :=
      ⟨halike.inv, halike.inv', halike.roster, fun _ htrue => absurd trivial htrue, halike.outbound⟩
    constructor
    · intro final hfinal
      rw [hreached'] at hfinal
      cases hfinal
      exact ⟨system, reached, hwide.symm⟩
    · intro final hfinal
      rw [reached] at hfinal
      cases hfinal
      exact ⟨system', hreached', hwide⟩

/-- Inserting and removing any number of frames that go unnoticed. -/
theorem edited_outcome {actions actions' : List Action} {system : System}
    {Skipped : System → Session → ClientMessage → UInt64 → Prop}
    (hskipped : ∀ system c s message serverTimestamp, Inv system → system.roster c = some s →
      Skipped system s message serverTimestamp →
      Unnoticed on system.roster (messageEvent c message serverTimestamp))
    (hedits : Relation.EqvGen (OneMoreFrame crates Skipped) actions actions')
    (hrun : Execution.exec (System.step crates) System.default actions = some system) :
    ∃ system', Execution.exec (System.step crates) System.default actions' = some system' ∧
      system'.state.rooms = system.state.rooms ∧
      system'.state.connections = system.state.connections ∧
      (∀ c s, system'.Registered c s ↔ system.Registered c s) ∧
      ∀ d, on d → system'.outbound d = system.outbound d := by
  have hone : OneMoreFrame crates Skipped ≤ Indistinguishable crates on :=
    fun _ _ h => oneMoreFrame_indistinguishable hskipped h
  have hsame : Indistinguishable crates on actions actions' :=
    (indistinguishable_equivalence crates on).eqvGen_iff.mp (Relation.EqvGen.mono hone _ _ hedits)
  obtain ⟨system', hrun', halike⟩ := hsame.1 system hrun
  exact ⟨system', hrun', halike.outcome⟩

end Frames

/-! ### Chat and signaling for others -/

/-- A chat text, a session description or a candidate. -/
def IsRoomMessage : ClientMessage → Prop
  | .sendTextMessage _ _ | .sendWebRtcSdp _ _ _ _ | .sendWebRtcIce _ _ _ => True
  | _ => False

/-- The server forwards the message, and the connection `u` is that of a recipient. -/
def RoutedTo (u : ConnId) (system : System) (s : Session) (message : ClientMessage)
    (serverTimestamp : UInt64) : Prop :=
  ∃ routed, system.state.rooms.routeClientRoomMessage s message serverTimestamp
      allowAllPermissions = .ok routed ∧
    ∃ uid ∈ routed.recipients, system.state.connections uid = some u

/-- A room message that is not routed to `u`. -/
def Elsewhere (u : ConnId) (system : System) (s : Session) (message : ClientMessage)
    (serverTimestamp : UInt64) : Prop :=
  IsRoomMessage message ∧ ¬RoutedTo u system s message serverTimestamp

lemma IsRoomMessage.event {message : ClientMessage} (h : IsRoomMessage message) (c : ConnId)
    (serverTimestamp : UInt64) :
    messageEvent c message serverTimestamp = .say c message serverTimestamp := by
  cases message <;> first | rfl | cases h

lemma IsRoomMessage.handled {message : ClientMessage} (h : IsRoomMessage message)
    (state : ServerState) (outbound : Outbound) (s : Session) (serverTimestamp : UInt64) :
    handleAuthenticatedMessage state outbound s message serverTimestamp =
      (state, deliverRouted state outbound (state.rooms.routeClientRoomMessage s message
        serverTimestamp allowAllPermissions), s) := by
  apply handle_routed
  · rintro roomId rfl
    cases h
  · rintro roomId rfl
    cases h

/-- What routing delivers is what is heard of the message. -/
lemma IsRoomMessage.delivered {message : ClientMessage} (h : IsRoomMessage message) {c : ConnId}
    {system : System} {s : Session} (hinv : Inv system) (hs : system.roster c = some s)
    (serverTimestamp : UInt64) (u : ConnId) :
    deliverRouted system.state system.outbound (system.state.rooms.routeClientRoomMessage s message
        serverTimestamp allowAllPermissions) u =
      system.outbound u ++ (Event.say c message serverTimestamp).heard system.roster u := by
  have hheard := (handleAuthenticatedMessage_refines hinv.tracks hs system.outbound message
    serverTimestamp).heard u
  rwa [h.event, h.handled] at hheard

lemma elsewhere_unnoticed {u c : ConnId} {system : System} {s : Session} {message : ClientMessage}
    {serverTimestamp : UInt64} (hinv : Inv system) (hs : system.roster c = some s)
    (h : Elsewhere u system s message serverTimestamp) :
    Unnoticed (· = u) system.roster (messageEvent c message serverTimestamp) := by
  obtain ⟨hroom, hrouted⟩ := h
  have hheard := hroom.delivered hinv hs serverTimestamp u
  rw [hroom.event]
  refine ⟨rfl, ?_⟩
  rintro d rfl
  have hsame : deliverRouted system.state system.outbound
      (system.state.rooms.routeClientRoomMessage s message serverTimestamp allowAllPermissions) d =
      system.outbound d := by
    cases hresult : system.state.rooms.routeClientRoomMessage s message serverTimestamp
      allowAllPermissions with
    | error e => rfl
    | ok routed =>
      rw [deliverRouted, sendToUsers_heard hinv.tracks.connections_iff]
      cases ht : system.roster d with
      | none => simp
      | some t =>
        have hnot : t.userUid ∉ routed.recipients := fun hin =>
          hrouted ⟨routed, hresult, t.userUid, hin, hinv.tracks.connection ht⟩
        simp [hnot]
  have hsilent := hsame.symm.trans hheard
  simpa using hsilent

/-- What is routed to a connection is heard there. -/
lemma RoutedTo.heard {u c : ConnId} {system : System} {s : Session} {message : ClientMessage}
    {serverTimestamp : UInt64} (h : RoutedTo u system s message serverTimestamp)
    (hroom : IsRoomMessage message) (hinv : Inv system) (hs : system.roster c = some s) :
    (Event.say c message serverTimestamp).heard system.roster u ≠ [] := by
  obtain ⟨routed, hresult, uid, hin, hconnection⟩ := h
  have hheard := hroom.delivered hinv hs serverTimestamp u
  rw [hresult] at hheard
  obtain ⟨t, ht, rfl⟩ := (hinv.tracks.connections_iff uid u).mp hconnection
  have hdelivered : deliverRouted system.state system.outbound (.ok routed) u =
      system.outbound u ++ [routed.message] := by
    rw [deliverRouted, sendToUsers_heard hinv.tracks.connections_iff]
    simp [ht, hin]
  have hsame := hdelivered.symm.trans hheard
  intro hsilent
  simp [hsilent] at hsame

/-- A room message that `u` does not hear is not routed to it. -/
lemma elsewhere_of_unheard {u c : ConnId} {system : System} {s : Session} {message : ClientMessage}
    {serverTimestamp : UInt64} (hroom : IsRoomMessage message) (hinv : Inv system)
    (hs : system.roster c = some s)
    (hsilent : (Event.say c message serverTimestamp).heard system.roster u = []) :
    Elsewhere u system s message serverTimestamp :=
  ⟨hroom, fun hrouted => hrouted.heard hroom hinv hs hsilent⟩

/-- Inserting, removing or changing frames that are not routed to `u` leaves `u` the same log. Such
are all frames for a room that `u` is not in and for a target other than `u`. -/
theorem rooms_leave_no_trace (crates : Crates) (u : ConnId) :
    (∀ actions actions' system,
      Relation.EqvGen (OneMoreFrame crates (Elsewhere u)) actions actions' →
      Execution.exec (System.step crates) System.default actions = some system →
      ∃ system', Execution.exec (System.step crates) System.default actions' = some system' ∧
        system'.state.rooms = system.state.rooms ∧
        system'.state.connections = system.state.connections ∧
        (∀ c s, system'.Registered c s ↔ system.Registered c s) ∧
        system'.outbound u = system.outbound u) ∧
    ∀ system c s roomId serverTimestamp, Reachable crates system → system.Registered c s →
      (∀ textContent, system.roster.room u ≠ some roomId →
        Elsewhere u system s (.sendTextMessage roomId textContent) serverTimestamp) ∧
      ∀ targetUid, system.roster.room u ≠ some roomId ∨ system.roster.uid u ≠ some targetUid →
        (∀ sdpType sdpRaw,
          Elsewhere u system s (.sendWebRtcSdp roomId targetUid sdpType sdpRaw) serverTimestamp) ∧
        ∀ candidate,
          Elsewhere u system s (.sendWebRtcIce roomId targetUid candidate) serverTimestamp := by
  constructor
  · intro actions actions' system hedits hrun
    obtain ⟨system', hrun', hrooms, hconnections, hregistered, houtbound⟩ :=
      edited_outcome (fun _ _ _ _ _ hinv hs hskipped => elsewhere_unnoticed hinv hs hskipped)
        hedits hrun
    exact ⟨system', hrun', hrooms, hconnections, hregistered, houtbound u rfl⟩
  · intro system c s roomId serverTimestamp hreachable hregistered
    have hinv := inv_of_reachable hreachable
    have hs := (registered_iff hinv).mp hregistered
    refine ⟨?_, ?_⟩
    · intro textContent hroom
      refine elsewhere_of_unheard trivial hinv hs ?_
      rw [Event.heard_text hs, if_neg (fun h => hroom h.2.2)]
    · intro targetUid htarget
      have hnot : ¬(s.activeVoiceRoomId = some roomId ∧ system.roster.uid u = some targetUid ∧
          system.roster.room u = some roomId) := by
        rintro ⟨-, huid, hroom⟩
        exact htarget.elim (fun h => h hroom) (fun h => h huid)
      constructor
      · intro sdpType sdpRaw
        refine elsewhere_of_unheard trivial hinv hs ?_
        rw [Event.heard_sdp hs, if_neg hnot]
      · intro candidate
        refine elsewhere_of_unheard trivial hinv hs ?_
        rw [Event.heard_ice hs, if_neg hnot]

/-- A frame that the first login sends at the end of the meeting. -/
def extra (text : String) : List Action :=
  [Reference.receive 0 Reference.first text, .handle 0]

/-- The connection of the first login is in the room and waits for its next frame. -/
lemma meeting_reads : ∃ task, (Reference.final Reference.meeting).tasks 0 = some task ∧
    task.phase = .reading ∧ task.session = some (Reference.member Reference.first) := by
  have hends : Reference.meeting = Reference.logIn 0 Reference.first ++
      Reference.logIn 1 Reference.second ++ Reference.join 0 Reference.first Reference.room ++
      Reference.join 1 Reference.second Reference.room ++
      [Reference.receive 0 Reference.first (Reference.sayText Reference.room "hi")] ++
      [.handle 0] := by
    simp only [Reference.meeting, Reference.say, List.append_assoc, List.cons_append,
      List.nil_append]
  have hrun := Reference.meeting_runs
  rw [hends, Execution.exec_concat, ← hends] at hrun
  obtain ⟨system, -, hstep⟩ := hrun
  have hroster := Reference.meeting_final.1
  generalize Reference.member Reference.first = session at hroster ⊢
  generalize Reference.final Reference.meeting = final at hstep hroster ⊢
  cases System.stepped_of_step hstep with
  | @handle _ task message serverTimestamp session running handling known =>
    exact ⟨_, handle_task .., rfl, hroster⟩

/-- One more frame at the end of the meeting. -/
lemma meeting_extra {Skipped : System → Session → ClientMessage → UInt64 → Prop} {text : String}
    {message : ClientMessage} (hdecodes : decodeClientMessage Reference.crates text = .ok message)
    (hskipped : ∀ system : System, system.state = (Reference.final Reference.meeting).state →
      Skipped system (Reference.member Reference.first) message Reference.first.serverTimestamp) :
    OneMoreFrame Reference.crates Skipped Reference.meeting (Reference.meeting ++ extra text) := by
  obtain ⟨task, htask, hreading, hsession⟩ := meeting_reads
  have hstep : (Reference.final Reference.meeting).step Reference.crates
      (Reference.receive 0 Reference.first text) = some _ :=
    step_of_stepped (.receive _ _ _ _ htask hreading)
  have hreached := (Execution.exec_concat _ _ _ _ _).mpr ⟨_, Reference.meeting_runs, hstep⟩
  have hregistered := (registered_iff (inv_of_reachable ⟨_, hreached⟩)).mpr (by
    rw [System.roster, setTask_self, Option.bind_some, receive_session]
    exact hsession)
  have hone : OneMoreFrame Reference.crates Skipped (Reference.meeting ++ ([] ++ []))
      (Reference.meeting ++ extra text) := by
    apply OneMoreFrame.handled hdecodes _ hreached hregistered
    · exact hskipped _ (setTask_state ..)
    · intro action h
      cases h
  rwa [List.append_nil, List.append_nil] at hone

/-- The first login sends an offer to itself. -/
def selfOffer : String :=
  Reference.sdpText Reference.room ⟨Reference.first.key⟩ "offer" "offer"

lemma selfOffer_elsewhere {system : System}
    (hstate : system.state = (Reference.final Reference.meeting).state) (serverTimestamp : UInt64) :
    Elsewhere 1 system (Reference.member Reference.first)
      (.sendWebRtcSdp Reference.room ⟨Reference.first.key⟩ .offer "offer") serverTimestamp := by
  have hinv := inv_of_reachable ⟨_, Reference.meeting_runs⟩
  obtain ⟨hs, ht, -⟩ := Reference.meeting_final
  have huid : (Reference.final Reference.meeting).roster.uid 1 ≠ some ⟨Reference.first.key⟩ := by
    rw [Roster.uid_of_some ht]
    exact fun he => Reference.members_ne (Option.some.inj he).symm
  have helsewhere : Elsewhere 1 (Reference.final Reference.meeting)
      (Reference.member Reference.first)
      (.sendWebRtcSdp Reference.room ⟨Reference.first.key⟩ .offer "offer") serverTimestamp := by
    refine elsewhere_of_unheard trivial hinv hs ?_
    rw [Event.heard_sdp hs, if_neg (fun h => huid h.2.1)]
  unfold Elsewhere RoutedTo at helsewhere ⊢
  rwa [hstate]

theorem rooms_leave_no_trace_meeting : ∃ system',
    Execution.exec (System.step Reference.crates) System.default
      (Reference.meeting ++ extra selfOffer) = some system' ∧
    system'.outbound 1 = (Reference.final Reference.meeting).outbound 1 := by
  have hdecodes : decodeClientMessage Reference.crates selfOffer =
      .ok (.sendWebRtcSdp Reference.room ⟨Reference.first.key⟩ .offer "offer") := by
    decide +kernel
  have hone := meeting_extra hdecodes
    (fun system hstate => selfOffer_elsewhere hstate Reference.first.serverTimestamp)
  obtain ⟨system', hrun, -, -, -, houtbound⟩ := (rooms_leave_no_trace Reference.crates 1).1 _ _ _
    (.rel _ _ hone) Reference.meeting_runs
  exact ⟨system', hrun, houtbound⟩

/-! ### Redundant frames -/

/-- A frame that repeats what has been done or that the server refuses. -/
def Redundant (system : System) (s : Session) (message : ClientMessage) (_ : UInt64) : Prop :=
  match message with
  | .authIdentify _ _ => True
  | .authResponse _ => True
  | .joinVoiceRoom roomId => s.activeVoiceRoomId = some roomId
  | .leaveVoiceRoom roomId => s.activeVoiceRoomId ≠ some roomId
  | .sendTextMessage roomId _ => s.activeVoiceRoomId ≠ some roomId
  | .sendWebRtcSdp roomId targetUid _ _ => s.activeVoiceRoomId ≠ some roomId ∨
      targetUid ∉ system.state.rooms.occupants roomId
  | .sendWebRtcIce roomId targetUid _ => s.activeVoiceRoomId ≠ some roomId ∨
      targetUid ∉ system.state.rooms.occupants roomId

lemma redundant_unnoticed {c : ConnId} {system : System} {s : Session} {message : ClientMessage}
    {serverTimestamp : UInt64} (hinv : Inv system) (hs : system.roster c = some s)
    (h : Redundant system s message serverTimestamp) :
    Unnoticed (fun _ => True) system.roster (messageEvent c message serverTimestamp) := by
  have htarget : ∀ roomId targetUid d, s.activeVoiceRoomId ≠ some roomId ∨
      targetUid ∉ system.state.rooms.occupants roomId →
      ¬(s.activeVoiceRoomId = some roomId ∧ system.roster.uid d = some targetUid ∧
        system.roster.room d = some roomId) := by
    rintro roomId targetUid d (hroom | habsent) ⟨hactive, huid, hd⟩
    · exact hroom hactive
    · obtain ⟨t, ht, hthere⟩ := Roster.room_eq_some.mp hd
      rw [Roster.uid_of_some ht] at huid
      cases huid
      exact habsent ((hinv.tracks.mem_occupants ht roomId).mpr hthere)
  cases message with
  | authIdentify protocolVersion clientUid =>
    exact ⟨rfl, fun d _ => by simp [messageEvent, Event.heard, hs, Roster.post]⟩
  | authResponse signatureBase64 =>
    exact ⟨rfl, fun d _ => by simp [messageEvent, Event.heard, hs, Roster.post]⟩
  | joinVoiceRoom roomId =>
    constructor
    · rw [messageEvent, Event.next, Roster.moveTo_of_some hs, ← h]
      exact Roster.update_same hs
    · intro d _
      simp only [messageEvent, Event.heard, hs]
      exact if_pos h
  | leaveVoiceRoom roomId =>
    constructor
    · rw [messageEvent, Event.next, Roster.room_of_some hs]
      exact if_neg h
    · intro d _
      simp only [messageEvent, Event.heard, hs]
      exact if_pos h
  | sendTextMessage roomId textContent =>
    refine ⟨rfl, fun d _ => ?_⟩
    rw [messageEvent, Event.heard_text hs, if_neg (fun hheard => h hheard.1)]
    all_goals exact fun _ he => by cases he
  | sendWebRtcSdp roomId targetUid sdpType sdpRaw =>
    refine ⟨rfl, fun d _ => ?_⟩
    rw [messageEvent, Event.heard_sdp hs, if_neg (htarget roomId targetUid d h)]
    all_goals exact fun _ he => by cases he
  | sendWebRtcIce roomId targetUid candidate =>
    refine ⟨rfl, fun d _ => ?_⟩
    rw [messageEvent, Event.heard_ice hs, if_neg (htarget roomId targetUid d h)]
    all_goals exact fun _ he => by cases he

/-- Whoever is moved to a room is there. -/
lemma room_of_moveTo {roster : Roster} {c : ConnId} {roomId : Option Uuid} {s : Session}
    (h : roster.moveTo c roomId c = some s) : s.activeVoiceRoomId = roomId := by
  cases ht : roster c with
  | none =>
    rw [Roster.moveTo_of_none ht, ht] at h
    cases h
  | some t =>
    rw [Roster.moveTo_of_some ht, Function.update_self] at h
    cases h
    rfl

/-- A join or leave that has been handled is redundant until the session moves again. -/
lemma redundant_after {crates : Crates} {c : ConnId} {message : ClientMessage}
    {serverTimestamp : UInt64} {system next : System} (hinv : Inv system)
    (hpresence : ∃ roomId, message = .joinVoiceRoom roomId ∨ message = .leaveVoiceRoom roomId)
    (hphase : (system.tasks c).map SocketTask.phase = some (.handling message serverTimestamp))
    (hstep : system.step crates (.handle c) = some next) {later : System} {s : Session}
    (hs : next.roster c = some s) (serverTimestamp' : UInt64) :
    Redundant later s message serverTimestamp' := by
  have hroster := (step_refines hinv hstep).roster
  have hevent : system.event (.handle c) = messageEvent c message serverTimestamp := by
    simp only [System.event, hphase]
  have hroom := congrFun hroster c
  rw [hevent, hs] at hroom
  obtain ⟨roomId, rfl | rfl⟩ := hpresence
  · rw [messageEvent, Event.next] at hroom
    exact room_of_moveTo hroom.symm
  · rw [messageEvent, Event.next] at hroom
    intro hactive
    split at hroom
    · rw [room_of_moveTo hroom.symm] at hactive
      cases hactive
    · rename_i hnot
      exact hnot (Roster.room_eq_some.mpr ⟨s, hroom.symm, hactive⟩)

/-- Redundant frames change nothing and are heard by nobody. Such is every repetition of a join or
leave, as long as the session has not moved since. -/
theorem redundant_frames_invisible (crates : Crates) :
    (∀ actions actions' system,
      Relation.EqvGen (OneMoreFrame crates Redundant) actions actions' →
      Execution.exec (System.step crates) System.default actions = some system →
      ∃ system', Execution.exec (System.step crates) System.default actions' = some system' ∧
        system'.state.rooms = system.state.rooms ∧
        system'.state.connections = system.state.connections ∧
        (∀ c s, system'.Registered c s ↔ system.Registered c s) ∧
        ∀ d, system'.outbound d = system.outbound d) ∧
    ∀ system c message serverTimestamp next between system' s, Reachable crates system →
      (∃ roomId, message = .joinVoiceRoom roomId ∨ message = .leaveVoiceRoom roomId) →
      (system.tasks c).map SocketTask.phase = some (.handling message serverTimestamp) →
      system.step crates (.handle c) = some next →
      Execution.exec (System.step crates) next between = some system' →
      Execution.Throughout (System.step crates) (fun now => now.roster c = next.roster c) next
        between →
      system'.Registered c s → ∀ serverTimestamp', Redundant system' s message serverTimestamp' := by
  constructor
  · intro actions actions' system hedits hrun
    obtain ⟨system', hrun', hrooms, hconnections, hregistered, houtbound⟩ :=
      edited_outcome (fun _ _ _ _ _ hinv hs hskipped => redundant_unnoticed hinv hs hskipped)
        hedits hrun
    exact ⟨system', hrun', hrooms, hconnections, hregistered, fun d => houtbound d trivial⟩
  · intro system c message serverTimestamp next between system' s hreachable hpresence hphase hstep
      hbetween hstays hregistered serverTimestamp'
    have hinv := inv_of_reachable hreachable
    have hreachable' : Reachable crates system' := by
      obtain ⟨before, hbefore⟩ := hreachable.tail hstep
      exact ⟨before ++ between, Execution.exec_append_of _ hbefore hbetween⟩
    have hs := (registered_iff (inv_of_reachable hreachable')).mp hregistered
    rw [hstays between system' (List.prefix_refl between) hbetween] at hs
    exact redundant_after hinv hpresence hphase hstep hs serverTimestamp'

/-- The first login asks again to enter the room it is in. -/
theorem redundant_frames_invisible_meeting : ∃ system',
    Execution.exec (System.step Reference.crates) System.default
      (Reference.meeting ++ extra (Reference.joinText Reference.room)) = some system' ∧
    ∀ d, system'.outbound d = (Reference.final Reference.meeting).outbound d := by
  have hdecodes : decodeClientMessage Reference.crates (Reference.joinText Reference.room) =
      .ok (.joinVoiceRoom Reference.room) := by
    decide +kernel
  have hredundant : ∀ system : System,
      system.state = (Reference.final Reference.meeting).state →
      Redundant system (Reference.member Reference.first) (.joinVoiceRoom Reference.room)
        Reference.first.serverTimestamp := fun _ _ => rfl
  obtain ⟨system', hrun, -, -, -, houtbound⟩ := (redundant_frames_invisible Reference.crates).1
    _ _ _ (.rel _ _ (meeting_extra hdecodes hredundant)) Reference.meeting_runs
  exact ⟨system', hrun, houtbound⟩

end VTNet.Proofs
