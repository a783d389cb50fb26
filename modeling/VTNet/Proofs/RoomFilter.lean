import VTNet.Proofs.OutboundProtocol

/-!
# The room filter of the client

The client drops room messages by a ref that an effect copies from its state. The ref is as old as
the render whose effect ran last, so the filter agrees with the server exactly where the room has
not changed since that render.
-/

namespace VTNet.Proofs

/-! ### The room that the log confirms -/

def bracketStep (roomId : Option Uuid) : ServerMessage → Option Uuid
  | .voiceRoomJoined joined => some joined
  | .voiceRoomLeft _ => none
  | _ => roomId

/-- The room of the last `voice_room_joined` that no `voice_room_left` follows. -/
def bracketRoom (log : List ServerMessage) : Option Uuid := log.foldl bracketStep none

/-- What the room filter decides about for the client of `self`. -/
def Filtered (self : UserUid) : ServerMessage → Prop
  | .peerJoinedRoom _ peerUid _ => peerUid ≠ self
  | .forwardWebRtcIce _ _ candidate => App.isObject candidate.tree = true
  | m => m.isPeerEvent = true

lemma isPeerEvent_of_filtered {self : UserUid} {m : ServerMessage} (h : Filtered self m) :
    m.isPeerEvent = true := by
  cases m <;> first | rfl | exact h

lemma bracketRoom_concat (log : List ServerMessage) (m : ServerMessage) :
    bracketRoom (log ++ [m]) = bracketStep (bracketRoom log) m := by
  rw [bracketRoom, List.foldl_append]
  rfl

def Stage.room : Stage → Option Uuid
  | .inRoom _ roomId => some roomId
  | _ => none

lemma bracketStep_peer {m : ServerMessage} (h : m.isPeerEvent = true) (roomId : Option Uuid) :
    bracketStep roomId m = roomId := by
  cases m <;> first | rfl | cases h

/-- A room message is accepted only by a stage in its room. -/
lemma room_of_peer {stage stage' : Stage} {m : ServerMessage}
    (h : outboundStep stage m = some stage') (hpeer : m.isPeerEvent = true) :
    m.roomId? = stage.room ∧ stage' = stage := by
  cases stage with
  | inRoom uid here =>
    have hroom : m.roomId? = some here ∧ stage' = .inRoom uid here := by
      cases m with
      | voiceRoomJoined => cases hpeer
      | voiceRoomLeft => cases hpeer
      | _ =>
        simp only [outboundStep] at h
        split_ifs at h with haccepted
        cases h
        exact ⟨haccepted.2.1, rfl⟩
    exact hroom
  | _ =>
    exfalso
    cases m <;> first | exact absurd hpeer Bool.false_ne_true | cases h

lemma room_of_outboundStep {stage stage' : Stage} {m : ServerMessage}
    (h : outboundStep stage m = some stage') : stage'.room = bracketStep stage.room m := by
  by_cases hpeer : m.isPeerEvent = true
  · rw [bracketStep_peer hpeer, (room_of_peer h hpeer).2]
  · cases m with
    | voiceRoomJoined roomId =>
      cases stage with
      | unauth => cases h
      | lobby uid => cases h; rfl
      | inRoom uid here =>
        simp only [outboundStep] at h
        split_ifs at h
        cases h
        rfl
    | voiceRoomLeft roomId =>
      cases stage with
      | inRoom uid here =>
        simp only [outboundStep] at h
        split_ifs at h
        cases h
        rfl
      | _ => cases h
    | authChallenge | authFailure | authSuccess =>
      cases stage with
      | inRoom uid here =>
        simp only [outboundStep] at h
        split_ifs at h with haccepted
        exact absurd haccepted.1 hpeer
      | lobby uid => cases h
      | unauth => cases h; rfl
    | _ => exact absurd rfl hpeer

/-- The stage of a log is in the room that the log confirms. -/
lemma room_of_accepted {log : List ServerMessage} {stage : Stage}
    (h : Execution.exec outboundStep .unauth log = some stage) : stage.room = bracketRoom log := by
  refine Execution.exec_induction outboundStep
    (motive := fun log stage => stage.room = bracketRoom log) rfl ?_ log stage h
  intro log stage m stage' _ ih hstep
  rw [bracketRoom_concat, ← ih]
  exact room_of_outboundStep hstep

/-- Every room message of an accepted log is about the room that the log confirms before it. -/
lemma roomId_of_accepted {log rest : List ServerMessage} {m : ServerMessage} {stage : Stage}
    (h : Execution.exec outboundStep .unauth (log ++ m :: rest) = some stage)
    (hpeer : m.isPeerEvent = true) : m.roomId? = bracketRoom log := by
  rw [Execution.exec_append, Option.bind_eq_some_iff] at h
  obtain ⟨before, hbefore, hrest⟩ := h
  rw [Execution.exec_cons, Option.bind_eq_some_iff] at hrest
  obtain ⟨after, hstep, -⟩ := hrest
  rw [← room_of_accepted hbefore]
  exact (room_of_peer hstep hpeer).1

/-! ### Renders, effects and the ref -/

def messagesOf (events : List UiEvent) : List ServerMessage :=
  events.filterMap fun
    | .message m => some m
    | _ => none

/-- How many messages have been handled, how many had been at each render whose effect has still
to run, and at the render whose effect ran last. -/
structure Placement where
  handled : ℕ
  rendered : List ℕ
  copied : ℕ

def Placement.step (placement : Placement) : UiEvent → Placement
  | .message _ => { placement with handled := placement.handled + 1 }
  | .render => { placement with rendered := placement.rendered ++ [placement.handled] }
  | .effect =>
    match placement.rendered with
    | [] => placement
    | copied :: rendered => ⟨placement.handled, rendered, copied⟩

def placementOf (events : List UiEvent) : Placement := events.foldl Placement.step ⟨0, [], 0⟩

/-- The component after a list of events. -/
def mountedAfter (sign : String → UInt64 → Except String String) (sdp : String) (self : UserUid)
    (events : List UiEvent) : Mounted :=
  events.foldl (Mounted.step sign sdp) (Mounted.start self)

lemma messagesOf_concat (events : List UiEvent) (event : UiEvent) :
    messagesOf (events ++ [event]) = messagesOf events ++ messagesOf [event] := by
  rw [messagesOf, List.filterMap_append]
  rfl

lemma placementOf_concat (events : List UiEvent) (event : UiEvent) :
    placementOf (events ++ [event]) = (placementOf events).step event := by
  rw [placementOf, List.foldl_append]
  rfl

lemma mountedAfter_concat (sign : String → UInt64 → Except String String) (sdp : String)
    (self : UserUid) (events : List UiEvent) (event : UiEvent) :
    mountedAfter sign sdp self (events ++ [event]) =
      Mounted.step sign sdp (mountedAfter sign sdp self events) event := by
  rw [mountedAfter, List.foldl_append]
  rfl

/-- A message moves the state to the room it confirms and leaves the ref alone. -/
lemma app_after_message (sign : String → UInt64 → Except String String) (sdp : String) (app : App)
    (m : ServerMessage) :
    let app' := ((app.handleServerMessage sign sdp m).map Prod.fst).getD app
    app'.identity = app.identity ∧ app'.activeRoomRef = app.activeRoomRef ∧
      app'.activeRoomId = bracketStep app.activeRoomId m := by
  cases m <;> simp only [App.handleServerMessage, bracketStep] <;> repeat' split
  all_goals exact ⟨rfl, rfl, rfl⟩

section Client

variable {sign : String → UInt64 → Except String String} {sdp : String} {self : UserUid}

/-- The filter lets a message through exactly if it is about the room of the ref. -/
lemma handled_iff_ref {app : App} (hself : app.identity = some self) {m : ServerMessage}
    (hfiltered : Filtered self m) :
    (app.handleServerMessage sign sdp m).isSome ↔ app.activeRoomRef = m.roomId? := by
  have hpeer := isPeerEvent_of_filtered hfiltered
  cases m with
  | peerJoinedRoom roomId peerUid peerName =>
    have hother : self ≠ peerUid := fun h => hfiltered h.symm
    simp [App.handleServerMessage, ServerMessage.roomId?, hself, hother]
  | peerLeftRoom => simp [App.handleServerMessage, ServerMessage.roomId?]
  | forwardWebRtcSdp roomId senderUid sdpType sdpRaw =>
    cases sdpType <;> simp [App.handleServerMessage, ServerMessage.roomId?]
  | forwardWebRtcIce roomId senderUid candidate =>
    have hobject : App.isObject candidate.tree = true := hfiltered
    simp [App.handleServerMessage, ServerMessage.roomId?, hobject]
  | broadcastTextMessage => simp [App.handleServerMessage, ServerMessage.roomId?]
  | _ => exact absurd hpeer Bool.false_ne_true

/-- What the component knows after some events, as a matter of how they are placed. -/
structure Mirrors (uid : UserUid) (log : List ServerMessage) (placement : Placement)
    (mounted : Mounted) : Prop where
  handled : placement.handled = log.length
  identity : mounted.app.identity = some uid
  state : mounted.app.activeRoomId = bracketRoom log
  ref : mounted.app.activeRoomRef = bracketRoom (log.take placement.copied)
  copied : placement.copied ≤ log.length
  effects : mounted.effects = placement.rendered.map fun n => bracketRoom (log.take n)
  rendered : ∀ n ∈ placement.rendered, n ≤ log.length

lemma Mirrors.message {log : List ServerMessage} {placement : Placement} {mounted : Mounted}
    (h : Mirrors self log placement mounted) (m : ServerMessage) :
    Mirrors self (log ++ [m]) (placement.step (.message m))
      (Mounted.step sign sdp mounted (.message m)) := by
  have hstep : Mounted.step sign sdp mounted (.message m) = { mounted with
      app := ((mounted.app.handleServerMessage sign sdp m).map Prod.fst).getD mounted.app } := by
    simp only [Mounted.step]
    split <;> simp_all
  obtain ⟨hidentity, href, hroom⟩ := app_after_message sign sdp mounted.app m
  -- what was handled before a render stays what it was
  have htake : ∀ n, n ≤ log.length → (log ++ [m]).take n = log.take n :=
    fun n hn => List.take_append_of_le_length hn
  rw [hstep]
  constructor
  · simp [Placement.step, h.handled]
  · exact hidentity.trans h.identity
  · rw [bracketRoom_concat, ← h.state]
    exact hroom
  · rw [Placement.step, htake _ h.copied, ← h.ref]
    exact href
  · have hcopied := h.copied
    simp only [Placement.step, List.length_append, List.length_singleton]
    omega
  · rw [h.effects]
    apply List.map_congr_left
    intro n hn
    rw [htake n (h.rendered n hn)]
  · intro n hn
    have hle := h.rendered n hn
    rw [List.length_append]
    omega

lemma Mirrors.render {log : List ServerMessage} {placement : Placement} {mounted : Mounted}
    (h : Mirrors self log placement mounted) :
    Mirrors self log (placement.step .render) (Mounted.step sign sdp mounted .render) := by
  refine ⟨h.handled, h.identity, h.state, h.ref, h.copied, ?_, ?_⟩
  · simp only [Placement.step, Mounted.step, h.effects, List.map_append, List.map_singleton,
      h.handled, List.take_length, h.state]
  · intro n hn
    rcases List.mem_append.mp hn with hn | hn
    · exact h.rendered n hn
    · rw [List.mem_singleton.mp hn]
      exact h.handled.le

lemma Mirrors.effect {log : List ServerMessage} {placement : Placement} {mounted : Mounted}
    (h : Mirrors self log placement mounted) :
    Mirrors self log (placement.step .effect) (Mounted.step sign sdp mounted .effect) := by
  have heffects := h.effects
  cases hrendered : placement.rendered with
  | nil =>
    rw [hrendered] at heffects
    simpa only [Placement.step, Mounted.step, hrendered, heffects, List.map_nil] using h
  | cons n rendered =>
    rw [hrendered] at heffects
    have hbound : ∀ k ∈ n :: rendered, k ≤ log.length := hrendered ▸ h.rendered
    simp only [Placement.step, Mounted.step, hrendered, heffects, List.map_cons]
    exact ⟨h.handled, h.identity, h.state, rfl, hbound n List.mem_cons_self, rfl,
      fun k hk => hbound k (List.mem_cons_of_mem n hk)⟩

lemma mirrors_of_events (events : List UiEvent) :
    Mirrors self (messagesOf events) (placementOf events) (mountedAfter sign sdp self events) := by
  induction events using List.reverseRecOn with
  | nil => exact ⟨rfl, rfl, rfl, rfl, le_rfl, rfl, fun n hn => by cases hn⟩
  | append_singleton events event ih =>
    rw [messagesOf_concat, placementOf_concat, mountedAfter_concat]
    cases event with
    | message m => exact ih.message m
    | render =>
      have hnone : messagesOf [.render] = [] := rfl
      rw [hnone, List.append_nil]
      exact ih.render
    | effect =>
      have hnone : messagesOf [.effect] = [] := rfl
      rw [hnone, List.append_nil]
      exact ih.effect

end Client

/-! ### The filter and the bracketing -/

/-- The filter decides about every room message of the events as the log before it says. -/
def FilterAgrees (sign : String → UInt64 → Except String String) (sdp : String) (self : UserUid)
    (events : List UiEvent) : Prop :=
  ∀ before m after, events = before ++ .message m :: after → Filtered self m →
    (((mountedAfter sign sdp self before).app.handleServerMessage sign sdp m).isSome ↔
      m.roomId? = bracketRoom (messagesOf before))

/-- At every room message of the events, the room is the one of the render whose effect ran last. -/
def RefCurrent (self : UserUid) (events : List UiEvent) : Prop :=
  ∀ before m after, events = before ++ .message m :: after → Filtered self m →
    bracketRoom ((messagesOf before).take (placementOf before).copied) =
      bracketRoom (messagesOf before)

/-- For every log of the server and every placement of renders and effects, the filter agrees
with the bracketing of the log exactly if the ref is current at every room message. -/
theorem filter_agrees_iff {crates : Crates} {actions : List Action} {system : System}
    (h : Execution.exec (System.step crates) System.default actions = some system) (c : ConnId)
    (sign : String → UInt64 → Except String String) (sdp : String) (self : UserUid)
    {events : List UiEvent} (hlog : messagesOf events <+: system.outbound c) :
    FilterAgrees sign sdp self events ↔ RefCurrent self events := by
  obtain ⟨stage, haccepted, -⟩ := staged_of_run h c
  obtain ⟨rest, hrest⟩ := hlog
  have hroom : ∀ before m after, events = before ++ .message m :: after → Filtered self m →
      m.roomId? = bracketRoom (messagesOf before) := by
    rintro before m after rfl hfiltered
    have hsplit : system.outbound c = messagesOf before ++ m :: (messagesOf after ++ rest) := by
      rw [← hrest, messagesOf, List.filterMap_append, List.filterMap_cons, List.append_assoc]
      rfl
    rw [hsplit] at haccepted
    exact roomId_of_accepted haccepted (isPeerEvent_of_filtered hfiltered)
  have hfilter : ∀ before m, Filtered self m →
      (((mountedAfter sign sdp self before).app.handleServerMessage sign sdp m).isSome ↔
        bracketRoom ((messagesOf before).take (placementOf before).copied) = m.roomId?) := by
    intro before m hfiltered
    have hmirrors : Mirrors self (messagesOf before) (placementOf before)
      (mountedAfter sign sdp self before) := mirrors_of_events before
    rw [handled_iff_ref hmirrors.identity hfiltered, hmirrors.ref]
  constructor
  · intro hagrees before m after hevents hfiltered
    have hm := hroom before m after hevents hfiltered
    have hhandled := (hagrees before m after hevents hfiltered).mpr hm
    rw [(hfilter before m hfiltered).mp hhandled, hm]
  · intro hcurrent before m after hevents hfiltered
    rw [hfilter before m hfiltered, hcurrent before m after hevents hfiltered]
    exact eq_comm

/-! ### An arrival that is dropped -/

/-- The first login's client signs its challenges. -/
def signFirst : String → UInt64 → Except String String :=
  App.signChallenge Reference.crates id ⟨.ok (), .error .noEntry, fun _ => .ok ()⟩
    Reference.second.seed ⟨some Reference.first.seed, false⟩

/-- It handles what it hears of the meeting before React renders. -/
def meetingEvents : List UiEvent :=
  ((Reference.final Reference.meeting).outbound 0).map .message ++ [.render, .effect]

lemma messagesOf_meetingEvents :
    messagesOf meetingEvents = (Reference.final Reference.meeting).outbound 0 := by
  unfold meetingEvents
  generalize (Reference.final Reference.meeting).outbound 0 = log
  induction log with
  | nil => rfl
  | cons m log ih => exact congrArg (m :: ·) ih

/-- The client of the first login hears in the confirmed room that the second one has entered it,
before the effect of that confirmation has run, and sends no offer. -/
theorem filter_drops_arrival :
    messagesOf meetingEvents <+: (Reference.final Reference.meeting).outbound 0 ∧
      (∃ before peerName, meetingEvents = before ++ [.message (.peerJoinedRoom Reference.room
          ⟨Reference.second.key⟩ peerName), .render, .effect] ∧
        bracketRoom (messagesOf before) = some Reference.room ∧
        (mountedAfter signFirst "" ⟨Reference.first.key⟩ before).app.handleServerMessage signFirst ""
          (.peerJoinedRoom Reference.room ⟨Reference.second.key⟩ peerName) = none) ∧
      ¬FilterAgrees signFirst "" ⟨Reference.first.key⟩ meetingEvents := by
  obtain ⟨nonceBase64, serverTimestamp, verifiedUid, assignedName, serverName, peerName, hlog⟩ :=
    Reference.meeting_greets
  set before : List UiEvent := [.message (.authChallenge nonceBase64 serverTimestamp),
    .message (.authSuccess verifiedUid assignedName serverName),
    .message (.voiceRoomJoined Reference.room)] with hbefore
  have hevents : meetingEvents = before ++ [.message (.peerJoinedRoom Reference.room
      ⟨Reference.second.key⟩ peerName), .render, .effect] := by
    rw [meetingEvents, hlog]
    rfl
  have hfiltered : Filtered ⟨Reference.first.key⟩ (.peerJoinedRoom Reference.room
      ⟨Reference.second.key⟩ peerName) := Reference.members_ne.symm
  have hmirrors : Mirrors ⟨Reference.first.key⟩ (messagesOf before) (placementOf before)
      (mountedAfter signFirst "" ⟨Reference.first.key⟩ before) := mirrors_of_events before
  have hconfirmed : bracketRoom (messagesOf before) = some Reference.room := rfl
  -- no effect has run yet
  have href : (mountedAfter signFirst "" ⟨Reference.first.key⟩ before).app.activeRoomRef = none :=
    hmirrors.ref
  have hdropped : ¬((mountedAfter signFirst "" ⟨Reference.first.key⟩ before).app.handleServerMessage
      signFirst "" (.peerJoinedRoom Reference.room ⟨Reference.second.key⟩ peerName)).isSome := by
    rw [handled_iff_ref hmirrors.identity hfiltered, href]
    intro hnone
    cases hnone
  refine ⟨?_, ⟨before, peerName, hevents, hconfirmed, by simpa using hdropped⟩, ?_⟩
  · rw [messagesOf_meetingEvents]
  · intro hagrees
    exact hdropped ((hagrees before _ _ hevents hfiltered).mpr hconfirmed.symm)

theorem filter_agrees_iff_meeting :
    FilterAgrees signFirst "" ⟨Reference.first.key⟩ meetingEvents ↔
      RefCurrent ⟨Reference.first.key⟩ meetingEvents :=
  filter_agrees_iff Reference.meeting_runs 0 signFirst "" ⟨Reference.first.key⟩
    (messagesOf_meetingEvents ▸ List.prefix_rfl)

end VTNet.Proofs
