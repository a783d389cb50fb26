import VTNet.Proofs.PresenceRefinement

/-!
# Routing decides by presence and power

The registry is consulted for nothing that the sessions do not say as well. Text messages are
kept from their senders, signaling messages are not.
-/

namespace VTNet.Proofs

open RoomRegistry

section Routes

variable {ι : Type*} {initial : ι → Session} {family : Family ι} {presence : Presence}
  {evaluator : PermissionEvaluator}

/-- Without looking at the registry: the sender's checks, before everything else. -/
lemma checks_eq (h : Represents initial family presence) (i : ι) (roomId : Uuid)
    (action : RoomAction) {α : Type} (answer : Except RoomRoutingError α) :
    (do family.rooms.ensureActiveMember (family.sessions i) roomId
        ensurePermission evaluator (family.sessions i).userUid roomId action
        answer) = (family.sessions i).admitted roomId evaluator action answer := by
  have hmember : family.rooms.containsMember roomId (family.sessions i).userUid = true ↔
      (family.sessions i).activeVoiceRoomId = some roomId := by
    rw [containsMember_iff, h.occupants_iff, h.userUid, h.room]
  unfold Session.admitted ensureActiveMember ensurePermission
  by_cases hroom : (family.sessions i).activeVoiceRoomId = some roomId
  · rw [if_pos ⟨hroom, hmember.mpr hroom⟩, if_neg (not_not_intro hroom)]
    by_cases hallowed : evaluator.isAllowed (family.sessions i).userUid roomId action = true
    · simp only [if_pos hallowed, if_neg (not_not_intro hallowed)]
      rfl
    · simp only [if_neg hallowed, if_pos hallowed]
      rfl
  · rw [if_neg (fun hactive => hroom hactive.1), if_pos hroom]
    rfl

lemma admitted_map (sender : Session) (roomId : Uuid) (evaluator : PermissionEvaluator)
    (action : RoomAction) {α β : Type} (answer : Except RoomRoutingError α) (f : α → β) :
    (sender.admitted roomId evaluator action answer).map f =
      sender.admitted roomId evaluator action (answer.map f) := by
  unfold Session.admitted
  split
  · rfl
  · split <;> rfl

lemma present_iff [DecidableEq ι] (hdistinct : Function.Injective fun i => (initial i).userUid)
    (hlobby : ∀ i, (initial i).activeVoiceRoomId = none) (calls : List (RoomCall ι)) (roomId : Uuid)
    (uid : UserUid) : uid ∈ ((Family.start initial).after calls).rooms.occupants roomId ↔
      Family.Present ((Family.start initial).after calls).sessions roomId uid := by
  have hrep := after_represents hdistinct hlobby calls
  rw [hrep.occupants_iff]
  constructor
  · intro huid
    obtain ⟨-, i, -, -, -, hi, -⟩ := present_since _ calls huid
    refine ⟨i, (hrep.userUid i).trans hi, ?_⟩
    rw [hrep.room i]
    rw [← hi] at huid
    exact huid
  · rintro ⟨j, rfl, hroom⟩
    rw [hrep.userUid j, ← hrep.room j, hroom]

/-- The occupants of a room other than the sender, seen from the sessions. -/
lemma others_iff [DecidableEq ι] (hdistinct : Function.Injective fun i => (initial i).userUid)
    (hlobby : ∀ i, (initial i).activeVoiceRoomId = none) (calls : List (RoomCall ι)) (i : ι)
    (roomId : Uuid) (uid : UserUid) :
    let family := (Family.start initial).after calls
    uid ∈ family.rooms.otherMembers roomId (family.sessions i).userUid ↔
      ∃ j, j ≠ i ∧ (family.sessions j).userUid = uid ∧
        (family.sessions j).activeVoiceRoomId = some roomId := by
  intro family
  have hrep : Represents initial family _ := after_represents hdistinct hlobby calls
  rw [otherMembers, Finset.mem_filter, present_iff hdistinct hlobby calls]
  constructor
  · rintro ⟨⟨j, rfl, hroom⟩, hother⟩
    refine ⟨j, ?_, rfl, hroom⟩
    rintro rfl
    exact hother rfl
  · rintro ⟨j, hji, rfl, hroom⟩
    refine ⟨⟨j, rfl, hroom⟩, ?_⟩
    intro he
    rw [hrep.userUid, hrep.userUid] at he
    exact hji (hdistinct he)

/-- A message for one occupant of a room, after the sender's checks. -/
lemma target_eq [DecidableEq ι] (hdistinct : Function.Injective fun i => (initial i).userUid)
    (hlobby : ∀ i, (initial i).activeVoiceRoomId = none) (calls : List (RoomCall ι)) (roomId : Uuid)
    (targetUid : UserUid) (message : ServerMessage) :
    let family := (Family.start initial).after calls
    Except.map (fun routed : RoutedServerMessage => ((routed.recipients : Set UserUid), routed.message))
        (do family.rooms.ensureTargetMember roomId targetUid
            return ⟨{targetUid}, message⟩) =
      open Classical in
      if Family.Present family.sessions roomId targetUid then .ok ({targetUid}, message)
      else .error .targetNotInActiveVoiceRoom := by
  intro family
  have hmember : family.rooms.containsMember roomId targetUid = true ↔
      Family.Present family.sessions roomId targetUid := by
    rw [containsMember_iff, present_iff hdistinct hlobby calls]
  unfold ensureTargetMember
  by_cases hpresent : Family.Present family.sessions roomId targetUid
  · rw [if_pos (hmember.mpr hpresent), if_pos hpresent]
    simp [Except.map, Bind.bind, Except.bind, Pure.pure, Except.pure]
  · rw [if_neg (fun hin => hpresent (hmember.mp hin)), if_neg hpresent]
    rfl

/-- What routing answers is the decision made on presence and power. -/
lemma route_decision [DecidableEq ι] (hdistinct : Function.Injective fun i => (initial i).userUid)
    (hlobby : ∀ i, (initial i).activeVoiceRoomId = none) (calls : List (RoomCall ι)) (i : ι)
    (message : ClientMessage) (serverTimestamp : UInt64) (evaluator : PermissionEvaluator) :
    let family := (Family.start initial).after calls
    (family.rooms.routeClientRoomMessage (family.sessions i) message serverTimestamp evaluator).map
        (fun routed => ((routed.recipients : Set UserUid), routed.message)) =
      Family.decision family.sessions i message serverTimestamp evaluator := by
  intro family
  have hrep : Represents initial family _ := after_represents hdistinct hlobby calls
  cases message with
  | sendTextMessage roomId textContent =>
    have hothers : ((family.rooms.otherMembers roomId (family.sessions i).userUid : Finset UserUid) :
        Set UserUid) = {uid | ∃ j, j ≠ i ∧ (family.sessions j).userUid = uid ∧
          (family.sessions j).activeVoiceRoomId = some roomId} := by
      ext uid
      exact others_iff hdistinct hlobby calls i roomId uid
    simp only [routeClientRoomMessage, Family.decision, ← hothers]
    rw [checks_eq hrep, admitted_map]
    rfl
  | sendWebRtcSdp roomId targetUid sdpType sdpRaw =>
    simp only [routeClientRoomMessage, Family.decision]
    rw [checks_eq hrep, admitted_map, target_eq hdistinct hlobby calls]
  | sendWebRtcIce roomId targetUid candidate =>
    simp only [routeClientRoomMessage, Family.decision]
    rw [checks_eq hrep, admitted_map, target_eq hdistinct hlobby calls]
  | _ => rfl

/-- A sender outside the room gets the same answer from every registry. -/
lemma route_outside {session : Session} {message : ClientMessage}
    (houtside : ∀ roomId, message.roomId? = some roomId →
      session.activeVoiceRoomId ≠ some roomId)
    (rooms rooms' : RoomRegistry) (serverTimestamp serverTimestamp' : UInt64)
    (evaluator evaluator' : PermissionEvaluator) :
    rooms.routeClientRoomMessage session message serverTimestamp evaluator =
      rooms'.routeClientRoomMessage session message serverTimestamp' evaluator' := by
  have hrefused : ∀ (registry : RoomRegistry) roomId, message.roomId? = some roomId →
      registry.ensureActiveMember session roomId = .error .senderNotInActiveVoiceRoom := by
    intro registry roomId hroom
    exact if_neg (fun hactive => houtside roomId hroom hactive.1)
  cases message with
  | sendTextMessage roomId textContent =>
    simp only [routeClientRoomMessage, hrefused _ roomId rfl]
    rfl
  | sendWebRtcSdp roomId targetUid sdpType sdpRaw =>
    simp only [routeClientRoomMessage, hrefused _ roomId rfl]
    rfl
  | sendWebRtcIce roomId targetUid candidate =>
    simp only [routeClientRoomMessage, hrefused _ roomId rfl]
    rfl
  | _ => rfl

end Routes

/-- What routing answers is the decision made on presence and power, and a sender outside the room
gets the same answer whatever the registry holds and whatever the sender's power is. -/
theorem route_decides {ι : Type*} [DecidableEq ι] (initial : ι → Session)
    (hdistinct : Function.Injective fun i => (initial i).userUid)
    (hlobby : ∀ i, (initial i).activeVoiceRoomId = none) (calls : List (RoomCall ι)) (i : ι)
    (message : ClientMessage) (serverTimestamp : UInt64) (evaluator : PermissionEvaluator) :
    let family := (Family.start initial).after calls
    let answer := family.rooms.routeClientRoomMessage (family.sessions i) message serverTimestamp
      evaluator
    answer.map (fun routed => ((routed.recipients : Set UserUid), routed.message)) =
        Family.decision family.sessions i message serverTimestamp evaluator ∧
      ((∀ roomId, message.roomId? = some roomId →
          (family.sessions i).activeVoiceRoomId ≠ some roomId) →
        ∀ rooms serverTimestamp' evaluator', RoomRegistry.routeClientRoomMessage rooms
          (family.sessions i) message serverTimestamp' evaluator' = answer) := by
  intro family answer
  refine ⟨route_decision hdistinct hlobby calls i message serverTimestamp evaluator, ?_⟩
  intro houtside rooms serverTimestamp' evaluator'
  exact route_outside houtside rooms family.rooms serverTimestamp' serverTimestamp evaluator'
    evaluator

lemma decision_of_present {ι : Type*} {sessions : ι → Session} {i : ι} {roomId : Uuid}
    {targetUid : UserUid} {evaluator : PermissionEvaluator}
    (hroom : (sessions i).activeVoiceRoomId = some roomId)
    (hallowed : evaluator.isAllowed (sessions i).userUid roomId .signal = true)
    (hpresent : Family.Present sessions roomId targetUid) (sdpType : SdpType) (sdpRaw : String)
    (serverTimestamp : UInt64) :
    Family.decision sessions i (.sendWebRtcSdp roomId targetUid sdpType sdpRaw) serverTimestamp
        evaluator =
      .ok ({targetUid}, .forwardWebRtcSdp roomId (sessions i).userUid sdpType sdpRaw) := by
  simp [Family.decision, Session.admitted, hroom, hallowed, hpresent]

/-- A guest in the hall sends an offer to the other one, and once more after leaving the hall. -/
theorem route_decides_party :
    let family := (Family.start guests).after (party.take 3)
    let gone := (Family.start guests).after party
    let offer : ClientMessage := .sendWebRtcSdp hall otherGuest .offer "offer"
    (family.rooms.routeClientRoomMessage (family.sessions guest) offer 0 everyone).map
          (fun routed => ((routed.recipients : Set UserUid), routed.message)) =
        .ok ({otherGuest}, .forwardWebRtcSdp hall guest .offer "offer") ∧
      RoomRegistry.default.routeClientRoomMessage (gone.sessions guest) offer 0 nobody =
        gone.rooms.routeClientRoomMessage (gone.sessions guest) offer 0 everyone := by
  intro family gone offer
  obtain ⟨hdecision, -⟩ :=
    route_decides guests (fun _ _ h => h) (fun _ => rfl) (party.take 3) guest offer 0 everyone
  obtain ⟨-, houtside⟩ :=
    route_decides guests (fun _ _ h => h) (fun _ => rfl) party guest offer 0 everyone
  have huid : (family.sessions guest).userUid = guest := by decide +kernel
  have hroom : (family.sessions guest).activeVoiceRoomId = some hall := by decide +kernel
  have hpresent : Family.Present family.sessions hall otherGuest :=
    ⟨otherGuest, by decide +kernel, by decide +kernel⟩
  have hgone : (gone.sessions guest).activeVoiceRoomId = none := by decide +kernel
  constructor
  · rw [← huid]
    exact hdecision.trans (decision_of_present hroom rfl hpresent .offer "offer" 0)
  · apply houtside
    intro roomId hroom hactive
    rw [hgone] at hactive
    cases hactive

/-! ### Messages that come back -/

lemma admitted_ok {sender : Session} {roomId : Uuid} {evaluator : PermissionEvaluator}
    {action : RoomAction} {α : Type} {answer : Except RoomRoutingError α} {x : α} :
    sender.admitted roomId evaluator action answer = .ok x ↔
      sender.activeVoiceRoomId = some roomId ∧
        evaluator.isAllowed sender.userUid roomId action = true ∧ answer = .ok x := by
  unfold Session.admitted
  by_cases hroom : sender.activeVoiceRoomId = some roomId
  · by_cases hallowed : evaluator.isAllowed sender.userUid roomId action = true
    · simp [hroom, hallowed]
    · simp [hroom, hallowed]
  · simp [hroom]

/-- A signaling message for the sender's room whose target is the sender, who may signal. -/
def AddressesItself (sender : Session) (evaluator : PermissionEvaluator) : ClientMessage → Prop
  | .sendWebRtcSdp roomId targetUid _ _ | .sendWebRtcIce roomId targetUid _ =>
    targetUid = sender.userUid ∧ sender.activeVoiceRoomId = some roomId ∧
      evaluator.isAllowed sender.userUid roomId .signal = true
  | _ => False

/-- The decisions that send a message back to its sender. -/
lemma decision_returns_iff {ι : Type*} {sessions : ι → Session}
    (hdistinct : Function.Injective fun i => (sessions i).userUid) (i : ι) (message : ClientMessage)
    (serverTimestamp : UInt64) (evaluator : PermissionEvaluator) :
    (∃ recipients m, Family.decision sessions i message serverTimestamp evaluator =
        .ok (recipients, m) ∧ (sessions i).userUid ∈ recipients) ↔
      AddressesItself (sessions i) evaluator message := by
  have hsignaling : ∀ roomId targetUid (m : ServerMessage),
      (∃ recipients m', (sessions i).admitted roomId evaluator .signal
          (open Classical in
            if Family.Present sessions roomId targetUid then
              .ok (({targetUid} : Set UserUid), m)
            else .error .targetNotInActiveVoiceRoom) = .ok (recipients, m') ∧
          (sessions i).userUid ∈ recipients) ↔
        targetUid = (sessions i).userUid ∧ (sessions i).activeVoiceRoomId = some roomId ∧
          evaluator.isAllowed (sessions i).userUid roomId .signal = true := by
    intro roomId targetUid m
    constructor
    · rintro ⟨recipients, m', hok, hin⟩
      obtain ⟨hroom, hallowed, hanswer⟩ := admitted_ok.mp hok
      split at hanswer
      · cases hanswer
        exact ⟨(Set.mem_singleton_iff.mp hin).symm, hroom, hallowed⟩
      · cases hanswer
    · rintro ⟨rfl, hroom, hallowed⟩
      refine ⟨_, m, admitted_ok.mpr ⟨hroom, hallowed, if_pos ⟨i, rfl, hroom⟩⟩, ?_⟩
      exact Set.mem_singleton _
  cases message with
  | sendTextMessage roomId textContent =>
    refine iff_of_false ?_ id
    rintro ⟨recipients, m, hok, hin⟩
    obtain ⟨-, -, hanswer⟩ := admitted_ok.mp hok
    cases hanswer
    obtain ⟨j, hji, huid, -⟩ := hin
    exact hji (hdistinct huid)
  | sendWebRtcSdp roomId targetUid sdpType sdpRaw => exact hsignaling roomId targetUid _
  | sendWebRtcIce roomId targetUid candidate => exact hsignaling roomId targetUid _
  | _ =>
    refine iff_of_false ?_ id
    rintro ⟨recipients, m, hok, -⟩
    cases hok

/-- A routed message stays away from its sender unless it is a signaling message to itself. -/
theorem kept_from_sender_iff {ι : Type*} [DecidableEq ι] (initial : ι → Session)
    (hdistinct : Function.Injective fun i => (initial i).userUid)
    (hlobby : ∀ i, (initial i).activeVoiceRoomId = none) (calls : List (RoomCall ι)) (i : ι)
    (message : ClientMessage) (serverTimestamp : UInt64) (evaluator : PermissionEvaluator) :
    let family := (Family.start initial).after calls
    let sender := family.sessions i
    (∀ routed, family.rooms.routeClientRoomMessage sender message serverTimestamp evaluator =
        .ok routed → sender.userUid ∉ routed.recipients) ↔
      ¬AddressesItself sender evaluator message := by
  intro family sender
  have hrep : Represents initial family _ := after_represents hdistinct hlobby calls
  have hdistinct' : Function.Injective fun j => (family.sessions j).userUid := by
    intro j k he
    dsimp only at he
    rw [hrep.userUid, hrep.userUid] at he
    exact hdistinct he
  have hreturns := decision_returns_iff hdistinct' i message serverTimestamp evaluator
  have hdecides : _ = Family.decision family.sessions i message serverTimestamp evaluator :=
    route_decision hdistinct hlobby calls i message serverTimestamp evaluator
  rw [← hreturns, ← hdecides]
  constructor
  · rintro hkept ⟨recipients, m, hok, hin⟩
    cases hroute : family.rooms.routeClientRoomMessage sender message serverTimestamp evaluator with
    | error e =>
      rw [hroute] at hok
      cases hok
    | ok routed =>
      rw [hroute] at hok
      cases hok
      exact hkept routed hroute (Finset.mem_coe.mp hin)
  · intro hnever routed hroute hin
    apply hnever
    refine ⟨routed.recipients, routed.message, ?_, Finset.mem_coe.mpr hin⟩
    rw [hroute]
    rfl

theorem kept_from_sender_iff_party :
    let family := (Family.start guests).after party
    let offer : ClientMessage := .sendWebRtcSdp hall guest .offer "offer"
    ∀ routed, family.rooms.routeClientRoomMessage (family.sessions otherGuest) offer 0 everyone =
      .ok routed → otherGuest ∉ routed.recipients :=
  (kept_from_sender_iff guests (fun _ _ h => h) (fun _ => rfl) party otherGuest _ 0 everyone).mpr
    (fun h => absurd h.1 (by decide))

/-- The guest who is in the hall sends an offer to itself, and it comes back. -/
theorem offer_comes_back :
    let family := (Family.start guests).after party
    let offer : ClientMessage := .sendWebRtcSdp hall otherGuest .offer "offer"
    ∃ routed, family.rooms.routeClientRoomMessage (family.sessions otherGuest) offer 0 everyone =
      .ok routed ∧ (family.sessions otherGuest).userUid ∈ routed.recipients :=
  ⟨⟨{otherGuest}, .forwardWebRtcSdp hall otherGuest .offer "offer"⟩, rfl, by decide⟩

end VTNet.Proofs
