import VTNet.Proofs.TwoRuns

/-!
# Operations in another order

A message moves the session of its sender, and it is heard in the rooms that it touches. So the
operations of two users commute, and the ways to depart from a room agree.
-/

namespace VTNet.Proofs

/-- The session after its message. -/
def movedBy (message : ClientMessage) (s : Session) : Session :=
  match message with
  | .joinVoiceRoom roomId => { s with activeVoiceRoomId := some roomId }
  | .leaveVoiceRoom roomId =>
    if s.activeVoiceRoomId = some roomId then { s with activeVoiceRoomId := none } else s
  | _ => s

/-- The rooms that a message can touch: the one that its sender is in and the one that it names. -/
def Touches (s : Session) (message : ClientMessage) (roomId : Uuid) : Prop :=
  s.activeVoiceRoomId = some roomId ∨ message.roomId? = some roomId

lemma movedBy_touched {s : Session} {message : ClientMessage} {roomId : Uuid}
    (h : (movedBy message s).activeVoiceRoomId = some roomId) : Touches s message roomId := by
  cases message with
  | joinVoiceRoom room => exact Or.inr h
  | leaveVoiceRoom room =>
    simp only [movedBy] at h
    split at h
    · cases h
    · exact Or.inl h
  | _ => exact Or.inl h

section Events

variable {roster roster' : Roster} {c d : ConnId} {s t : Session}

lemma next_message (hs : roster c = some s) (message : ClientMessage) (serverTimestamp : UInt64) :
    (messageEvent c message serverTimestamp).next roster =
      Function.update roster c (some (movedBy message s)) := by
  cases message with
  | joinVoiceRoom roomId => exact Roster.moveTo_of_some hs _
  | leaveVoiceRoom roomId =>
    simp only [messageEvent, Event.next, movedBy, Roster.room_of_some hs]
    split
    · exact Roster.moveTo_of_some hs _
    · exact (Roster.update_same hs).symm
  | _ => exact (Roster.update_same hs).symm

/-- What `d` hears of a message depends on the sessions of its sender and of `d` only. -/
lemma heard_congr (hc : roster' c = roster c) (hd : roster' d = roster d) (message : ClientMessage)
    (serverTimestamp : UInt64) :
    (messageEvent c message serverTimestamp).heard roster' d =
      (messageEvent c message serverTimestamp).heard roster d := by
  have hroom : roster'.room d = roster.room d := by unfold Roster.room; rw [hd]
  have huid : roster'.uid d = roster.uid d := by unfold Roster.uid; rw [hd]
  cases hs : roster c with
  | none =>
    have hs' := hc.trans hs
    cases message <;> simp only [messageEvent, Event.heard, hs, hs']
  | some s =>
    have hs' := hc.trans hs
    cases message with
    | joinVoiceRoom roomId => simp only [messageEvent, Event.heard, hs, hs', hroom]
    | leaveVoiceRoom roomId => simp only [messageEvent, Event.heard, hs, hs', hroom]
    | sendTextMessage roomId textContent =>
      simp only [messageEvent, Event.heard_text hs, Event.heard_text hs', hroom]
    | sendWebRtcSdp roomId targetUid sdpType sdpRaw =>
      simp only [messageEvent, Event.heard_sdp hs, Event.heard_sdp hs', hroom, huid]
    | sendWebRtcIce roomId targetUid candidate =>
      simp only [messageEvent, Event.heard_ice hs, Event.heard_ice hs', hroom, huid]
    | _ => simp only [messageEvent, Event.heard, hs, hs', Roster.post]

/-- A message is heard by its sender and in the rooms that it touches. -/
lemma heard_far (hs : roster c = some s) {message : ClientMessage} (hdc : d ≠ c)
    (hfar : ∀ roomId, roster.room d = some roomId → ¬Touches s message roomId)
    (serverTimestamp : UInt64) :
    (messageEvent c message serverTimestamp).heard roster d = [] := by
  cases message with
  | joinVoiceRoom roomId =>
    simp only [messageEvent, Event.heard, hs, if_neg hdc]
    split
    · rfl
    · cases hd : roster.room d with
      | none => rfl
      | some here =>
        have htouch := hfar here hd
        simp only [Touches, ClientMessage.roomId?, not_or, Option.some.injEq] at htouch
        dsimp only
        rw [if_neg htouch.1, if_neg (Ne.symm htouch.2)]
  | leaveVoiceRoom roomId =>
    have hd : roster.room d ≠ some roomId := fun hd => hfar roomId hd (Or.inr rfl)
    simp only [messageEvent, Event.heard, hs, if_neg hdc, if_neg hd, ite_self]
  | sendTextMessage roomId textContent =>
    have hd : roster.room d ≠ some roomId := fun hd => hfar roomId hd (Or.inr rfl)
    rw [messageEvent, Event.heard_text hs, if_neg (fun h => hd h.2.2)]
    all_goals exact fun _ he => by cases he
  | sendWebRtcSdp roomId targetUid sdpType sdpRaw =>
    have hd : roster.room d ≠ some roomId := fun hd => hfar roomId hd (Or.inr rfl)
    rw [messageEvent, Event.heard_sdp hs, if_neg (fun h => hd h.2.2)]
    all_goals exact fun _ he => by cases he
  | sendWebRtcIce roomId targetUid candidate =>
    have hd : roster.room d ≠ some roomId := fun hd => hfar roomId hd (Or.inr rfl)
    rw [messageEvent, Event.heard_ice hs, if_neg (fun h => hd h.2.2)]
    all_goals exact fun _ he => by cases he
  | _ => simp only [messageEvent, Event.heard, hs, Roster.post]

end Events

section Sections

variable {state : ServerState} {roster : Roster} {c d : ConnId} {s t : Session}
  {m n : ClientMessage}

/-- The session that the locked section of a message leaves. -/
lemma handled_session (h : Tracks state roster) (hs : roster c = some s) (outbound : Outbound)
    (m : ClientMessage) (serverTimestamp : UInt64) :
    (handleAuthenticatedMessage state outbound s m serverTimestamp).2.2 = movedBy m s := by
  have hsession := (handleAuthenticatedMessage_refines h hs outbound m serverTimestamp).session
  rw [next_message hs] at hsession
  have hc := congrFun hsession c
  rw [Function.update_self, Function.update_self] at hc
  exact (Option.some.inj hc).symm

lemma handled_tracks (h : Tracks state roster) (hs : roster c = some s) (outbound : Outbound)
    (m : ClientMessage) (serverTimestamp : UInt64) :
    Tracks (handleAuthenticatedMessage state outbound s m serverTimestamp).1
      (Function.update roster c (some (movedBy m s))) := by
  rw [← next_message hs m serverTimestamp]
  exact (handleAuthenticatedMessage_refines h hs outbound m serverTimestamp).tracks

/-- Handling the message of `d` after that of `c`. -/
lemma handled_twice (h : Tracks state roster) (hs : roster c = some s) (ht : roster d = some t)
    (hcd : d ≠ c) (outbound : Outbound) (m n : ClientMessage)
    (serverTimestamp serverTimestamp' : UInt64) :
    let first := handleAuthenticatedMessage state outbound s m serverTimestamp
    let second := handleAuthenticatedMessage first.1 first.2.1 t n serverTimestamp'
    Tracks second.1 (Function.update (Function.update roster c (some (movedBy m s))) d
        (some (movedBy n t))) ∧
      second.2.2 = movedBy n t ∧
      ∀ x, second.2.1 x = outbound x ++ (messageEvent c m serverTimestamp).heard roster x ++
        (messageEvent d n serverTimestamp').heard
          (Function.update roster c (some (movedBy m s))) x := by
  intro first second
  have htracks : Tracks first.1 (Function.update roster c (some (movedBy m s))) :=
    handled_tracks h hs outbound m serverTimestamp
  have ht' : Function.update roster c (some (movedBy m s)) d = some t := by
    rw [Function.update_of_ne hcd, ht]
  refine ⟨handled_tracks htracks ht' _ n serverTimestamp', handled_session htracks ht' _ n _, ?_⟩
  intro x
  have hfirst := (handleAuthenticatedMessage_refines h hs outbound m serverTimestamp).heard x
  have hsecond := (handleAuthenticatedMessage_refines htracks ht' first.2.1 n serverTimestamp').heard x
  rw [hsecond, hfirst]

/-- The sender of `m` does not hear a message that touches none of the rooms of `m`, neither before
`m` moves its session nor afterwards. -/
lemma heard_by_sender (hs : roster c = some s) (ht : roster d = some t) (hcd : d ≠ c)
    (hdisjoint : ∀ roomId, Touches s m roomId → ¬Touches t n roomId) (serverTimestamp : UInt64) :
    (messageEvent d n serverTimestamp).heard roster c = [] ∧
      (messageEvent d n serverTimestamp).heard
        (Function.update roster c (some (movedBy m s))) c = [] := by
  constructor
  · apply heard_far ht hcd.symm
    intro roomId hroom
    rw [Roster.room_of_some hs] at hroom
    exact hdisjoint roomId (Or.inl hroom)
  · apply heard_far ((Function.update_of_ne hcd _ _).trans ht) hcd.symm
    intro roomId hroom
    rw [Roster.room_of_some (Function.update_self ..)] at hroom
    exact hdisjoint roomId (movedBy_touched hroom)

/-- Messages of two connections that touch no common room are heard alike in both orders. -/
lemma heard_comm (hs : roster c = some s) (ht : roster d = some t) (hcd : d ≠ c)
    (hdisjoint : ∀ roomId, Touches s m roomId → ¬Touches t n roomId)
    (serverTimestamp serverTimestamp' : UInt64) (x : ConnId) :
    (messageEvent c m serverTimestamp).heard roster x ++
        (messageEvent d n serverTimestamp').heard
          (Function.update roster c (some (movedBy m s))) x =
      (messageEvent d n serverTimestamp').heard roster x ++
        (messageEvent c m serverTimestamp).heard
          (Function.update roster d (some (movedBy n t))) x := by
  by_cases hxc : x = c
  · subst hxc
    obtain ⟨hbefore, hafter⟩ := heard_by_sender hs ht hcd hdisjoint serverTimestamp'
    have hsame := Function.update_of_ne hcd.symm (some (movedBy n t)) roster
    rw [hbefore, hafter, List.append_nil, List.nil_append, heard_congr hsame hsame]
  · by_cases hxd : x = d
    · subst hxd
      obtain ⟨hbefore, hafter⟩ := heard_by_sender ht hs hcd.symm
        (fun roomId hn hm => hdisjoint roomId hm hn) serverTimestamp
      have hsame := Function.update_of_ne hcd (some (movedBy m s)) roster
      rw [hbefore, hafter, List.append_nil, List.nil_append, heard_congr hsame hsame]
    · -- neither message moves `x`, and it is in a room of at most one of them
      rw [heard_congr (Function.update_of_ne hcd _ _) (Function.update_of_ne hxc _ _),
        heard_congr (Function.update_of_ne hcd.symm _ _) (Function.update_of_ne hxd _ _)]
      by_cases hroom : ∃ roomId, roster.room x = some roomId ∧ Touches s m roomId
      · obtain ⟨here, hhere, htouch⟩ := hroom
        have hsilent : (messageEvent d n serverTimestamp').heard roster x = [] := by
          apply heard_far ht hxd
          intro roomId hx
          rw [hhere] at hx
          cases hx
          exact hdisjoint here htouch
        rw [hsilent, List.append_nil, List.nil_append]
      · have hsilent : (messageEvent c m serverTimestamp).heard roster x = [] := by
          apply heard_far hs hxc
          exact fun roomId hx htouch => hroom ⟨roomId, hx, htouch⟩
        rw [hsilent, List.append_nil, List.nil_append]

end Sections

/-- The operations of two users lead to the same state in both orders. If they touch no common
room, nobody can tell the order. -/
theorem operations_commute {crates : Crates} {system : System} (h : Reachable crates system)
    {c d : ConnId} {s t : Session} (hs : system.Registered c s) (ht : system.Registered d t)
    (huid : s.userUid ≠ t.userUid) (m n : ClientMessage) (serverTimestamp serverTimestamp' : UInt64) :
    let mFirst := handleAuthenticatedMessage system.state system.outbound s m serverTimestamp
    let mThenN := handleAuthenticatedMessage mFirst.1 mFirst.2.1 t n serverTimestamp'
    let nFirst := handleAuthenticatedMessage system.state system.outbound t n serverTimestamp'
    let nThenM := handleAuthenticatedMessage nFirst.1 nFirst.2.1 s m serverTimestamp
    mThenN.1 = nThenM.1 ∧ mFirst.2.2 = nThenM.2.2 ∧ mThenN.2.2 = nFirst.2.2 ∧
      ((∀ roomId, Touches s m roomId → ¬Touches t n roomId) → mThenN.2.1 = nThenM.2.1) := by
  intro mFirst mThenN nFirst nThenM
  have hinv := inv_of_reachable h
  have htracks := hinv.tracks
  rw [registered_iff hinv] at hs ht
  have hcd : d ≠ c := by
    rintro rfl
    rw [hs] at ht
    cases ht
    exact huid rfl
  obtain ⟨hmn, hsessionN, hheardMN⟩ :=
    handled_twice htracks hs ht hcd system.outbound m n serverTimestamp serverTimestamp'
  obtain ⟨hnm, hsessionM, hheardNM⟩ :=
    handled_twice htracks ht hs hcd.symm system.outbound n m serverTimestamp' serverTimestamp
  rw [Function.update_comm hcd] at hnm
  refine ⟨hmn.unique hnm, ?_, ?_, ?_⟩
  · exact (handled_session htracks hs _ m serverTimestamp).trans hsessionM.symm
  · exact hsessionN.trans (handled_session htracks ht _ n serverTimestamp').symm
  · intro hdisjoint
    funext x
    apply (hheardMN x).trans
    apply Eq.trans _ (hheardNM x).symm
    rw [List.append_assoc, List.append_assoc, heard_comm hs ht hcd hdisjoint]

/-- Both logins leave the rooms that they are in. -/
theorem operations_commute_parting : ∃ system first second,
    Reachable Reference.crates system ∧ system.Registered 0 first ∧ system.Registered 1 second ∧
      let left := handleAuthenticatedMessage system.state system.outbound first
        (.leaveVoiceRoom Reference.room) 0
      let otherLeft := handleAuthenticatedMessage system.state system.outbound second
        (.leaveVoiceRoom Reference.otherRoom) 0
      let bothLeft := handleAuthenticatedMessage left.1 left.2.1 second
        (.leaveVoiceRoom Reference.otherRoom) 0
      let bothLeft' := handleAuthenticatedMessage otherLeft.1 otherLeft.2.1 first
        (.leaveVoiceRoom Reference.room) 0
      bothLeft.1 = bothLeft'.1 ∧ left.2.2 = bothLeft'.2.2 ∧ bothLeft.2.1 = bothLeft'.2.1 := by
  obtain ⟨system, hexec, hfirst, hsecond⟩ := Reference.parting_leaves
  have hreachable : Reachable Reference.crates system := ⟨_, hexec⟩
  have hinv := inv_of_reachable hreachable
  have hregistered := (registered_iff hinv).mpr hfirst
  have hregistered' := (registered_iff hinv).mpr hsecond
  obtain ⟨hstate, hsession, -, hlogs⟩ := operations_commute hreachable hregistered hregistered'
    Reference.members_ne (.leaveVoiceRoom Reference.room) (.leaveVoiceRoom Reference.otherRoom) 0 0
  refine ⟨system, _, _, hreachable, hregistered, hregistered', hstate, hsession, hlogs ?_⟩
  -- one stays within the room, the other within the other room
  have hrooms : Reference.room ≠ Reference.otherRoom := by decide
  rintro roomId htouches htouches'
  obtain rfl : Reference.room = roomId := Option.some.inj ((or_self_iff ..).mp htouches)
  exact hrooms (Option.some.inj ((or_self_iff ..).mp htouches')).symm

/-! ### Departures -/

section Departures

variable {state : ServerState} {roster : Roster} {c : ConnId} {s : Session} {here roomId : Uuid}

/-- Another connection hears a switch as it hears a leave and a join. -/
lemma heard_switch (hs : roster c = some s) (hroom : s.activeVoiceRoomId = some here)
    (hne : roomId ≠ here) {x : ConnId} (hxc : x ≠ c) :
    (Event.join c roomId).heard roster x = (Event.leave c here).heard roster x ++
      (Event.join c roomId).heard
        (Function.update roster c (some { s with activeVoiceRoomId := none })) x := by
  have hroomx : Roster.room (Function.update roster c
      (some { s with activeVoiceRoomId := none })) x = roster.room x := by
    unfold Roster.room
    rw [Function.update_of_ne hxc]
  have hne' : ¬here = roomId := fun he => hne he.symm
  simp only [Event.heard, hs, hroom, Function.update_self, hroomx, if_neg hxc, Option.some.injEq,
    if_neg hne', reduceCtorEq, if_false, ne_eq, not_true_eq_false]
  cases hx : roster.room x with
  | none => simp
  | some there =>
    by_cases hthere : there = here
    · subst hthere
      simp [hne']
    · have hthere' : ¬here = there := fun he => hthere he.symm
      simp [hthere, hthere']

/-- Another connection hears a logout as it hears a leave and a logout from the lobby. -/
lemma heard_logout (hs : roster c = some s) (hroom : s.activeVoiceRoomId = some here) {x : ConnId}
    (hxc : x ≠ c) :
    (Event.logout c).heard roster x = (Event.leave c here).heard roster x ++
      (Event.logout c).heard
        (Function.update roster c (some { s with activeVoiceRoomId := none })) x := by
  simp [Event.heard, hs, hroom, hxc]

/-- The section of a leave, with the session in the lobby afterwards. -/
lemma left_tracks (h : Tracks state roster) (hs : roster c = some s)
    (hroom : s.activeVoiceRoomId = some here) (outbound : Outbound) (serverTimestamp : UInt64) :
    let left := handleAuthenticatedMessage state outbound s (.leaveVoiceRoom here) serverTimestamp
    left.2.2 = { s with activeVoiceRoomId := none } ∧
      Tracks left.1 (Function.update roster c (some { s with activeVoiceRoomId := none })) := by
  intro left
  have hmoved : movedBy (.leaveVoiceRoom here) s = { s with activeVoiceRoomId := none } := by
    rw [movedBy, if_pos hroom]
  rw [← hmoved]
  exact ⟨handled_session h hs _ _ serverTimestamp, handled_tracks h hs _ _ serverTimestamp⟩

end Departures

/-- Switching rooms is leaving one and joining the other without the notice of the leave, and
disconnecting from a room is leaving it and disconnecting. -/
theorem departures_agree {crates : Crates} {system : System} (h : Reachable crates system)
    {c : ConnId} {s : Session} (hregistered : system.Registered c s) {here : Uuid}
    (hroom : s.activeVoiceRoomId = some here) (leaveTimestamp : UInt64) :
    let left := handleAuthenticatedMessage system.state system.outbound s (.leaveVoiceRoom here)
      leaveTimestamp
    (∀ roomId joinTimestamp, roomId ≠ here →
      let switched := handleAuthenticatedMessage system.state system.outbound s
        (.joinVoiceRoom roomId) joinTimestamp
      let rejoined := handleAuthenticatedMessage left.1 left.2.1 left.2.2
        (.joinVoiceRoom roomId) joinTimestamp
      switched.1 = rejoined.1 ∧ switched.2.2 = rejoined.2.2 ∧
        (∀ d, d ≠ c → switched.2.1 d = rejoined.2.1 d) ∧
        switched.2.1 c = system.outbound c ++ [.voiceRoomJoined roomId] ∧
        rejoined.2.1 c = system.outbound c ++ [.voiceRoomLeft here, .voiceRoomJoined roomId]) ∧
    let gone := disconnectSession system.state system.outbound s
    let leftAndGone := disconnectSession left.1 left.2.1 left.2.2
    gone.1 = leftAndGone.1 ∧ ∀ d, d ≠ c → gone.2 d = leftAndGone.2 d := by
  intro left
  have hinv := inv_of_reachable h
  have htracks := hinv.tracks
  have hs := (registered_iff hinv).mp hregistered
  obtain ⟨hsession, hleft⟩ := left_tracks htracks hs hroom system.outbound leaveTimestamp
  have hleftHeard := (handleAuthenticatedMessage_refines htracks hs system.outbound
    (.leaveVoiceRoom here) leaveTimestamp).heard
  have hlobby : Function.update system.roster c
      (some { s with activeVoiceRoomId := none }) c =
      some { s with activeVoiceRoomId := none } := Function.update_self ..
  constructor
  · intro roomId joinTimestamp hne switched rejoined
    have hrejoined : rejoined = handleAuthenticatedMessage left.1 left.2.1
        { s with activeVoiceRoomId := none } (.joinVoiceRoom roomId) joinTimestamp :=
      congrArg (fun session => handleAuthenticatedMessage left.1 left.2.1 session
        (.joinVoiceRoom roomId) joinTimestamp) hsession
    have hswitchedHeard := (handleAuthenticatedMessage_refines htracks hs system.outbound
      (.joinVoiceRoom roomId) joinTimestamp).heard
    have hrejoinedHeard := (handleAuthenticatedMessage_refines hleft hlobby left.2.1
      (.joinVoiceRoom roomId) joinTimestamp).heard
    have hrejoinedTracks := handled_tracks hleft hlobby left.2.1 (.joinVoiceRoom roomId) joinTimestamp
    rw [Function.update_idem] at hrejoinedTracks
    rw [hrejoined]
    refine ⟨?_, ?_, ?_, ?_, ?_⟩
    · exact (handled_tracks htracks hs _ _ _).unique hrejoinedTracks
    · apply (handled_session htracks hs _ _ _).trans
      exact (handled_session hleft hlobby left.2.1 (.joinVoiceRoom roomId) joinTimestamp).symm
    · intro d hdc
      rw [hrejoinedHeard d, hleftHeard d, List.append_assoc]
      apply (hswitchedHeard d).trans
      exact congrArg _ (heard_switch hs hroom hne hdc)
    · apply (hswitchedHeard c).trans
      simp [messageEvent, Event.heard, hs, hroom, Ne.symm hne]
    · rw [hrejoinedHeard c, hleftHeard c]
      simp [messageEvent, Event.heard, hs, hroom]
  · intro gone leftAndGone
    have hgone : leftAndGone = disconnectSession left.1 left.2.1
        { s with activeVoiceRoomId := none } :=
      congrArg (disconnectSession left.1 left.2.1) hsession
    obtain ⟨hgoneTracks, hgoneHeard⟩ := disconnectSession_refines htracks hs system.outbound
    obtain ⟨hleftTracks, hleftGoneHeard⟩ := disconnectSession_refines hleft hlobby left.2.1
    rw [Event.next, Function.update_idem] at hleftTracks
    rw [hgone]
    refine ⟨hgoneTracks.unique hleftTracks, ?_⟩
    intro d hdc
    rw [hleftGoneHeard d, hleftHeard d, List.append_assoc]
    apply (hgoneHeard d).trans
    exact congrArg _ (heard_logout hs hroom hdc)

/-- The first login departs from the room of the meeting, where the second one stays. -/
theorem departures_agree_meeting :
    let system := Reference.final Reference.meeting
    let first := Reference.member Reference.first
    let left := handleAuthenticatedMessage system.state system.outbound first
      (.leaveVoiceRoom Reference.room) 0
    let switched := handleAuthenticatedMessage system.state system.outbound first
      (.joinVoiceRoom Reference.otherRoom) 0
    let rejoined := handleAuthenticatedMessage left.1 left.2.1 left.2.2
      (.joinVoiceRoom Reference.otherRoom) 0
    let gone := disconnectSession system.state system.outbound first
    let leftAndGone := disconnectSession left.1 left.2.1 left.2.2
    (switched.1 = rejoined.1 ∧ switched.2.1 1 = rejoined.2.1 1 ∧
      switched.2.1 0 = system.outbound 0 ++ [.voiceRoomJoined Reference.otherRoom] ∧
      rejoined.2.1 0 = system.outbound 0 ++
        [.voiceRoomLeft Reference.room, .voiceRoomJoined Reference.otherRoom]) ∧
      gone.1 = leftAndGone.1 ∧ gone.2 1 = leftAndGone.2 1 := by
  have hreachable : Reachable Reference.crates (Reference.final Reference.meeting) :=
    ⟨_, Reference.meeting_runs⟩
  have hregistered := (registered_iff (inv_of_reachable hreachable)).mpr Reference.meeting_final.1
  have hroom : (Reference.member Reference.first).activeVoiceRoomId = some Reference.room := rfl
  have hrooms : Reference.otherRoom ≠ Reference.room := by decide
  have hagree := departures_agree hreachable hregistered hroom 0
  have hswitch := hagree.1 Reference.otherRoom 0 hrooms
  exact ⟨⟨hswitch.1, hswitch.2.2.1 1 one_ne_zero, hswitch.2.2.2⟩, hagree.2.1,
    hagree.2.2 1 one_ne_zero⟩

end VTNet.Proofs
