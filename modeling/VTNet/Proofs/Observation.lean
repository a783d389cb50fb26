import VTNet.Proofs.Refinement

/-!
# What one connection can observe of one step

Every event is, for each connection, one of a few observations. What a connection hears is tied
to how its own session moves and to how the occupancy of its room changes.
-/

namespace VTNet.Proofs

open ServerMessage

/-- What the connection `d` hears when the sessions move from `roster` to `roster'`. -/
inductive Observed (roster roster' : Roster) (d : ConnId) : List ServerMessage → Prop
  | quiet (same : roster' d = roster d)
      (room : ∀ roomId, roster.room d = some roomId →
        ∀ u, roster'.Present roomId u ↔ roster.Present roomId u) :
      Observed roster roster' d []
  | prelude {m : ServerMessage} (unknown : roster d = none) (same : roster' = roster)
      (prelude : m.IsPrelude) : Observed roster roster' d [m]
  | welcome {s : Session} {assignedName serverName : String} (session : roster d = some s)
      (lobby : s.activeVoiceRoomId = none) (same : roster' = roster) :
      Observed roster roster' d [.authSuccess s.userUid assignedName serverName]
  | login {s : Session} (unknown : roster d = none) (session : roster' d = some s)
      (lobby : s.activeVoiceRoomId = none) : Observed roster roster' d []
  | logout (gone : roster' d = none) : Observed roster roster' d []
  | joined {s : Session} {roomId : Uuid} (session : roster d = some s)
      (elsewhere : s.activeVoiceRoomId ≠ some roomId)
      (moved : roster' d = some { s with activeVoiceRoomId := some roomId })
      (room : ∀ u, roster'.Present roomId u ↔ u = s.userUid ∨ roster.Present roomId u) :
      Observed roster roster' d [.voiceRoomJoined roomId]
  | left {s : Session} {roomId : Uuid} (session : roster d = some s)
      (here : s.activeVoiceRoomId = some roomId)
      (moved : roster' d = some { s with activeVoiceRoomId := none }) :
      Observed roster roster' d [.voiceRoomLeft roomId]
  | peerJoined {s : Session} {roomId : Uuid} {v : UserUid} {name : String}
      (session : roster d = some s) (same : roster' d = some s)
      (here : s.activeVoiceRoomId = some roomId) (other : v ≠ s.userUid)
      (absent : ¬roster.Present roomId v)
      (room : ∀ u, roster'.Present roomId u ↔ u = v ∨ roster.Present roomId u) :
      Observed roster roster' d [.peerJoinedRoom roomId v name]
  | peerLeft {s : Session} {roomId : Uuid} {v : UserUid}
      (session : roster d = some s) (same : roster' d = some s)
      (here : s.activeVoiceRoomId = some roomId) (other : v ≠ s.userUid)
      (present : roster.Present roomId v)
      (room : ∀ u, roster'.Present roomId u ↔ u ≠ v ∧ roster.Present roomId u) :
      Observed roster roster' d [.peerLeftRoom roomId v]
  | post {s : Session} {roomId : Uuid} {v : UserUid} {m : ServerMessage}
      (session : roster d = some s) (here : s.activeVoiceRoomId = some roomId)
      (same : roster' = roster) (isPost : m.isPost = true) (room : m.roomId? = some roomId)
      (sender : m.senderUid? = some v) (present : roster.Present roomId v)
      (other : ∀ u, m.subjectUid? = some u → u ≠ s.userUid) : Observed roster roster' d [m]

/-- A connection hears one message of a step at most. -/
lemma Observed.length_le {roster roster' : Roster} {d : ConnId} {heard : List ServerMessage}
    (h : Observed roster roster' d heard) : heard.length ≤ 1 := by
  cases h <;> simp

lemma Observed.eq_of_mem {roster roster' : Roster} {d : ConnId} {heard : List ServerMessage}
    (h : Observed roster roster' d heard) {m : ServerMessage} (hm : m ∈ heard) : heard = [m] := by
  match heard, Observed.length_le h with
  | [], _ => cases hm
  | [m'], _ => rw [List.mem_singleton.mp hm]

/-! ### Seen from inside a room -/

/-- What a connection of `self` hears while its session stays in the room. -/
inductive ObservedInside (roster roster' : Roster) (roomId : Uuid) (self : UserUid) :
    List ServerMessage → Prop
  | quiet (room : ∀ u, roster'.Present roomId u ↔ roster.Present roomId u) :
      ObservedInside roster roster' roomId self []
  | peerJoined {v : UserUid} {name : String} (other : v ≠ self) (absent : ¬roster.Present roomId v)
      (room : ∀ u, roster'.Present roomId u ↔ u = v ∨ roster.Present roomId u) :
      ObservedInside roster roster' roomId self [.peerJoinedRoom roomId v name]
  | peerLeft {v : UserUid} (other : v ≠ self) (present : roster.Present roomId v)
      (room : ∀ u, roster'.Present roomId u ↔ u ≠ v ∧ roster.Present roomId u) :
      ObservedInside roster roster' roomId self [.peerLeftRoom roomId v]
  | post {v : UserUid} {m : ServerMessage} (same : roster' = roster) (isPost : m.isPost = true)
      (room : m.roomId? = some roomId) (sender : m.senderUid? = some v)
      (present : roster.Present roomId v) (other : ∀ u, m.subjectUid? = some u → u ≠ self) :
      ObservedInside roster roster' roomId self [m]

section Inside

variable {roster roster' : Roster} {d : ConnId} {s : Session} {roomId : Uuid}
  {heard : List ServerMessage}

/-- A connection that is in a room after a step has just entered it or has stayed in it. -/
theorem Observed.member (h : Observed roster roster' d heard) (hs : roster' d = some s)
    (hroom : s.activeVoiceRoomId = some roomId) :
    (roster d = some s ∧ ObservedInside roster roster' roomId s.userUid heard) ∨
      ((∃ t, roster d = some t ∧ t.userUid = s.userUid ∧ t.activeVoiceRoomId ≠ some roomId) ∧
        heard = [.voiceRoomJoined roomId] ∧
        ∀ u, roster'.Present roomId u ↔ u = s.userUid ∨ roster.Present roomId u) := by
  cases h with
  | quiet same room =>
    have hbefore := same.symm.trans hs
    exact Or.inl ⟨hbefore, .quiet (room roomId (by rw [Roster.room_of_some hbefore, hroom]))⟩
  | prelude unknown same =>
    rw [same, unknown] at hs
    cases hs
  | welcome session lobby same =>
    rw [same, session] at hs
    cases hs
    rw [lobby] at hroom
    cases hroom
  | login unknown session lobby =>
    rw [session] at hs
    cases hs
    rw [lobby] at hroom
    cases hroom
  | logout gone =>
    rw [gone] at hs
    cases hs
  | joined session elsewhere moved room =>
    rw [moved] at hs
    cases hs
    cases hroom
    exact Or.inr ⟨⟨_, session, rfl, elsewhere⟩, rfl, room⟩
  | left session here moved =>
    rw [moved] at hs
    cases hs
    cases hroom
  | peerJoined session same here other absent room =>
    rw [same] at hs
    cases hs
    rw [here] at hroom
    cases hroom
    exact Or.inl ⟨session, .peerJoined other absent room⟩
  | peerLeft session same here other present room =>
    rw [same] at hs
    cases hs
    rw [here] at hroom
    cases hroom
    exact Or.inl ⟨session, .peerLeft other present room⟩
  | post session here same isPost room sender present other =>
    rw [same, session] at hs
    cases hs
    rw [here] at hroom
    cases hroom
    exact Or.inl ⟨session, .post same isPost room sender present other⟩

lemma ObservedInside.no_entry (h : ObservedInside roster roster' roomId s.userUid heard)
    (room : Uuid) : .voiceRoomJoined room ∉ heard := by
  cases h with
  | quiet => exact List.not_mem_nil
  | peerJoined => simp
  | peerLeft => simp
  | post same isPost =>
    rw [List.mem_singleton]
    rintro rfl
    cases isPost

end Inside

/-! ### The actions behind the events -/

lemma messageEvent_conn {c d : ConnId} {message message' : ClientMessage}
    {serverTimestamp serverTimestamp' : UInt64}
    (h : messageEvent c message serverTimestamp = messageEvent d message' serverTimestamp') :
    c = d := by
  cases message <;> cases message' <;> cases h <;> rfl

lemma messageEvent_join (c : ConnId) (roomId : Uuid) (serverTimestamp : UInt64) :
    messageEvent c (.joinVoiceRoom roomId) serverTimestamp = .join c roomId := rfl

/-- The events of authenticated messages come from the locked section of their connection. -/
lemma event_handled {system : System} {action : Action} {c : ConnId} {message : ClientMessage}
    {serverTimestamp : UInt64}
    (h : system.event action = messageEvent c message serverTimestamp) :
    action = .handle c ∧ ∃ received timestamp,
      (system.tasks c).map SocketTask.phase = some (.handling received timestamp) ∧
      messageEvent c received timestamp = messageEvent c message serverTimestamp := by
  cases action with
  | handle d =>
    simp only [System.event] at h
    split at h
    · rename_i received timestamp hphase
      have hdc := messageEvent_conn h
      subst hdc
      exact ⟨rfl, received, timestamp, hphase, h⟩
    · cases message <;> cases h
  | register d =>
    simp only [System.event] at h
    split at h
    · split at h <;> cases message <;> cases h
    · cases message <;> cases h
  | reply d =>
    simp only [System.event] at h
    split at h <;> cases message <;> cases h
  | accept d => cases message <;> cases h
  | receive d frame nonce timestamp now => cases message <;> cases h
  | disconnect d => cases message <;> cases h

lemma event_logout {system : System} {action : Action} {c : ConnId}
    (h : system.event action = .logout c) : action = .disconnect c := by
  cases action with
  | disconnect d =>
    cases h
    rfl
  | handle d =>
    simp only [System.event] at h
    split at h
    · rename_i message serverTimestamp _
      cases message <;> cases h
    · cases h
  | register d =>
    simp only [System.event] at h
    split at h
    · split at h <;> cases h
    · cases h
  | reply d =>
    simp only [System.event] at h
    split at h <;> cases h
  | _ => cases h

/-! ### Events, seen from one connection -/

section Events

variable {roster : Roster} {c d : ConnId} {s : Session} {roomId : Uuid}

lemma observed_silent (roster : Roster) (d : ConnId) : Observed roster roster d [] :=
  .quiet rfl (fun _ _ _ => Iff.rfl)

/-- Another connection's user is another user. -/
lemma uid_ne (h : roster.Distinct) (hs : roster c = some s) {t : Session} (ht : roster d = some t)
    (hdc : d ≠ c) : s.userUid ≠ t.userUid :=
  fun he => hdc (h d c t s ht hs he.symm)

/-- Who is in a room after the session of `c` has moved. -/
lemma present_moved (h : roster.Distinct) (hs : roster c = some s) (target : Option Uuid)
    (roomId : Uuid) (u : UserUid) :
    Roster.Present (Function.update roster c (some { s with activeVoiceRoomId := target })) roomId u ↔
      (u = s.userUid ∧ target = some roomId) ∨ (u ≠ s.userUid ∧ roster.Present roomId u) := by
  rw [h.present_update hs]
  · simp
  · rintro t ht
    cases ht
    rfl

lemma observed_join (h : roster.Distinct) (hs : roster c = some s)
    (hroom : s.activeVoiceRoomId ≠ some roomId) (d : ConnId) :
    Observed roster ((Event.join c roomId).next roster) d
      ((Event.join c roomId).heard roster d) := by
  have hpresent := present_moved h hs (some roomId)
  rw [Event.next, Roster.moveTo_of_some hs]
  simp only [Event.heard, hs, if_neg hroom]
  by_cases hdc : d = c
  · subst hdc
    rw [if_pos rfl]
    refine .joined hs hroom (by simp) ?_
    intro u
    rw [hpresent]
    by_cases hu : u = s.userUid <;> simp [hu]
  · rw [if_neg hdc]
    have hsame := Function.update_of_ne hdc
      (some { s with activeVoiceRoomId := some roomId }) roster
    cases hd : roster.room d with
    | none =>
      refine .quiet hsame ?_
      intro room hroom'
      rw [hd] at hroom'
      cases hroom'
    | some here =>
      obtain ⟨t, ht, hthere⟩ := Roster.room_eq_some.mp hd
      have hother := uid_ne h hs ht hdc
      by_cases hleft : s.activeVoiceRoomId = some here
      · have hne : ¬roomId = here := by
          rintro rfl
          exact hroom hleft
        simp only [if_pos hleft]
        refine .peerLeft ht (hsame.trans ht) hthere hother ⟨c, s, hs, rfl, hleft⟩ ?_
        intro u
        simp [hpresent, hne]
      · simp only [if_neg hleft]
        have habsent : ¬roster.Present here s.userUid := by
          rw [h.present_iff hs]
          exact hleft
        by_cases hentered : here = roomId
        · subst hentered
          rw [if_pos rfl]
          refine .peerJoined ht (hsame.trans ht) hthere hother habsent ?_
          intro u
          rw [hpresent]
          by_cases hu : u = s.userUid <;> simp [hu]
        · rw [if_neg hentered]
          refine .quiet hsame ?_
          intro room hroom' u
          rw [hd] at hroom'
          cases hroom'
          have hne : ¬roomId = here := fun he => hentered he.symm
          rw [hpresent]
          by_cases hu : u = s.userUid
          · simp [hu, hne, habsent]
          · simp [hu]

lemma observed_leave (h : roster.Distinct) (hs : roster c = some s)
    (hroom : s.activeVoiceRoomId = some roomId) (d : ConnId) :
    Observed roster ((Event.leave c roomId).next roster) d
      ((Event.leave c roomId).heard roster d) := by
  have hpresent := present_moved h hs none
  rw [Event.next, Roster.room_of_some hs, if_pos hroom, Roster.moveTo_of_some hs]
  simp only [Event.heard, hs, hroom, ne_eq, not_true_eq_false, if_false]
  by_cases hdc : d = c
  · subst hdc
    rw [if_pos rfl]
    exact .left hs hroom (by simp)
  · rw [if_neg hdc]
    have hsame := Function.update_of_ne hdc (some { s with activeVoiceRoomId := none }) roster
    by_cases hd : roster.room d = some roomId
    · obtain ⟨t, ht, hthere⟩ := Roster.room_eq_some.mp hd
      rw [if_pos hd]
      refine .peerLeft ht (hsame.trans ht) hthere (uid_ne h hs ht hdc) ⟨c, s, hs, rfl, hroom⟩ ?_
      intro u
      simp [hpresent]
    · rw [if_neg hd]
      refine .quiet hsame ?_
      intro room hroom' u
      have hne : ¬roomId = room := by
        rintro rfl
        exact hd hroom'
      have habsent : ¬roster.Present room s.userUid := by
        rw [h.present_iff hs, hroom]
        exact fun he => hne (Option.some.inj he)
      rw [hpresent]
      by_cases hu : u = s.userUid
      · simp [hu, habsent]
      · simp [hu]

lemma observed_logout (h : roster.Distinct) (hs : roster c = some s) (d : ConnId) :
    Observed roster ((Event.logout c).next roster) d ((Event.logout c).heard roster d) := by
  have hpresent : ∀ room u, Roster.Present (Function.update roster c none) room u ↔
      u ≠ s.userUid ∧ roster.Present room u := by
    intro room u
    rw [h.present_update hs (fun t ht => by cases ht)]
    simp
  rw [Event.next]
  simp only [Event.heard, hs]
  by_cases hdc : d = c
  · subst hdc
    have hnone : Function.update roster d none d = none := Function.update_self ..
    cases hroom : s.activeVoiceRoomId with
    | none => exact .logout hnone
    | some roomId =>
      simp only [ne_eq, not_true_eq_false, false_and, if_false]
      exact .logout hnone
  · have hsame := Function.update_of_ne hdc none roster
    have hquiet : (∀ roomId, roster.room d = some roomId → s.activeVoiceRoomId ≠ some roomId) →
        Observed roster (Function.update roster c none) d [] := by
      intro hapart
      refine .quiet hsame ?_
      intro room hroom u
      have habsent : ¬roster.Present room s.userUid := by
        rw [h.present_iff hs]
        exact hapart room hroom
      rw [hpresent]
      by_cases hu : u = s.userUid
      · simp [hu, habsent]
      · simp [hu]
    cases hroom : s.activeVoiceRoomId with
    | none =>
      apply hquiet
      intro room _
      simp [hroom]
    | some roomId =>
      by_cases hd : roster.room d = some roomId
      · obtain ⟨t, ht, hthere⟩ := Roster.room_eq_some.mp hd
        simp only [hdc, hd, ne_eq, not_false_eq_true, and_self, if_true]
        exact .peerLeft ht (hsame.trans ht) hthere (uid_ne h hs ht hdc) ⟨c, s, hs, rfl, hroom⟩
          (hpresent roomId)
      · simp only [hd, and_false, if_false]
        apply hquiet
        intro room hroom' he
        rw [hroom] at he
        cases he
        exact hd hroom'

lemma observed_say (h : roster.Distinct) (hs : roster c = some s) (message : ClientMessage)
    (serverTimestamp : UInt64) (d : ConnId) :
    Observed roster roster d ((Event.say c message serverTimestamp).heard roster d) := by
  simp only [Event.heard, hs]
  cases hpost : roster.post c s message serverTimestamp with
  | none => exact observed_silent roster d
  | some post =>
    simp only [Post.heardBy]
    by_cases haudience : post.audience d = true
    · rw [if_pos haudience]
      cases message with
      | sendTextMessage roomId textContent =>
        simp only [Roster.post, Option.ite_none_right_eq_some] at hpost
        obtain ⟨hroom, hpost⟩ := hpost
        cases hpost
        simp only [decide_eq_true_eq] at haudience
        obtain ⟨t, ht, hthere⟩ := Roster.room_eq_some.mp haudience.2
        refine .post ht hthere rfl rfl rfl rfl ⟨c, s, hs, rfl, hroom⟩ ?_
        intro u hu
        cases hu
        exact uid_ne h hs ht haudience.1
      | sendWebRtcSdp roomId targetUid sdpType sdpRaw =>
        simp only [Roster.post, Option.ite_none_right_eq_some] at hpost
        obtain ⟨hroom, hpost⟩ := hpost
        cases hpost
        simp only [decide_eq_true_eq] at haudience
        obtain ⟨t, ht, hthere⟩ := Roster.room_eq_some.mp haudience.2
        exact .post ht hthere rfl rfl rfl rfl ⟨c, s, hs, rfl, hroom⟩ (fun u hu => by cases hu)
      | sendWebRtcIce roomId targetUid candidate =>
        simp only [Roster.post, Option.ite_none_right_eq_some] at hpost
        obtain ⟨hroom, hpost⟩ := hpost
        cases hpost
        simp only [decide_eq_true_eq] at haudience
        obtain ⟨t, ht, hthere⟩ := Roster.room_eq_some.mp haudience.2
        exact .post ht hthere rfl rfl rfl rfl ⟨c, s, hs, rfl, hroom⟩ (fun u hu => by cases hu)
      | _ => cases hpost
    · rw [if_neg haudience]
      exact observed_silent roster d

end Events

/-- Every valid event is one of the observations, for every connection. -/
theorem observed_event {roster : Roster} (h : roster.Distinct) {event : Event}
    (hvalid : event.Valid roster) (d : ConnId) :
    Observed roster (event.next roster) d (event.heard roster d) := by
  cases event with
  | silent => exact observed_silent roster d
  | own c message =>
    simp only [Event.heard, Event.next]
    by_cases hdc : d = c
    · subst hdc
      rw [if_pos rfl]
      rcases hvalid with ⟨hnone, hprelude⟩ | ⟨s, assignedName, serverName, hs, hroom, rfl⟩
      · exact .prelude hnone rfl hprelude
      · exact .welcome hs hroom rfl
    · rw [if_neg hdc]
      exact observed_silent roster d
  | login c session =>
    obtain ⟨hnone, hroom, -⟩ := hvalid
    simp only [Event.heard, Event.next]
    by_cases hdc : d = c
    · subst hdc
      exact .login hnone (Function.update_self ..) hroom
    · exact .quiet (Function.update_of_ne hdc ..) (fun _ _ _ => Roster.present_login hnone hroom)
  | join c roomId =>
    cases hs : roster c with
    | none =>
      simp only [Event.heard, Event.next, hs, Roster.moveTo_of_none hs]
      exact observed_silent roster d
    | some s =>
      by_cases hroom : s.activeVoiceRoomId = some roomId
      · have hsame : roster.moveTo c (some roomId) = roster := by
          rw [Roster.moveTo_of_some hs, ← hroom]
          exact Roster.update_same hs
        simp only [Event.heard, Event.next, hs, if_pos hroom, hsame]
        exact observed_silent roster d
      · exact observed_join h hs hroom d
  | leave c roomId =>
    cases hs : roster c with
    | none =>
      simp only [Event.heard, Event.next, hs, Roster.moveTo_of_none hs, ite_self]
      exact observed_silent roster d
    | some s =>
      by_cases hroom : s.activeVoiceRoomId = some roomId
      · exact observed_leave h hs hroom d
      · simp only [Event.heard, Event.next, hs, Roster.room_of_some hs, ne_eq, hroom,
          not_false_eq_true, if_true]
        exact observed_silent roster d
  | say c message serverTimestamp =>
    cases hs : roster c with
    | none =>
      simp only [Event.heard, hs]
      exact observed_silent roster d
    | some s => exact observed_say h hs message serverTimestamp d
  | logout c =>
    cases hs : roster c with
    | none =>
      have hsame : Function.update roster c none = roster := by rw [← hs, Function.update_eq_self]
      simp only [Event.heard, Event.next, hs, hsame]
      exact observed_silent roster d
    | some s => exact observed_logout h hs d

/-- What a connection gets on its channel in one step of the running server. -/
theorem observed_step {crates : Crates} {system system' : System} (h : Inv system)
    {action : Action} (hstep : system.step crates action = some system') (d : ConnId) :
    ∃ heard, system'.outbound d = system.outbound d ++ heard ∧
      Observed system.roster system'.roster d heard := by
  obtain ⟨-, hvalid, hroster, houtbound⟩ := step_refines h hstep
  refine ⟨_, houtbound d, ?_⟩
  rw [hroster]
  exact observed_event h.tracks.distinct hvalid d

/-- What a connection hears comes from its own task or is about a peer. -/
lemma heard_cases {roster : Roster} {event : Event} {c : ConnId} {m : ServerMessage}
    (h : m ∈ event.heard roster c) :
    event = .own c m ∨ (∃ roomId, event = .join c roomId ∧ m = .voiceRoomJoined roomId) ∨
      (∃ roomId, event = .leave c roomId ∧ m = .voiceRoomLeft roomId) ∨ m.isPeerEvent = true := by
  cases event with
  | silent => cases h
  | login d session => cases h
  | own d message =>
    by_cases hcd : c = d
    · subst hcd
      simp only [Event.heard, if_true, List.mem_singleton] at h
      exact Or.inl (by rw [h])
    · simp [Event.heard, hcd] at h
  | join d roomId =>
    simp only [Event.heard] at h
    split at h
    · cases h
    · split at h
      · cases h
      · split at h
        · rename_i hcd
          rw [List.mem_singleton] at h
          exact Or.inr (Or.inl ⟨roomId, by rw [hcd], h⟩)
        · repeat' split at h
          all_goals simp only [List.mem_singleton, List.not_mem_nil] at h
          all_goals
            subst h
            exact Or.inr (Or.inr (Or.inr rfl))
  | leave d roomId =>
    simp only [Event.heard] at h
    split at h
    · cases h
    · split at h
      · cases h
      · split at h
        · rename_i hcd
          rw [List.mem_singleton] at h
          exact Or.inr (Or.inr (Or.inl ⟨roomId, by rw [hcd], h⟩))
        · split at h
          · rw [List.mem_singleton] at h
            subst h
            exact Or.inr (Or.inr (Or.inr rfl))
          · cases h
  | say d message serverTimestamp =>
    simp only [Event.heard] at h
    split at h
    · cases h
    · split at h
      · cases h
      · rename_i post hpost
        unfold Post.heardBy at h
        split at h
        · rw [List.mem_singleton] at h
          subst h
          exact Or.inr (Or.inr (Or.inr (isPeerEvent_of_isPost (Roster.post_isPost hpost))))
        · cases h
  | logout d =>
    simp only [Event.heard] at h
    repeat' split at h
    all_goals simp only [List.mem_singleton, List.not_mem_nil] at h
    subst h
    exact Or.inr (Or.inr (Or.inr rfl))

/-- Only its own locked section tells a connection that it has joined a room. -/
lemma action_of_entry {crates : Crates} {system system' : System} (h : Inv system)
    {action : Action} (hstep : system.step crates action = some system') {c : ConnId}
    {roomId : Uuid} (hlog : system'.outbound c = system.outbound c ++ [.voiceRoomJoined roomId]) :
    action = .handle c := by
  obtain ⟨-, hvalid, -, houtbound⟩ := step_refines h hstep
  rw [houtbound, List.append_cancel_left_eq] at hlog
  have hheard : .voiceRoomJoined roomId ∈ (system.event action).heard system.roster c := by
    simp [hlog]
  rcases heard_cases hheard with hown | ⟨room, hjoin, -⟩ | ⟨room, -, hleft⟩ | hpeer
  · rw [hown] at hvalid
    rcases hvalid with ⟨-, hprelude⟩ | ⟨s, assignedName, serverName, -, -, hwelcome⟩
    · cases hprelude
    · cases hwelcome
  · exact (event_handled (hjoin.trans (messageEvent_join c room 0).symm)).1
  · cases hleft
  · cases hpeer

/-- The locked section of a run, `after` which the connection `c` has entered the room. -/
structure Entry (crates : Crates) (actions : List Action) (c : ConnId) (roomId : Uuid)
    (start entered : System) (after : List Action) : Prop where
  split : ∃ before, actions = before ++ .handle c :: after ∧
    Execution.exec (System.step crates) System.default before = some start
  handled : start.step crates (.handle c) = some entered
  heard : entered.outbound c = start.outbound c ++ [.voiceRoomJoined roomId]

lemma Entry.concat {crates : Crates} {actions after : List Action} {c : ConnId} {roomId : Uuid}
    {start entered : System} (h : Entry crates actions c roomId start entered after)
    (action : Action) :
    Entry crates (actions ++ [action]) c roomId start entered (after ++ [action]) := by
  obtain ⟨⟨before, hsplit, hstart⟩, hhandled, hheard⟩ := h
  exact ⟨⟨before, by rw [hsplit, List.append_assoc, List.cons_append], hstart⟩, hhandled, hheard⟩

lemma Entry.now {crates : Crates} {actions : List Action} {system system' : System}
    (hactions : Execution.exec (System.step crates) System.default actions = some system)
    {action : Action} (hstep : system.step crates action = some system') {c : ConnId}
    {roomId : Uuid} (hlog : system'.outbound c = system.outbound c ++ [.voiceRoomJoined roomId]) :
    Entry crates (actions ++ [action]) c roomId system system' [] := by
  have haction := action_of_entry (inv_of_reachable ⟨actions, hactions⟩) hstep hlog
  subst haction
  exact ⟨⟨actions, rfl, hactions⟩, hstep, hlog⟩

end VTNet.Proofs
