import VTNet.Proofs.Replay

/-!
# One initiator for every pair

Of two members of a room, the one who entered first is told of the other, once, and the other is
not told of the first. Clients make offers only to peers they are told of.
-/

namespace VTNet.Proofs

/-- The registered connection `c` of `u` is in the room. -/
def InRoom (system : System) (c : ConnId) (u : UserUid) (roomId : Uuid) : Prop :=
  ∃ s, system.Registered c s ∧ s.userUid = u ∧ s.activeVoiceRoomId = some roomId

/-- The connection `x` of `u` was in the room when `y` of `v` entered it, and both have been there
since. In this time the log of `x` got one entry that `v` has joined, and that of `y`, since
its last entry that it has joined itself, none that `u` has. -/
structure Initiates (crates : Crates) (actions : List Action) (system : System) (roomId : Uuid)
    (x y : ConnId) (u v : UserUid) (start entered : System) (after : List Action) : Prop where
  entry : Entry crates actions y roomId start entered after
  first : InRoom start x u roomId
  apart : ¬InRoom start y v roomId
  together : ∀ since now, since <+: after →
    Execution.exec (System.step crates) entered since = some now →
    InRoom now x u roomId ∧ InRoom now y v roomId
  told : ∃ name rest, system.outbound x = start.outbound x ++ .peerJoinedRoom roomId v name :: rest ∧
    ∀ name', .peerJoinedRoom roomId v name' ∉ rest
  not_told : ∃ rest, system.outbound y = entered.outbound y ++ rest ∧
    .voiceRoomJoined roomId ∉ rest ∧ ∀ name, .peerJoinedRoom roomId u name ∉ rest

section Pairs

variable {crates : Crates} {actions : List Action} {system system' : System} {action : Action}
  {roomId : Uuid} {x y : ConnId} {s t : Session} {heard : List ServerMessage}

lemma inRoom_of_roster (h : Inv system) {c : ConnId} (hs : system.roster c = some s)
    (hroom : s.activeVoiceRoomId = some roomId) : InRoom system c s.userUid roomId :=
  ⟨s, (registered_iff h).mpr hs, rfl, hroom⟩

/-- Who stays in a room is not told that somebody in it has joined. -/
lemma ObservedInside.not_told {roster roster' : Roster} {self v : UserUid}
    (h : ObservedInside roster roster' roomId self heard) (hpresent : roster.Present roomId v)
    (name : String) : .peerJoinedRoom roomId v name ∉ heard := by
  cases h with
  | quiet => exact List.not_mem_nil
  | peerJoined other absent =>
    rw [List.mem_singleton]
    intro he
    cases he
    exact absent hpresent
  | peerLeft => simp
  | post same isPost =>
    rw [List.mem_singleton]
    rintro rfl
    cases isPost

/-- Who stays in a room that somebody enters is told so. -/
lemma ObservedInside.told {roster roster' : Roster} {self v : UserUid}
    (h : ObservedInside roster roster' roomId self heard) (habsent : ¬roster.Present roomId v)
    (hpresent : roster'.Present roomId v) : ∃ name, heard = [.peerJoinedRoom roomId v name] := by
  cases h with
  | quiet room => exact absurd ((room v).mp hpresent) habsent
  | peerJoined other absent room =>
    rcases (room v).mp hpresent with rfl | hpresent
    · exact ⟨_, rfl⟩
    · exact absurd hpresent habsent
  | peerLeft other present room => exact absurd ((room v).mp hpresent).2 habsent
  | post same =>
    rw [same] at hpresent
    exact absurd hpresent habsent

lemma Entry.rest {start entered : System} {after : List Action}
    (h : Entry crates actions y roomId start entered after)
    (hactions : Execution.exec (System.step crates) System.default actions = some system) :
    Execution.exec (System.step crates) entered after = some system := by
  obtain ⟨⟨before, rfl, hstart⟩, hhandled, -⟩ := h
  rw [Execution.exec_append, hstart, Option.bind_some, Execution.exec_cons, hhandled] at hactions
  exact hactions

/-- One more action while both stay. -/
lemma Initiates.concat {start entered : System} {after : List Action}
    (h : Initiates crates actions system roomId x y s.userUid t.userUid start entered after)
    (hactions : Execution.exec (System.step crates) System.default actions = some system)
    (hstep : system.step crates action = some system')
    (hs : system.roster x = some s) (hsroom : s.activeVoiceRoomId = some roomId)
    (ht : system.roster y = some t) (htroom : t.activeVoiceRoomId = some roomId)
    {heardX heardY : List ServerMessage}
    (hlogX : system'.outbound x = system.outbound x ++ heardX)
    (hlogY : system'.outbound y = system.outbound y ++ heardY)
    (hX : ObservedInside system.roster system'.roster roomId s.userUid heardX)
    (hY : ObservedInside system.roster system'.roster roomId t.userUid heardY)
    (hs' : system'.roster x = some s) (ht' : system'.roster y = some t) :
    Initiates crates (actions ++ [action]) system' roomId x y s.userUid t.userUid start entered
      (after ++ [action]) := by
  obtain ⟨hentry, hfirst, hapart, htogether, htold, hnot⟩ := h
  have hinv := inv_of_reachable ⟨actions, hactions⟩
  have hinv' := (step_refines hinv hstep).inv
  refine ⟨hentry.concat action, hfirst, hapart, ?_, ?_, ?_⟩
  · intro since now hsince hnow
    rcases List.prefix_concat_iff.mp hsince with rfl | hsince
    · obtain ⟨now', hnow', hlast⟩ := (Execution.exec_concat _ _ _ _ _).mp hnow
      rw [hentry.rest hactions] at hnow'
      cases hnow'
      rw [hstep] at hlast
      cases hlast
      exact ⟨inRoom_of_roster hinv' hs' hsroom, inRoom_of_roster hinv' ht' htroom⟩
    · exact htogether since now hsince hnow
  · obtain ⟨name, rest, hlog, honce⟩ := htold
    refine ⟨name, rest ++ heardX, by rw [hlogX, hlog, List.append_assoc, List.cons_append], ?_⟩
    intro name'
    rw [List.mem_append, not_or]
    exact ⟨honce name', hX.not_told ⟨y, t, ht, rfl, htroom⟩ name'⟩
  · obtain ⟨rest, hlog, hlast, hnone⟩ := hnot
    refine ⟨rest ++ heardY, by rw [hlogY, hlog, List.append_assoc], ?_, ?_⟩
    · rw [List.mem_append, not_or]
      exact ⟨hlast, hY.no_entry roomId⟩
    · intro name
      rw [List.mem_append, not_or]
      exact ⟨hnone name, hY.not_told ⟨x, s, hs, rfl, hsroom⟩ name⟩

/-- The section in which `y` enters the room that `x` is in. -/
lemma Initiates.begin
    (hactions : Execution.exec (System.step crates) System.default actions = some system)
    (hstep : system.step crates action = some system')
    (hs : system.roster x = some s) (hsroom : s.activeVoiceRoomId = some roomId)
    {before : Session} (hbefore : system.roster y = some before)
    (huid : before.userUid = t.userUid) (helsewhere : before.activeVoiceRoomId ≠ some roomId)
    {heardX : List ServerMessage}
    (hlogX : system'.outbound x = system.outbound x ++ heardX)
    (hlogY : system'.outbound y = system.outbound y ++ [.voiceRoomJoined roomId])
    (hX : ObservedInside system.roster system'.roster roomId s.userUid heardX)
    (hs' : system'.roster x = some s) (ht' : system'.roster y = some t)
    (htroom : t.activeVoiceRoomId = some roomId) :
    Initiates crates (actions ++ [action]) system' roomId x y s.userUid t.userUid system system'
      [] := by
  have hinv := inv_of_reachable ⟨actions, hactions⟩
  have hinv' := (step_refines hinv hstep).inv
  have habsent : ¬system.roster.Present roomId t.userUid := by
    rw [← huid, hinv.tracks.distinct.present_iff hbefore]
    exact helsewhere
  obtain ⟨name, rfl⟩ := hX.told habsent ⟨y, t, ht', rfl, htroom⟩
  refine ⟨Entry.now hactions hstep hlogY, inRoom_of_roster hinv hs hsroom, ?_, ?_,
    ⟨name, [], hlogX, by simp⟩, ⟨[], by simp, by simp, by simp⟩⟩
  · rintro ⟨r, hr, hruid, hrroom⟩
    exact habsent ⟨y, r, (registered_iff hinv).mp hr, hruid, hrroom⟩
  · intro since now hsince hnow
    rw [List.prefix_nil] at hsince
    subst hsince
    cases hnow
    exact ⟨inRoom_of_roster hinv' hs' hsroom, inRoom_of_roster hinv' ht' htroom⟩

end Pairs

/-- Exactly one of two connections in a room has been told to initiate. -/
lemma initiates_of_run {crates : Crates} {actions : List Action} {system : System}
    (h : Execution.exec (System.step crates) System.default actions = some system) {roomId : Uuid}
    {x y : ConnId} (hxy : x ≠ y) {s t : Session} (hs : system.roster x = some s)
    (hsroom : s.activeVoiceRoomId = some roomId) (ht : system.roster y = some t)
    (htroom : t.activeVoiceRoomId = some roomId) :
    (∃ start entered after, Initiates crates actions system roomId x y s.userUid t.userUid start
      entered after) ∨
    ∃ start entered after, Initiates crates actions system roomId y x t.userUid s.userUid start
      entered after := by
  refine Execution.exec_induction (System.step crates)
    (motive := fun actions system => ∀ s t, system.roster x = some s →
      s.activeVoiceRoomId = some roomId → system.roster y = some t →
      t.activeVoiceRoomId = some roomId →
      (∃ start entered after, Initiates crates actions system roomId x y s.userUid t.userUid start
        entered after) ∨
      ∃ start entered after, Initiates crates actions system roomId y x t.userUid s.userUid start
        entered after)
    (fun s t hs => by cases hs) ?_ actions system h s t hs hsroom ht htroom
  intro actions system action system' hactions ih hstep s t hs' hsroom ht' htroom
  have hinv := inv_of_reachable ⟨actions, hactions⟩
  obtain ⟨heardX, hlogX, hobsX⟩ := observed_step hinv hstep x
  obtain ⟨heardY, hlogY, hobsY⟩ := observed_step hinv hstep y
  rcases hobsX.member hs' hsroom with ⟨hs, hX⟩ | ⟨⟨before, hbefore, huid, helsewhere⟩, rfl, -⟩ <;>
    rcases hobsY.member ht' htroom with ⟨ht, hY⟩ | ⟨⟨before', hbefore', huid', helsewhere'⟩, rfl, -⟩
  · rcases ih s t hs hsroom ht htroom with ⟨start, entered, after, hinit⟩ |
      ⟨start, entered, after, hinit⟩
    · exact Or.inl ⟨start, entered, _, hinit.concat hactions hstep hs hsroom ht htroom hlogX hlogY
        hX hY hs' ht'⟩
    · exact Or.inr ⟨start, entered, _, hinit.concat hactions hstep ht htroom hs hsroom hlogY hlogX
        hY hX ht' hs'⟩
  · exact Or.inl ⟨_, _, _, Initiates.begin hactions hstep hs hsroom hbefore' huid' helsewhere' hlogX
      hlogY hX hs' ht' htroom⟩
  · exact Or.inr ⟨_, _, _, Initiates.begin hactions hstep ht htroom hbefore huid helsewhere hlogY
      hlogX hY ht' hs' hsroom⟩
  · -- one section cannot be the entry of both
    have hx := action_of_entry hinv hstep hlogX
    have hy := action_of_entry hinv hstep hlogY
    rw [hx] at hy
    cases hy
    exact absurd rfl hxy

/-- Of two members of a room exactly one has been told, once and since they have been there
together, to make an offer to the other: the one who was there first. -/
theorem unique_initiator {crates : Crates} {actions : List Action} {system : System}
    (h : Execution.exec (System.step crates) System.default actions = some system) {roomId : Uuid}
    {u v : UserUid} (huv : u ≠ v) (hu : u ∈ system.state.rooms.occupants roomId)
    (hv : v ∈ system.state.rooms.occupants roomId) :
    ∃ x y, system.state.connections u = some x ∧ system.state.connections v = some y ∧
      ((∃ start entered after, Initiates crates actions system roomId x y u v start entered after) ∨
        ∃ start entered after, Initiates crates actions system roomId y x v u start entered after) := by
  have htracks := (inv_of_reachable ⟨actions, h⟩).tracks
  obtain ⟨x, s, hs, rfl, hsroom⟩ := (htracks.occupants_iff roomId u).mp hu
  obtain ⟨y, t, ht, rfl, htroom⟩ := (htracks.occupants_iff roomId v).mp hv
  have hxy : x ≠ y := by
    rintro rfl
    rw [hs] at ht
    cases ht
    exact huv rfl
  exact ⟨x, y, htracks.connection hs, htracks.connection ht,
    initiates_of_run h hxy hs hsroom ht htroom⟩

theorem unique_initiator_meeting :
    ∃ x y,
      (Reference.final Reference.meeting).state.connections ⟨Reference.first.key⟩ = some x ∧
      (Reference.final Reference.meeting).state.connections ⟨Reference.second.key⟩ = some y ∧
      ((∃ start entered after, Initiates Reference.crates Reference.meeting
          (Reference.final Reference.meeting) Reference.room x y ⟨Reference.first.key⟩
          ⟨Reference.second.key⟩ start entered after) ∨
        ∃ start entered after, Initiates Reference.crates Reference.meeting
          (Reference.final Reference.meeting) Reference.room y x ⟨Reference.second.key⟩
          ⟨Reference.first.key⟩ start entered after) :=
  unique_initiator Reference.meeting_runs Reference.members_ne
    (by rw [Reference.meeting_final.2.2.1]; simp) (by rw [Reference.meeting_final.2.2.1]; simp)

end VTNet.Proofs
