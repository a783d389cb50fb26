import VTNet.Proofs.Delivery

/-!
# Presence events replay to the members of the room

A client that starts from the members of the room it has joined and follows the presence events
in its log has, after every prefix of the log, the members the server has.
-/

namespace VTNet.Proofs

/-- The other members of the room after one entry of the log of `self`. It is refused when it
announces a peer that is there already, the departure of one that is not there, or comes from
nobody in the room. -/
def replayStep (self : UserUid) (peers : Finset UserUid) (m : ServerMessage) :
    Option (Finset UserUid) :=
  match m with
  | .peerJoinedRoom _ peerUid _ => if peerUid ∈ peers then none else some (insert peerUid peers)
  | .peerLeftRoom _ peerUid => if peerUid ∈ peers then some (peers.erase peerUid) else none
  | m =>
    match m.senderUid? with
    | none => some peers
    | some senderUid => if senderUid ≠ self → senderUid ∈ peers then some peers else none

lemma replayStep_post {self v : UserUid} {peers : Finset UserUid} {m : ServerMessage}
    (hpost : m.isPost = true) (hsender : m.senderUid? = some v) :
    replayStep self peers m = if v ≠ self → v ∈ peers then some peers else none := by
  cases m with
  | broadcastTextMessage => cases hsender; rfl
  | forwardWebRtcSdp => cases hsender; rfl
  | forwardWebRtcIce => cases hsender; rfl
  | _ => cases hpost

/-- The members of a room other than `self`, as the registry has them. -/
def peersOf (system : System) (roomId : Uuid) (self : UserUid) : Finset UserUid :=
  (system.state.rooms.occupants roomId).erase self

lemma mem_peersOf {system : System} (h : Inv system) (roomId : Uuid) (self u : UserUid) :
    u ∈ peersOf system roomId self ↔ u ≠ self ∧ system.roster.Present roomId u := by
  rw [peersOf, Finset.mem_erase, h.tracks.occupants_iff]

/-- How the members of a room change is how the entry replays. -/
lemma replay_inside {system system' : System} (h : Inv system) (h' : Inv system') {roomId : Uuid}
    {self : UserUid} {heard : List ServerMessage}
    (hobs : ObservedInside system.roster system'.roster roomId self heard) :
    Execution.exec (replayStep self) (peersOf system roomId self) heard =
      some (peersOf system' roomId self) := by
  have hmem := mem_peersOf h roomId self
  have hmem' := mem_peersOf h' roomId self
  cases hobs with
  | quiet room =>
    refine congrArg some (Finset.ext fun u => ?_)
    rw [hmem, hmem', room]
  | peerJoined other absent room =>
    rw [Execution.exec_singleton, replayStep, if_neg (fun hin => absent ((hmem _).mp hin).2)]
    refine congrArg some (Finset.ext fun u => ?_)
    rw [Finset.mem_insert, hmem, hmem', room]
    constructor
    · rintro (rfl | ⟨hu, hin⟩)
      · exact ⟨other, Or.inl rfl⟩
      · exact ⟨hu, Or.inr hin⟩
    · rintro ⟨hu, rfl | hin⟩
      · exact Or.inl rfl
      · exact Or.inr ⟨hu, hin⟩
  | peerLeft other present room =>
    rw [Execution.exec_singleton, replayStep, if_pos ((hmem _).mpr ⟨other, present⟩)]
    refine congrArg some (Finset.ext fun u => ?_)
    rw [Finset.mem_erase, hmem, hmem', room]
    exact and_left_comm
  | @post v m same isPost room sender present other =>
    have hpeers : v ≠ self → v ∈ peersOf system roomId self := fun hv => (hmem v).mpr ⟨hv, present⟩
    have hafter : peersOf system' roomId self = peersOf system roomId self := by
      refine Finset.ext fun u => ?_
      rw [hmem, hmem', same]
    rw [Execution.exec_singleton, replayStep_post isPost sender, if_pos hpeers, hafter]

/-- A registered connection in a room has entered it in some locked section. From the other
members of the room right after that section, the entries of its log since then replay to the
other members there are now. -/
theorem presence_replay {crates : Crates} {actions : List Action} {system : System}
    (h : Execution.exec (System.step crates) System.default actions = some system) {c : ConnId}
    {s : Session} {roomId : Uuid} (hs : system.Registered c s)
    (hroom : s.activeVoiceRoomId = some roomId) :
    ∃ start entered after suffix, Entry crates actions c roomId start entered after ∧
      system.outbound c = entered.outbound c ++ suffix ∧ .voiceRoomJoined roomId ∉ suffix ∧
      Execution.exec (replayStep s.userUid) (peersOf entered roomId s.userUid) suffix =
        some (peersOf system roomId s.userUid) := by
  refine Execution.exec_induction (System.step crates)
    (motive := fun actions system => ∀ s, system.roster c = some s →
      s.activeVoiceRoomId = some roomId →
      ∃ start entered after suffix, Entry crates actions c roomId start entered after ∧
        system.outbound c = entered.outbound c ++ suffix ∧ .voiceRoomJoined roomId ∉ suffix ∧
        Execution.exec (replayStep s.userUid) (peersOf entered roomId s.userUid) suffix =
          some (peersOf system roomId s.userUid))
    (fun s hs => by cases hs) ?_ actions system h s
    ((registered_iff (inv_of_reachable ⟨actions, h⟩)).mp hs) hroom
  intro actions system action system' hactions ih hstep s hs hroom
  have hinv := inv_of_reachable ⟨actions, hactions⟩
  have hinv' := (step_refines hinv hstep).inv
  obtain ⟨heard, houtbound, hobs⟩ := observed_step hinv hstep c
  rcases hobs.member hs hroom with ⟨hbefore, hinside⟩ | ⟨-, rfl, -⟩
  · obtain ⟨start, entered, after, suffix, hentry, hsuffix, hlast, hreplay⟩ := ih s hbefore hroom
    refine ⟨start, entered, after ++ [action], suffix ++ heard, hentry.concat action,
      by rw [houtbound, hsuffix, List.append_assoc], ?_, ?_⟩
    · rw [List.mem_append, not_or]
      exact ⟨hlast, hinside.no_entry roomId⟩
    · exact Execution.exec_append_of _ hreplay (replay_inside hinv hinv' hinside)
  · exact ⟨system, system', [], [], Entry.now hactions hstep houtbound, by simp, by simp, rfl⟩

theorem presence_replay_meeting :
    ∃ start entered after suffix,
      Entry Reference.crates Reference.meeting 0 Reference.room start entered after ∧
      (Reference.final Reference.meeting).outbound 0 = entered.outbound 0 ++ suffix ∧
      .voiceRoomJoined Reference.room ∉ suffix ∧
      Execution.exec (replayStep ⟨Reference.first.key⟩)
          (peersOf entered Reference.room ⟨Reference.first.key⟩) suffix =
        some (peersOf (Reference.final Reference.meeting) Reference.room ⟨Reference.first.key⟩) :=
  presence_replay Reference.meeting_runs
    ((registered_iff (inv_of_reachable ⟨_, Reference.meeting_runs⟩)).mpr Reference.meeting_final.1) rfl

end VTNet.Proofs
