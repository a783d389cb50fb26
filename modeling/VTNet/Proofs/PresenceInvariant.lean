import VTNet.Proofs.Observation
import VTNet.Reference

/-!
# Presence over all interleavings

Membership is stored three times: in the sessions, in the registry and in the map of
connections. In every reachable state the three agree.
-/

namespace VTNet.Proofs

lemma registered_iff {system : System} (h : Inv system) {c : ConnId} {s : Session} :
    system.Registered c s ↔ system.roster c = some s := by
  constructor
  · rintro ⟨task, htask, -, -, hsession⟩
    rw [roster_of_task htask, hsession]
  · intro hs
    obtain ⟨task, htask, hsession⟩ := Option.bind_eq_some_iff.mp hs
    obtain ⟨-, hphase⟩ := h.settled c task htask
    refine ⟨task, htask, ?_, ?_, hsession⟩
    · cases hp : task.phase with
      | registering session serverMessage =>
        simp [hp, hsession] at hphase
      | replying serverMessage =>
        simp only [hp, hsession, reduceCtorEq, false_and, and_false, false_or] at hphase
        exact hphase.1
      | _ => simp_all
    · intro hclosed
      simp [hclosed, hsession] at hphase

/-- What presence means in one state of the server. -/
structure PresenceInvariant (crates : Crates) (system : System) : Prop where
  /-- An identity has an entry exactly when one task, and no other, is registered for it. -/
  connected_iff : ∀ uid, (system.state.connections uid).isSome ↔
    ∃! c, ∃ s, system.Registered c s ∧ s.userUid = uid
  distinct : ∀ c d s t, system.Registered c s → system.Registered d t →
    s.userUid = t.userUid → c = d
  /-- The stored sender is that task's own. -/
  sender : ∀ uid c, system.state.connections uid = some c →
    ∃ s, system.Registered c s ∧ s.userUid = uid
  /-- Nothing but its own cleanup removes or replaces an entry. -/
  kept : ∀ action system', system.step crates action = some system' → ∀ uid c,
    system.state.connections uid = some c → action ≠ .disconnect c →
    system'.state.connections uid = some c
  /-- A user is a member of exactly the room that the session of its task names. -/
  member_iff : ∀ roomId uid,
    (∃ members, system.state.rooms.members roomId = some members ∧ uid ∈ members) ↔
      ∃ c s, system.state.connections uid = some c ∧ system.Registered c s ∧
        s.activeVoiceRoomId = some roomId
  one_room : ∀ roomId roomId' uid, uid ∈ system.state.rooms.occupants roomId →
    uid ∈ system.state.rooms.occupants roomId' → roomId = roomId'
  member_connected : ∀ roomId uid, uid ∈ system.state.rooms.occupants roomId →
    (system.state.connections uid).isSome
  no_empty_room : ∀ roomId, system.state.rooms.members roomId ≠ some ∅

/-- An event that is not its logout leaves a connection its identity. -/
lemma next_keeps_uid {roster : Roster} {event : Event} (hvalid : event.Valid roster) {c : ConnId}
    {s : Session} (hs : roster c = some s) (hlogout : event ≠ .logout c) :
    ∃ s', event.next roster c = some s' ∧ s'.userUid = s.userUid := by
  have hmove : ∀ e room, ∃ s', roster.moveTo e room c = some s' ∧ s'.userUid = s.userUid := by
    intro e room
    by_cases hec : c = e
    · subst hec
      rw [Roster.moveTo_of_some hs]
      exact ⟨_, Function.update_self .., rfl⟩
    · rw [Roster.moveTo, Function.update_of_ne hec]
      exact ⟨s, hs, rfl⟩
  cases event with
  | login e session =>
    have hec : c ≠ e := by
      rintro rfl
      rw [hvalid.1] at hs
      cases hs
    exact ⟨s, by rw [Event.next, Function.update_of_ne hec, hs], rfl⟩
  | join e roomId => exact hmove e (some roomId)
  | leave e roomId =>
    rw [Event.next]
    split
    · exact hmove e none
    · exact ⟨s, hs, rfl⟩
  | logout e =>
    have hec : c ≠ e := fun he => hlogout (by rw [he])
    exact ⟨s, by rw [Event.next, Function.update_of_ne hec, hs], rfl⟩
  | _ => exact ⟨s, hs, rfl⟩

/-- Presence holds in every reachable state, whatever the interleaving. -/
theorem presence_invariant {crates : Crates} {system : System} (h : Reachable crates system) :
    PresenceInvariant crates system := by
  have hinv := inv_of_reachable h
  have htracks := hinv.tracks
  have hreg := fun c s => registered_iff hinv (c := c) (s := s)
  have hdistinct : ∀ c d s t, system.Registered c s → system.Registered d t →
      s.userUid = t.userUid → c = d := by
    intro c d s t hs ht
    exact htracks.distinct c d s t ((hreg c s).mp hs) ((hreg d t).mp ht)
  have hsender : ∀ uid c, system.state.connections uid = some c →
      ∃ s, system.Registered c s ∧ s.userUid = uid := by
    intro uid c hc
    obtain ⟨s, hs, huid⟩ := (htracks.connections_iff uid c).mp hc
    exact ⟨s, (hreg c s).mpr hs, huid⟩
  have hmember : ∀ roomId uid, uid ∈ system.state.rooms.occupants roomId →
      ∃ c s, system.state.connections uid = some c ∧ system.Registered c s ∧
        s.activeVoiceRoomId = some roomId := by
    intro roomId uid hin
    obtain ⟨c, s, hs, rfl, hroom⟩ := (htracks.occupants_iff roomId uid).mp hin
    exact ⟨c, s, htracks.connection hs, (hreg c s).mpr hs, hroom⟩
  refine ⟨?_, hdistinct, hsender, ?_, ?_, ?_, ?_, ?_⟩
  · intro uid
    constructor
    · intro hsome
      obtain ⟨c, hc⟩ := Option.isSome_iff_exists.mp hsome
      obtain ⟨s, hs, huid⟩ := hsender uid c hc
      refine ⟨c, ⟨s, hs, huid⟩, ?_⟩
      rintro d ⟨t, ht, htuid⟩
      exact hdistinct d c t s ht hs (htuid.trans huid.symm)
    · rintro ⟨c, ⟨s, hs, rfl⟩, -⟩
      rw [htracks.connection ((hreg c s).mp hs)]
      rfl
  · intro action system' hstep uid c hc haction
    obtain ⟨s, hs, rfl⟩ := (htracks.connections_iff uid c).mp hc
    obtain ⟨hinv', hvalid, hroster, -⟩ := step_refines hinv hstep
    obtain ⟨s', hs', huid⟩ := next_keeps_uid hvalid hs (fun he => haction (event_logout he))
    rw [← hroster] at hs'
    rw [← huid]
    exact hinv'.tracks.connection hs'
  · intro roomId uid
    rw [← RoomRegistry.mem_occupants]
    refine ⟨hmember roomId uid, ?_⟩
    rintro ⟨c, s, hc, hs, hroom⟩
    obtain ⟨t, ht, rfl⟩ := (htracks.connections_iff uid c).mp hc
    rw [(hreg c s).mp hs] at ht
    cases ht
    exact (htracks.mem_occupants ((hreg c s).mp hs) roomId).mpr hroom
  · intro roomId roomId' uid hin hin'
    obtain ⟨c, s, hs, rfl, hroom⟩ := (htracks.occupants_iff roomId uid).mp hin
    have hroom' := (htracks.mem_occupants hs roomId').mp hin'
    rw [hroom] at hroom'
    exact Option.some.inj hroom'
  · intro roomId uid hin
    obtain ⟨c, s, hc, -⟩ := hmember roomId uid hin
    rw [hc]
    rfl
  · intro roomId hempty
    exact Finset.not_nonempty_empty (system.state.rooms.occupied roomId ∅ hempty)

theorem presence_invariant_meeting :
    (Reference.final Reference.meeting).state.rooms.occupants Reference.room =
        {⟨Reference.first.key⟩, ⟨Reference.second.key⟩} ∧
      PresenceInvariant Reference.crates (Reference.final Reference.meeting) :=
  ⟨Reference.meeting_final.2.2.1, presence_invariant ⟨_, Reference.meeting_runs⟩⟩

end VTNet.Proofs
