import VTNet.Proofs.OfferAnswer

/-!
# Two users in one room

A connection that has met a user in its room and has heard since then neither that it has moved nor
that the user has come or gone is in that room with the user. Of two connections in one room, one
has heard that the other has come.
-/

namespace VTNet.Proofs

/-! ### Being together, as a log tells it -/

/-- After such an entry its connection and `v` are not in the room together that they were in. -/
def Parts (v : UserUid) : ServerMessage → Prop
  | .voiceRoomJoined _ => True
  | .voiceRoomLeft _ => True
  | .peerJoinedRoom _ peerUid _ => peerUid = v
  | .peerLeftRoom _ peerUid => peerUid = v
  | _ => False

/-- Nothing after the entry `k` parts the connection of the log from `v`. -/
def Together (log : List ServerMessage) (k : ℕ) (v : UserUid) : Prop :=
  ∀ i m, k < i → log[i]? = some m → ¬Parts v m

/-- Such an entry tells that `v` is in the room. -/
def Meets (roomId : Uuid) (v : UserUid) (m : ServerMessage) : Prop :=
  (∃ peerName, m = .peerJoinedRoom roomId v peerName) ∨
    (m.isPost = true ∧ m.roomId? = some roomId ∧ m.senderUid? = some v)

section Logs

variable {log entries : List ServerMessage} {k : ℕ} {m : ServerMessage} {roomId : Uuid}
  {v : UserUid}

lemma Together.before (h : Together (log ++ entries) k v) : Together log k v := by
  intro i m hi hm
  have hlt := (List.getElem?_eq_some_iff.mp hm).1
  exact h i m hi (by rw [List.getElem?_append_left hlt, hm])

lemma Together.append (h : Together log k v) (hentries : ∀ m ∈ entries, ¬Parts v m) :
    Together (log ++ entries) k v := by
  intro i m hi hm
  by_cases hlt : i < log.length
  · rw [List.getElem?_append_left hlt] at hm
    exact h i m hi hm
  · rw [List.getElem?_append_right (Nat.le_of_not_lt hlt)] at hm
    exact hentries m (List.mem_of_getElem? hm)

lemma Together.later (h : Together (log ++ entries) k v) (hk : k < log.length) :
    ∀ m ∈ entries, ¬Parts v m := by
  intro m hm
  obtain ⟨i, hi⟩ := List.mem_iff_getElem?.mp hm
  apply h (log.length + i) m (Nat.lt_of_lt_of_le hk (Nat.le_add_right _ _))
  rw [List.getElem?_append_right (Nat.le_add_right _ _), Nat.add_sub_cancel_left, hi]

lemma together_last (log : List ServerMessage) (m : ServerMessage) (v : UserUid) :
    Together (log ++ [m]) log.length v := by
  intro i m' hi hm'
  have hlt := (List.getElem?_eq_some_iff.mp hm').1
  rw [List.length_append, List.length_singleton] at hlt
  omega

lemma Meets.isPeerEvent (h : Meets roomId v m) : m.isPeerEvent = true := by
  rcases h with ⟨peerName, rfl⟩ | ⟨hpost, -, -⟩
  · rfl
  · exact ServerMessage.isPeerEvent_of_isPost hpost

lemma Meets.roomId? (h : Meets roomId v m) : m.roomId? = some roomId := by
  rcases h with ⟨peerName, rfl⟩ | ⟨-, hroom, -⟩
  · rfl
  · exact hroom

lemma parts_of_movesClient (h : ServerMessage.MovesClient m) : Parts v m := by
  cases m with
  | voiceRoomJoined | voiceRoomLeft => trivial
  | _ => exact False.elim h

lemma not_parts_of_isPost (h : m.isPost = true) : ¬Parts v m := by
  cases m with
  | broadcastTextMessage | forwardWebRtcSdp | forwardWebRtcIce => exact id
  | _ => cases h

lemma stays_of_isPeerEvent (h : m.isPeerEvent = true) : ¬ServerMessage.MovesClient m := by
  cases m with
  | voiceRoomJoined | voiceRoomLeft => cases h
  | _ => exact id

/-- Entries that do not move a client leave the room that a log confirms. -/
lemma bracketRoom_stays (log : List ServerMessage) {rest : List ServerMessage}
    (h : ∀ m ∈ rest, ¬ServerMessage.MovesClient m) : bracketRoom (log ++ rest) = bracketRoom log := by
  induction rest using List.reverseRecOn with
  | nil => rw [List.append_nil]
  | append_singleton rest m ih =>
    rw [← List.append_assoc, bracketRoom_concat, bracketStep_stays (h m (by simp))]
    exact ih (fun m' hm' => h m' (List.mem_append_left _ hm'))

/-- The room that a log confirms is the one in which its connection has been together with `v`. -/
lemma bracketRoom_of_together (hm : log[k]? = some m) (hpeer : m.isPeerEvent = true)
    (htogether : Together log k v) : bracketRoom log = bracketRoom (log.take k) := by
  have hrest : ∀ m' ∈ log.drop k, ¬ServerMessage.MovesClient m' := by
    intro m' hm' hmoves
    obtain ⟨i, hi⟩ := List.mem_iff_getElem?.mp hm'
    rw [List.getElem?_drop] at hi
    rcases Nat.eq_zero_or_pos i with rfl | hpos
    · rw [Nat.add_zero, hm, Option.some.injEq] at hi
      rw [← hi] at hmoves
      exact stays_of_isPeerEvent hpeer hmoves
    · exact htogether (k + i) m' (by omega) hi (parts_of_movesClient hmoves)
  have hstays := bracketRoom_stays (log.take k) hrest
  rwa [List.take_append_drop] at hstays

end Logs

/-! ### Logs and rooms -/

/-- The log of a connection confirms the room that its session is in. -/
lemma bracketRoom_of_roster {crates : Crates} {system : System} (h : Reachable crates system)
    {c : ConnId} {s : Session} (hs : system.roster c = some s) :
    bracketRoom (system.outbound c) = s.activeVoiceRoomId := by
  obtain ⟨actions, hactions⟩ := h
  obtain ⟨stage, haccepted, hstaged⟩ := staged_of_run hactions c
  obtain ⟨task, htask, hsession⟩ := Option.bind_eq_some_iff.mp hs
  have hsettled := ((inv_of_reachable ⟨actions, hactions⟩).settled c task htask).2
  rw [← room_of_accepted haccepted]
  by_cases hreplying : ∃ m, task.phase = .replying m
  · obtain ⟨m, hm⟩ := hreplying
    rw [hstaged.replying task m htask hm]
    -- a session that has not been announced is in no room
    simp only [hm, hsession, reduceCtorEq, false_and, and_false, false_or] at hsettled
    obtain ⟨-, t, ht, hroom, -⟩ := hsettled
    cases ht
    rw [hroom]
    rfl
  · rw [hstaged.active task s htask hsession (fun m hm => hreplying ⟨m, hm⟩), Stage.of]
    cases s.activeVoiceRoomId <;> rfl

section Systems

variable {crates : Crates} {system : System} {c : ConnId} {s : Session} {roomId : Uuid}
  {v : UserUid} {m : ServerMessage} {k : ℕ}

/-- An entry about a room is about the one that the log before it confirms. -/
lemma roomId_of_entry (h : Reachable crates system) (hm : (system.outbound c)[k]? = some m)
    (hpeer : m.isPeerEvent = true) : m.roomId? = bracketRoom ((system.outbound c).take k) := by
  obtain ⟨actions, hactions⟩ := h
  obtain ⟨stage, haccepted, -⟩ := staged_of_run hactions c
  obtain ⟨hlt, hget⟩ := List.getElem?_eq_some_iff.mp hm
  rw [← List.take_append_drop k (system.outbound c), List.drop_eq_getElem_cons hlt, hget]
    at haccepted
  exact roomId_of_accepted haccepted hpeer

lemma room_of_together (h : Reachable crates system) (hs : system.roster c = some s)
    (hm : (system.outbound c)[k]? = some m) (hmeets : Meets roomId v m)
    (htogether : Together (system.outbound c) k v) : s.activeVoiceRoomId = some roomId := by
  rw [← bracketRoom_of_roster h hs, bracketRoom_of_together hm hmeets.isPeerEvent htogether,
    ← roomId_of_entry h hm hmeets.isPeerEvent, hmeets.roomId?]

end Systems

section Steps

variable {crates : Crates} {sign : ConnId → String → UInt64 → Except String String}
  {network network' : Network} {action : NetworkAction} {c d : ConnId} {s t : Session}
  {roomId : Uuid} {v : UserUid} {m : ServerMessage} {k : ℕ} {heard : List ServerMessage}

/-- A connection that stays in a room hears nothing that parts it from one who stays there too. -/
lemma ObservedInside.not_parts {roster roster' : Roster} {self : UserUid}
    (h : ObservedInside roster roster' roomId self heard) (hbefore : roster.Present roomId v)
    (hafter : roster'.Present roomId v) : ∀ m ∈ heard, ¬Parts v m := by
  cases h with
  | quiet => simp
  | peerJoined other absent room =>
    rw [List.forall_mem_singleton]
    rintro rfl
    exact absent hbefore
  | peerLeft other present room =>
    rw [List.forall_mem_singleton]
    rintro rfl
    exact ((room _).mp hafter).1 rfl
  | @post _ m same isPost =>
    rw [List.forall_mem_singleton]
    exact not_parts_of_isPost isPost

/-- Who has stayed in a room, and has not heard that `v` came or went, finds `v` as it was. -/
lemma ObservedInside.present_iff {roster roster' : Roster} {self : UserUid}
    (h : ObservedInside roster roster' roomId self heard) (hheard : ∀ m ∈ heard, ¬Parts v m) :
    roster'.Present roomId v ↔ roster.Present roomId v := by
  cases h with
  | quiet room => exact room v
  | peerJoined other absent room =>
    rw [List.forall_mem_singleton] at hheard
    rw [room]
    exact or_iff_right (fun hv => hheard hv.symm)
  | peerLeft other present room =>
    rw [List.forall_mem_singleton] at hheard
    rw [room]
    exact and_iff_right (fun hv => hheard hv.symm)
  | post same => rw [same]

/-- Whoever hears what does not move it has not moved. -/
lemma Observed.stayed {roster roster' : Roster} (h : Observed roster roster' c heard)
    (hs : roster' c = some s) (hroom : s.activeVoiceRoomId = some roomId)
    (hheard : ∀ m ∈ heard, ¬Parts v m) :
    roster c = some s ∧ ObservedInside roster roster' roomId s.userUid heard := by
  rcases h.member hs hroom with hinside | ⟨-, rfl, -⟩
  · exact hinside
  · exact absurd trivial (hheard _ (List.mem_singleton_self _))

/-- Whoever has met `v` and has not been parted from it is in the room with it. -/
def MetArePresent (system : System) : Prop :=
  ∀ (c : ConnId) (s : Session) (k : ℕ) (m : ServerMessage) (roomId : Uuid) (v : UserUid),
    system.roster c = some s → (system.outbound c)[k]? = some m → Meets roomId v m →
    Together (system.outbound c) k v → system.roster.Present roomId v

/-- Whatever frames the server gets. -/
theorem metArePresent_of_reachable {system : System} (h : Reachable crates system) :
    MetArePresent system := by
  refine Execution.invariant_of_reachable_step (fun c s k m roomId v hs => by cases hs) ?_ h
  intro system action system' hreach ih hstep c s k m roomId v hs hm hmeets htogether
  have hroom := room_of_together (hreach.tail hstep) hs hm hmeets htogether
  obtain ⟨heard, hlog, hobs⟩ := observed_step (inv_of_reachable hreach) hstep c
  have hlength := Observed.length_le hobs
  rw [hlog] at hm htogether
  by_cases hlt : k < (system.outbound c).length
  · rw [List.getElem?_append_left hlt] at hm
    have hheard := htogether.later hlt
    obtain ⟨hbefore, hinside⟩ := hobs.stayed hs hroom hheard
    exact (hinside.present_iff hheard).mpr (ih c s k m roomId v hbefore hm hmeets htogether.before)
  · rw [List.getElem?_append_right (Nat.le_of_not_lt hlt)] at hm
    have hnew := Observed.eq_of_mem hobs (List.mem_of_getElem? hm)
    rw [hnew] at hobs
    rcases hmeets with ⟨peerName, rfl⟩ | ⟨hpost, hroomId, hsender⟩
    · exact (Observed.arrival hobs).2.1
    · cases hobs with
      | post session here same isPost room sender present =>
        rw [same, Option.some.inj (hroomId.symm.trans room),
          Option.some.inj (hsender.symm.trans sender)]
        exact present
      | prelude unknown same prelude =>
        rw [not_isPost_of_isPrelude prelude] at hpost
        cases hpost
      | _ => cases hpost

/-- A connection that comes to a room does not find its own user there. -/
lemma absent_of_entering (hdistinct : network.system.roster.Distinct)
    (ht : network.system.roster d = some t) (hroom : t.activeVoiceRoomId ≠ some roomId) :
    ¬network.system.roster.Present roomId t.userUid :=
  fun hpresent => hroom ((hdistinct.present_iff ht).mp hpresent)

/-! ### Who has come last -/

/-- The connection has heard that `v` has come, and has not been parted from it since. -/
def Told (network : Network) (c : ConnId) (v : UserUid) : Prop :=
  ∃ k roomId peerName, (network.system.outbound c)[k]? = some (.peerJoinedRoom roomId v peerName) ∧
    Together (network.system.outbound c) k v

lemma Told.step (h : ReachableNetwork crates sign network)
    (hstep : network.step crates sign action = some network') (htold : Told network c v)
    (hs : network'.system.roster c = some s) (hroom : s.activeVoiceRoomId = some roomId)
    (hbefore : network.system.roster c = some s) (hpresent : network.system.roster.Present roomId v)
    (hpresent' : network'.system.roster.Present roomId v) : Told network' c v := by
  obtain ⟨k, room, peerName, hk, htogether⟩ := htold
  obtain ⟨heard, hlog, hobs⟩ := observed_network h hstep c
  refine ⟨k, room, peerName, entry_grows h hstep hk, ?_⟩
  rw [hlog]
  apply htogether.append
  rcases hobs.member hs hroom with ⟨-, hinside⟩ | ⟨⟨before, hbefore', -, helse⟩, -⟩
  · exact hinside.not_parts hpresent hpresent'
  · rw [hbefore, Option.some.injEq] at hbefore'
    rw [← hbefore'] at helse
    exact absurd hroom helse

/-- Whoever is in a room that somebody enters is told so. -/
lemma told_of_entering (h : ReachableNetwork crates sign network)
    (hstep : network.step crates sign action = some network')
    (hs : network'.system.roster c = some s) (hroom : s.activeVoiceRoomId = some roomId)
    (hbefore : network.system.roster c = some s) (habsent : ¬network.system.roster.Present roomId v)
    (hpresent : network'.system.roster.Present roomId v) : Told network' c v := by
  obtain ⟨heard, hlog, hobs⟩ := observed_network h hstep c
  rcases hobs.member hs hroom with ⟨-, hinside⟩ | ⟨⟨before, hbefore', -, helse⟩, -⟩
  · obtain ⟨peerName, rfl⟩ := hinside.told habsent hpresent
    refine ⟨(network.system.outbound c).length, roomId, peerName, ?_, ?_⟩
    · rw [hlog]
      simp
    · rw [hlog]
      exact together_last _ _ _
  · rw [hbefore, Option.some.injEq] at hbefore'
    rw [← hbefore'] at helse
    exact absurd hroom helse

lemma present_of_roster (hs : network.system.roster c = some s)
    (hroom : s.activeVoiceRoomId = some roomId) : network.system.roster.Present roomId s.userUid :=
  ⟨c, s, hs, rfl, hroom⟩

/-- Of two connections in a room, one has heard that the other has come. -/
def OneIsTold (network : Network) : Prop :=
  ∀ (c d : ConnId) (s t : Session) (roomId : Uuid), c ≠ d → network.system.roster c = some s →
    network.system.roster d = some t → s.activeVoiceRoomId = some roomId →
    t.activeVoiceRoomId = some roomId → Told network c t.userUid ∨ Told network d s.userUid

theorem oneIsTold_of_reachable (h : ReachableNetwork crates sign network) : OneIsTold network := by
  refine Execution.invariant_of_reachable_step (fun c d s t roomId _ hs => by cases hs) ?_ h
  intro network action network' hnetwork ih hstep c d s t roomId hcd hs ht hsroom htroom
  have hdistinct := (inv_of_network hnetwork).tracks.distinct
  obtain ⟨_, -, hobs⟩ := observed_network hnetwork hstep c
  obtain ⟨_, -, hobs'⟩ := observed_network hnetwork hstep d
  have hpresent := present_of_roster hs hsroom
  have hpresent' := present_of_roster ht htroom
  rcases hobs.member hs hsroom with ⟨hsbefore, -⟩ | ⟨⟨s₀, hs₀, hsuid, hselse⟩, -, hsonly⟩
  · rcases hobs'.member ht htroom with ⟨htbefore, -⟩ | ⟨⟨t₀, ht₀, htuid, htelse⟩, -, -⟩
    · rcases ih c d s t roomId hcd hsbefore htbefore hsroom htroom with htold | htold
      · exact Or.inl (htold.step hnetwork hstep hs hsroom hsbefore
          (present_of_roster htbefore htroom) hpresent')
      · exact Or.inr (htold.step hnetwork hstep ht htroom htbefore
          (present_of_roster hsbefore hsroom) hpresent)
    · have habsent := absent_of_entering hdistinct ht₀ htelse
      rw [htuid] at habsent
      exact Or.inl (told_of_entering hnetwork hstep hs hsroom hsbefore habsent hpresent')
  · have habsent := absent_of_entering hdistinct hs₀ hselse
    rw [hsuid] at habsent
    rcases hobs'.member ht htroom with ⟨htbefore, -⟩ | ⟨⟨t₀, ht₀, htuid, htelse⟩, -, -⟩
    · exact Or.inr (told_of_entering hnetwork hstep ht htroom htbefore habsent hpresent)
    · -- two connections do not move in one step
      rcases (hsonly t.userUid).mp hpresent' with hsame | hthere
      · have hdistinct := (inv_of_network (hnetwork.tail hstep)).tracks.distinct
        exact absurd (hdistinct c d s t hs ht hsame.symm) hcd
      · rw [← htuid] at hthere
        exact absurd hthere (absent_of_entering hdistinct ht₀ htelse)

end Steps

end VTNet.Proofs
