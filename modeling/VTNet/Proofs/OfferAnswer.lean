import VTNet.Proofs.Provenance

/-!
# Answers and the offers they answer

Offers and answers name a room and two users and nothing else. Whatever is delayed, an answer
responds to an offer of the user that hears it, and as long as both users have entered the room
once only, to the offer that is still outstanding.
-/

namespace VTNet.Proofs

/-! ### Entries of a log -/

/-- A message by which a client changes its room. -/
def ServerMessage.MovesClient : ServerMessage → Prop
  | .voiceRoomJoined _ => True
  | .voiceRoomLeft _ => True
  | _ => False

lemma bracketStep_stays {m : ServerMessage} (h : ¬ServerMessage.MovesClient m)
    (roomId : Option Uuid) : bracketStep roomId m = roomId := by
  cases m <;> first | rfl | exact absurd trivial h

/-- The room that a log confirms has been entered last. -/
lemma entry_of_bracketRoom {log : List ServerMessage} {roomId : Uuid}
    (h : bracketRoom log = some roomId) :
    ∃ i : ℕ, log[i]? = some (ServerMessage.voiceRoomJoined roomId) ∧
      ∀ k m, i < k → log[k]? = some m → ¬ServerMessage.MovesClient m := by
  induction log using List.reverseRecOn with
  | nil => cases h
  | append_singleton log m ih =>
    rw [bracketRoom_concat] at h
    by_cases hmoves : ServerMessage.MovesClient m
    · cases m with
      | voiceRoomJoined joined =>
        cases h
        refine ⟨log.length, by simp, ?_⟩
        intro k m hk hm
        have hlt := (List.getElem?_eq_some_iff.mp hm).1
        rw [List.length_append, List.length_singleton] at hlt
        omega
      | voiceRoomLeft => cases h
      | _ => cases hmoves
    · rw [bracketStep_stays hmoves] at h
      obtain ⟨i, hi, hafter⟩ := ih h
      have hlt := (List.getElem?_eq_some_iff.mp hi).1
      refine ⟨i, by rw [List.getElem?_append_left hlt, hi], ?_⟩
      intro k m' hk hm'
      by_cases hkl : k < log.length
      · rw [List.getElem?_append_left hkl] at hm'
        exact hafter k m' hk hm'
      · rw [List.getElem?_append_right (Nat.le_of_not_lt hkl)] at hm'
        have hm := List.mem_of_getElem? hm'
        rw [List.mem_singleton] at hm
        rw [hm]
        exact hmoves

/-- As long as a client does not move, its log confirms the room that it has entered. -/
lemma bracketRoom_of_entry {log : List ServerMessage} {roomId : Uuid} {i k : ℕ}
    (hi : log[i]? = some (ServerMessage.voiceRoomJoined roomId)) (hik : i < k)
    (hstays : ∀ j m, i < j → j < k → log[j]? = some m → ¬ServerMessage.MovesClient m) :
    bracketRoom (log.take k) = some roomId := by
  induction k, hik using Nat.le_induction with
  | base =>
    rw [List.take_add_one, hi]
    exact bracketRoom_concat _ _
  | succ k hik ih =>
    have hbefore := ih (fun j m hij hjk => hstays j m hij (Nat.lt_succ_of_lt hjk))
    rw [List.take_add_one]
    cases hk : log[k]? with
    | none => simpa using hbefore
    | some m =>
      have hstay := hstays k m hik (Nat.lt_succ_self k) hk
      rw [Option.toList_some, bracketRoom_concat, hbefore, bracketStep_stays hstay]

/-- Two entries of a log with one text are one entry, if no text occurs twice. -/
lemma index_of_text {α β : Type*} {f : α → Option β} {log : List α} (h : (log.filterMap f).Nodup)
    {i j : ℕ} {a b : α} {text : β} (ha : log[i]? = some a) (hb : log[j]? = some b)
    (hfa : f a = some text) (hfb : f b = some text) : i = j := by
  induction log generalizing i j with
  | nil => simp at ha
  | cons x log ih =>
    -- the text of the first entry is that of no other one
    have hfirst : ∀ (n : ℕ) c, log[n]? = some c → f c = some text → f x ≠ some text := by
      intro n c hc hfc hfx
      rw [List.filterMap_cons_some hfx, List.nodup_cons] at h
      exact h.1 (List.mem_filterMap.mpr ⟨c, List.mem_of_getElem? hc, hfc⟩)
    have htail : (log.filterMap f).Nodup := by
      cases hfx : f x with
      | none => rwa [List.filterMap_cons_none hfx] at h
      | some y =>
        rw [List.filterMap_cons_some hfx, List.nodup_cons] at h
        exact h.2
    cases i with
    | zero =>
      cases j with
      | zero => rfl
      | succ j =>
        cases ha
        exact absurd hfa (hfirst j b hb hfb)
    | succ i =>
      cases j with
      | zero =>
        cases hb
        exact absurd hfb (hfirst i a ha hfa)
      | succ j => exact congrArg (· + 1) (ih htail ha hb)

/-! ### Who has entered a room -/

def Entered (network : Network) (userUid : UserUid) (roomId : Uuid) : Prop :=
  ∃ (c : ConnId) (i : ℕ), network.uid c = some userUid ∧
    (network.system.outbound c)[i]? = some (.voiceRoomJoined roomId)

/-- All connections of the user together have heard once at most that they have joined the room. -/
def EntersOnce (network : Network) (userUid : UserUid) (roomId : Uuid) : Prop :=
  ∀ (c d : ConnId) (i j : ℕ), network.uid c = some userUid → network.uid d = some userUid →
    (network.system.outbound c)[i]? = some (.voiceRoomJoined roomId) →
    (network.system.outbound d)[j]? = some (.voiceRoomJoined roomId) → c = d ∧ i = j

section Steps

variable {crates : Crates} {sign : ConnId → String → UInt64 → Except String String}
  {network network' : Network} {action : NetworkAction} {roomId : Uuid} {u v : UserUid}

lemma Entered.step (h : ReachableNetwork crates sign network)
    (hstep : network.step crates sign action = some network') (hentered : Entered network v roomId) :
    Entered network' v roomId := by
  obtain ⟨c, i, huid, hentry⟩ := hentered
  exact ⟨c, i, uid_grows (identified_of_reachable h) hstep huid, entry_grows h hstep hentry⟩

lemma EntersOnce.before (h : ReachableNetwork crates sign network)
    (hstep : network.step crates sign action = some network') (honce : EntersOnce network' v roomId) :
    EntersOnce network v roomId := by
  have hidentified := identified_of_reachable h
  intro c d i j hc hd hi hj
  exact honce c d i j (uid_grows hidentified hstep hc) (uid_grows hidentified hstep hd)
    (entry_grows h hstep hi) (entry_grows h hstep hj)

/-- A user comes to be in a room when a connection of it hears that it has joined it. -/
lemma entry_of_arrival (h : ReachableNetwork crates sign network)
    (hstep : network.step crates sign action = some network')
    (habsent : ¬network.system.roster.Present roomId v)
    (hpresent : network'.system.roster.Present roomId v) :
    ∃ e, network'.uid e = some v ∧
      network'.system.outbound e = network.system.outbound e ++ [.voiceRoomJoined roomId] := by
  obtain ⟨e, s, hs, huid, hroom⟩ := hpresent
  obtain ⟨heard, hlog, hobs⟩ := observed_network h hstep e
  have hnetwork' : ReachableNetwork crates sign network' := h.tail hstep
  rcases hobs.member hs hroom with ⟨hsame, -⟩ | ⟨-, rfl, -⟩
  · exact absurd ⟨e, s, hsame, huid, hroom⟩ habsent
  · exact ⟨e, huid ▸ uid_of_roster hnetwork' hs, hlog⟩

/-- Who arrives in a room that it enters once has not been there. -/
lemma not_entered_of_arrival (h : ReachableNetwork crates sign network)
    (hstep : network.step crates sign action = some network')
    (honce : EntersOnce network' v roomId) (habsent : ¬network.system.roster.Present roomId v)
    (hpresent : network'.system.roster.Present roomId v) : ¬Entered network v roomId := by
  obtain ⟨e, huid, hlog⟩ := entry_of_arrival h hstep habsent hpresent
  rintro ⟨c, i, hc, hi⟩
  have hnew : (network'.system.outbound e)[(network.system.outbound e).length]? =
      some (.voiceRoomJoined roomId) := by
    rw [hlog]
    simp
  obtain ⟨rfl, rfl⟩ := honce c e i _ (uid_grows (identified_of_reachable h) hstep hc) huid
    (entry_grows h hstep hi) hnew
  exact absurd (List.getElem?_eq_some_iff.mp hi).1 (Nat.lt_irrefl _)

def PresentEntered (network : Network) : Prop :=
  ∀ roomId v, network.system.roster.Present roomId v → Entered network v roomId

lemma presentEntered_of_reachable (h : ReachableNetwork crates sign network) :
    PresentEntered network := by
  refine Execution.invariant_of_reachable_step ?_ ?_ h
  · rintro roomId v ⟨c, s, hs, -⟩
    cases hs
  · intro network action network' hnetwork h hstep roomId v hpresent
    by_cases hbefore : network.system.roster.Present roomId v
    · exact (h roomId v hbefore).step hnetwork hstep
    · obtain ⟨e, huid, hlog⟩ := entry_of_arrival hnetwork hstep hbefore hpresent
      exact ⟨e, (network.system.outbound e).length, huid, by rw [hlog]; simp⟩

/-! ### What is heard of a user that enters once -/

/-- What the logs say about `v` in the room, as long as it has entered it once only. -/
structure HeardOnce (network : Network) (v : UserUid) (roomId : Uuid) : Prop where
  arrived : ∀ c peerName, .peerJoinedRoom roomId v peerName ∈ network.system.outbound c →
    Entered network v roomId
  departed : ∀ c, .peerLeftRoom roomId v ∈ network.system.outbound c → Entered network v roomId
  once : ∀ (c : ConnId) (i j : ℕ) peerName peerName',
    (network.system.outbound c)[i]? = some (.peerJoinedRoom roomId v peerName) →
    (network.system.outbound c)[j]? = some (.peerJoinedRoom roomId v peerName') → i = j
  gone : ∀ c, .peerLeftRoom roomId v ∈ network.system.outbound c →
    ¬network.system.roster.Present roomId v
  silent : ∀ (c : ConnId) (i j : ℕ) m, (network.system.outbound c)[i]? = some (.peerLeftRoom roomId v) →
    (network.system.outbound c)[j]? = some m → m.isPost = true → m.roomId? = some roomId →
    m.senderUid? = some v → j < i

lemma Observed.arrival {roster roster' : Roster} {d : ConnId} {peerName : String}
    (h : Observed roster roster' d [.peerJoinedRoom roomId v peerName]) :
    ¬roster.Present roomId v ∧ roster'.Present roomId v ∧
      ∃ s, roster d = some s ∧ s.activeVoiceRoomId = some roomId ∧ v ≠ s.userUid := by
  cases h with
  | prelude unknown same prelude => cases prelude
  | peerJoined session same here other absent room =>
    exact ⟨absent, (room v).mpr (Or.inl rfl), _, session, here, other⟩
  | post session here same isPost => cases isPost

lemma Observed.departure {roster roster' : Roster} {d : ConnId}
    (h : Observed roster roster' d [.peerLeftRoom roomId v]) :
    roster.Present roomId v ∧ ¬roster'.Present roomId v := by
  cases h with
  | prelude unknown same prelude => cases prelude
  | peerLeft session same here other present room =>
    exact ⟨present, fun hpresent => ((room v).mp hpresent).1 rfl⟩
  | post session here same isPost => cases isPost

lemma Observed.posted {roster roster' : Roster} {d : ConnId} {m : ServerMessage}
    (h : Observed roster roster' d [m]) (hpost : m.isPost = true) (hroom : m.roomId? = some roomId)
    (hsender : m.senderUid? = some v) : roster.Present roomId v := by
  cases h with
  | prelude unknown same prelude =>
    cases m <;> first | exact absurd hpost Bool.false_ne_true | cases prelude
  | post session here same isPost room sender present =>
    rw [room] at hroom
    rw [sender] at hsender
    cases hroom
    cases hsender
    exact present
  | _ => cases hpost

lemma HeardOnce.step (hnetwork : ReachableNetwork crates sign network)
    (hstep : network.step crates sign action = some network')
    (honce : EntersOnce network' v roomId) (h : HeardOnce network v roomId) :
    HeardOnce network' v roomId := by
  have hfresh := not_entered_of_arrival hnetwork hstep honce
  constructor
  · intro c peerName hm
    rcases heard_of_step hnetwork hstep hm with hold | hobs
    · exact (h.arrived c peerName hold).step hnetwork hstep
    · exact presentEntered_of_reachable (hnetwork.tail hstep) roomId v (Observed.arrival hobs).2.1
  · intro c hm
    rcases heard_of_step hnetwork hstep hm with hold | hobs
    · exact (h.departed c hold).step hnetwork hstep
    · have hentered := presentEntered_of_reachable hnetwork roomId v (Observed.departure hobs).1
      exact hentered.step hnetwork hstep
  · intro c i j peerName peerName' hi hj
    -- a second arrival would be one of a user that has been there
    have hsecond : ∀ (k : ℕ) name name',
        (network.system.outbound c)[k]? = some (.peerJoinedRoom roomId v name) →
        ¬Observed network.system.roster network'.system.roster c
          [.peerJoinedRoom roomId v name'] := by
      intro k name name' hk hobs
      obtain ⟨habsent, hpresent, -⟩ := Observed.arrival hobs
      exact hfresh habsent hpresent (h.arrived c name (List.mem_of_getElem? hk))
    rcases entry_of_step hnetwork hstep hi with hold | ⟨hlast, hnew⟩
    · rcases entry_of_step hnetwork hstep hj with hold' | ⟨-, hnew'⟩
      · exact h.once c i j peerName peerName' hold hold'
      · exact absurd hnew' (hsecond i _ _ hold)
    · rcases entry_of_step hnetwork hstep hj with hold' | ⟨hlast', -⟩
      · exact absurd hnew (hsecond j _ _ hold')
      · omega
  · intro c hm hpresent'
    rcases heard_of_step hnetwork hstep hm with hold | hobs
    · by_cases hpresent : network.system.roster.Present roomId v
      · exact h.gone c hold hpresent
      · exact hfresh hpresent hpresent' (h.departed c hold)
    · exact (Observed.departure hobs).2 hpresent'
  · intro c i j m hi hj hpost hroom hsender
    rcases entry_of_step hnetwork hstep hj with hold | ⟨hlast, hobs⟩
    · rcases entry_of_step hnetwork hstep hi with hold' | ⟨hlast', -⟩
      · exact h.silent c i j m hold' hold hpost hroom hsender
      · have hlt := (List.getElem?_eq_some_iff.mp hold).1
        omega
    · rcases entry_of_step hnetwork hstep hi with hold' | ⟨hlast', -⟩
      · exact absurd (Observed.posted hobs hpost hroom hsender)
          (h.gone c (List.mem_of_getElem? hold'))
      · rw [hlast', ← hlast, hj] at hi
        cases hi
        cases hpost

theorem heardOnce_of_reachable (h : ReachableNetwork crates sign network)
    (honce : EntersOnce network v roomId) : HeardOnce network v roomId := by
  obtain ⟨actions, hactions⟩ := h
  refine Execution.exec_induction (Network.step crates sign)
    (motive := fun _ network => EntersOnce network v roomId → HeardOnce network v roomId)
    ?_ ?_ actions network hactions honce
  · intro _
    exact ⟨fun c _ hm => (by cases hm), fun c hm => (by cases hm), fun c i j _ _ hi => (by cases hi),
      fun c hm => (by cases hm), fun c i j m hi => (by cases hi)⟩
  · intro actions network action network' hactions ih hstep honce
    have hnetwork : ReachableNetwork crates sign network := ⟨actions, hactions⟩
    exact (ih (honce.before hnetwork hstep)).step hnetwork hstep honce

/-! ### Who has entered first -/

/-- Only a connection that has been accepted sends to its own channel. -/
lemma tasks_of_own {system : System} {served : Action} {c : ConnId} {m : ServerMessage}
    (h : system.event served = .own c m) : system.tasks c ≠ none := by
  intro hnone
  cases served with
  | register d =>
    simp only [System.event] at h
    split at h
    · rename_i hphase
      split at h
      · cases h
        rw [hnone] at hphase
        cases hphase
      · cases h
    · cases h
  | reply d =>
    simp only [System.event] at h
    split at h
    · rename_i hphase
      cases h
      rw [hnone] at hphase
      cases hphase
    · cases h
  | handle d =>
    simp only [System.event] at h
    split at h
    · rename_i message serverTimestamp _
      cases message <;> cases h
    · cases h
  | _ => cases h

/-- Nothing is sent to a connection that has not been accepted. -/
lemma heard_of_free {system system' : System} (hinv : Inv system) {served : Action}
    (hstep : system.step crates served = some system') {c : ConnId} (hfree : system.tasks c = none) :
    system'.outbound c = system.outbound c := by
  have hroster : system.roster c = none := by simp [System.roster, hfree]
  obtain ⟨-, hvalid, -, houtbound⟩ := step_refines hinv hstep
  have hobs := observed_event hinv.tracks.distinct hvalid c
  have hquiet : (system.event served).heard system.roster c = [] := by
    by_contra hne
    obtain ⟨m, hm⟩ := List.exists_mem_of_ne_nil _ hne
    have hone := Observed.eq_of_mem hobs hm
    rw [hone] at hobs
    cases hobs with
    | prelude unknown same prelude =>
      rcases heard_cases hm with hown | ⟨_, -, rfl⟩ | ⟨_, -, rfl⟩ | hpeer
      · exact tasks_of_own hown hfree
      · cases prelude
      · cases prelude
      · cases m <;> first | exact absurd hpeer Bool.false_ne_true | cases prelude
    | welcome session => rw [hroster] at session; cases session
    | joined session => rw [hroster] at session; cases session
    | left session => rw [hroster] at session; cases session
    | peerJoined session => rw [hroster] at session; cases session
    | peerLeft session => rw [hroster] at session; cases session
    | post session => rw [hroster] at session; cases session
  rw [houtbound, hquiet, List.append_nil]

def FreeSilent (network : Network) : Prop :=
  ∀ c, network.clients c = none → network.system.outbound c = []

lemma freeSilent_of_reachable (h : ReachableNetwork crates sign network) : FreeSilent network := by
  refine Execution.invariant_of_reachable_step (fun c _ => rfl) ?_ h
  intro network action network' hnetwork h hstep c hnone'
  have hidentified := identified_of_reachable hnetwork
  have hnone : network.clients c = none := by
    by_contra hsome
    obtain ⟨client, hclient⟩ := Option.ne_none_iff_exists'.mp hsome
    obtain ⟨client', hclient', -⟩ := client_grows hidentified hstep hclient
    rw [hnone'] at hclient'
    cases hclient'
  rw [← h c hnone]
  rcases system_of_step hstep with hsame | ⟨served, hserved⟩
  · rw [hsame]
  · exact heard_of_free (inv_of_network hnetwork) hserved ((hidentified.paired c).mp hnone)

/-- A connection that has heard something is that of the user it was. -/
lemma uid_before (h : ReachableNetwork crates sign network)
    (hstep : network.step crates sign action = some network') {c : ConnId} {m : ServerMessage}
    (hm : m ∈ network.system.outbound c) (huid : network'.uid c = some u) :
    network.uid c = some u := by
  have hidentified := identified_of_reachable h
  cases hclient : network.clients c with
  | none =>
    rw [freeSilent_of_reachable h c hclient] at hm
    cases hm
  | some client =>
    obtain ⟨uid, hidentity⟩ := hidentified.known c client hclient
    have hbefore : network.uid c = some uid := (uid_of_client hclient).trans hidentity
    rw [uid_grows hidentified hstep hbefore] at huid
    rw [hbefore, huid]

/-- A room message follows the entry of its connection into the room. -/
lemma entry_of_message (h : ReachableNetwork crates sign network) {c : ConnId} {j : ℕ}
    {m : ServerMessage} (hm : (network.system.outbound c)[j]? = some m)
    (hpeer : m.isPeerEvent = true) : m.roomId? = bracketRoom ((network.system.outbound c).take j) := by
  obtain ⟨actions, hactions⟩ := reachable_system h
  obtain ⟨stage, haccepted, -⟩ := staged_of_run hactions c
  have hlt := (List.getElem?_eq_some_iff.mp hm).1
  have hsplit : network.system.outbound c = (network.system.outbound c).take j ++
      m :: (network.system.outbound c).drop (j + 1) := by
    rw [List.getElem?_eq_getElem hlt, Option.some.injEq] at hm
    rw [← hm, ← List.drop_eq_getElem_cons hlt, List.take_append_drop]
  rw [hsplit] at haccepted
  exact roomId_of_accepted haccepted hpeer

/-- A user that has heard a room message has entered the room. -/
lemma entered_of_message (h : ReachableNetwork crates sign network) {c : ConnId} {m : ServerMessage}
    (huid : network.uid c = some u) (hm : m ∈ network.system.outbound c)
    (hpeer : m.isPeerEvent = true) (hroom : m.roomId? = some roomId) : Entered network u roomId := by
  obtain ⟨j, hj⟩ := List.mem_iff_getElem?.mp hm
  obtain ⟨i, hi, -⟩ := entry_of_bracketRoom ((entry_of_message h hj hpeer).symm.trans hroom)
  rw [List.getElem?_take, Option.ite_none_right_eq_some] at hi
  exact ⟨c, i, huid, hi.2⟩

/-- Of two users that enter a room once, one alone hears of the other's arrival. -/
def ArrivalsOrdered (network : Network) (u v : UserUid) (roomId : Uuid) : Prop :=
  ∀ c d peerName peerName', network.uid c = some u → network.uid d = some v →
    .peerJoinedRoom roomId v peerName ∈ network.system.outbound c →
    .peerJoinedRoom roomId u peerName' ∉ network.system.outbound d

lemma ArrivalsOrdered.step (hnetwork : ReachableNetwork crates sign network)
    (hstep : network.step crates sign action = some network')
    (hu : EntersOnce network' u roomId) (hv : EntersOnce network' v roomId)
    (h : ArrivalsOrdered network u v roomId) : ArrivalsOrdered network' u v roomId := by
  intro c d peerName peerName' huid huid' hm hm'
  rcases heard_of_step hnetwork hstep hm with hold | hobs
  · have hbefore := uid_before hnetwork hstep hold huid
    rcases heard_of_step hnetwork hstep hm' with hold' | hobs'
    · exact h c d peerName peerName' hbefore (uid_before hnetwork hstep hold' huid') hold hold'
    · obtain ⟨habsent, hpresent, -⟩ := Observed.arrival hobs'
      exact not_entered_of_arrival hnetwork hstep hu habsent hpresent
        (entered_of_message hnetwork hbefore hold rfl rfl)
  · obtain ⟨habsent, hpresent, -⟩ := Observed.arrival hobs
    rcases heard_of_step hnetwork hstep hm' with hold' | hobs'
    · exact not_entered_of_arrival hnetwork hstep hv habsent hpresent
        (entered_of_message hnetwork (uid_before hnetwork hstep hold' huid') hold' rfl rfl)
    · obtain ⟨-, -, s, hs, hroom, -⟩ := Observed.arrival hobs'
      have hs' := uid_grows (identified_of_reachable hnetwork) hstep (uid_of_roster hnetwork hs)
      rw [huid', Option.some.injEq] at hs'
      exact habsent ⟨d, s, hs, hs'.symm, hroom⟩

theorem arrivalsOrdered_of_reachable (h : ReachableNetwork crates sign network)
    (hu : EntersOnce network u roomId) (hv : EntersOnce network v roomId) :
    ArrivalsOrdered network u v roomId := by
  obtain ⟨actions, hactions⟩ := h
  refine Execution.exec_induction (Network.step crates sign)
    (motive := fun _ network => EntersOnce network u roomId → EntersOnce network v roomId →
      ArrivalsOrdered network u v roomId) ?_ ?_ actions network hactions hu hv
  · intro _ _ c d peerName peerName' _ _ hm
    cases hm
  · intro actions network action network' hactions ih hstep hu hv
    have hnetwork : ReachableNetwork crates sign network := ⟨actions, hactions⟩
    exact (ih (hu.before hnetwork hstep) (hv.before hnetwork hstep)).step hnetwork hstep hu hv

/-! ### The outstanding offer -/

/-- The offer that the client has made to `v` and that waits for its answer. -/
def outstanding (app : App) (v : UserUid) : Option String :=
  (app.peerConnections v).bind (·.localOffer)

lemma outstanding_eq_some {app : App} {offer : String} :
    outstanding app v = some offer ↔ app.peerConnections v = some ⟨some offer⟩ := by
  unfold outstanding
  rw [Option.bind_eq_some_iff]
  constructor
  · rintro ⟨⟨localOffer⟩, hconnection, hoffer⟩
    rw [hconnection]
    exact congrArg (fun localOffer => some (PeerConnection.mk localOffer)) hoffer
  · intro hconnection
    exact ⟨_, hconnection, rfl⟩

/-- An entry that may change what a client's connection to `v` waits for. -/
def Disturbs (v : UserUid) : ServerMessage → Prop
  | .voiceRoomJoined _ => True
  | .voiceRoomLeft _ => True
  | .peerJoinedRoom _ peerUid _ => peerUid = v
  | .peerLeftRoom _ peerUid => peerUid = v
  | .forwardWebRtcSdp _ senderUid _ _ => senderUid = v
  | _ => False

/-- Other entries leave the outstanding offer as it is. -/
lemma outstanding_undisturbed (sign : String → UInt64 → Except String String) (sdp : String)
    (client : Client) {m : ServerMessage} (hm : ¬Disturbs v m) :
    outstanding (client.hear sign sdp m).1.app v = outstanding client.app v := by
  rw [app_hear]
  cases m with
  | voiceRoomJoined => exact absurd trivial hm
  | voiceRoomLeft => exact absurd trivial hm
  | peerJoinedRoom roomId peerUid peerName =>
    have hother : v ≠ peerUid := fun hsame => hm hsame.symm
    simp only [App.handleServerMessage]
    split <;> simp [outstanding, App.settle, App.setPeer, hother]
  | peerLeftRoom roomId peerUid =>
    have hother : v ≠ peerUid := fun hsame => hm hsame.symm
    simp only [App.handleServerMessage]
    split <;> simp [outstanding, App.settle, App.removePeer, hother]
  | forwardWebRtcSdp roomId senderUid sdpType sdpRaw =>
    have hother : v ≠ senderUid := fun hsame => hm hsame.symm
    simp only [App.handleServerMessage]
    repeat' split
    all_goals simp [outstanding, App.settle, App.setPeer, hother]
  | forwardWebRtcIce roomId senderUid candidate =>
    simp only [App.handleServerMessage]
    split
    · by_cases hsame : v = senderUid
      · subst hsame
        cases hconnection : client.app.peerConnections v <;>
          simp [outstanding, App.settle, App.setPeer, App.peerConnection, hconnection]
      · simp [outstanding, App.settle, App.setPeer, hsame]
    · rfl
  | _ =>
    simp only [App.handleServerMessage]
    repeat' split
    all_goals rfl

/-- An offer is outstanding right after it has been made. -/
lemma outstanding_offered (sign : String → UInt64 → Except String String) (client : Client)
    {r : Description} {m : ServerMessage} (hoffer : r.answers = none)
    (hm : Description.MadeOn r m) (hsent : (client.hear sign r.sdp m).2 = [r.frame]) :
    outstanding (client.hear sign r.sdp m).1.app r.peerUid = some r.sdp := by
  unfold Description.MadeOn at hm
  rw [hoffer] at hm
  obtain ⟨peerName, rfl⟩ := hm
  rw [app_hear]
  simp only [Client.hear, App.handleServerMessage] at hsent ⊢
  split_ifs at hsent ⊢
  · cases hsent
  · simp [outstanding, App.settle, App.setPeer]

/-- An entry about `v` in the room of the client leaves no other offer outstanding than the one
that it makes. -/
lemma outstanding_disturbed (sign : String → UInt64 → Except String String) (c : ConnId)
    (sdp : String) (client : Client) {m : ServerMessage} (hm : Disturbs v m)
    (hactive : m.isPeerEvent = true → client.app.activeRoomRef = m.roomId?)
    (hself : ∀ roomId peerName, m = .peerJoinedRoom roomId v peerName →
      client.app.identity ≠ some v) {offer : String}
    (hoffer : outstanding (client.hear sign sdp m).1.app v = some offer) :
    ∃ r : Description, (client.hear sign sdp m).2.filterMap
        (ClientMessage.description c client.handled m) = [r] ∧ r.answers = none ∧ r.maker = c ∧
      r.entry = client.handled ∧ r.peerUid = v ∧ r.sdp = offer := by
  rw [app_hear] at hoffer
  cases m with
  | peerJoinedRoom roomId peerUid peerName =>
    subst hm
    have hroom : client.app.activeRoomRef = some roomId := hactive rfl
    have hother : client.app.identity ≠ some peerUid := hself roomId peerName rfl
    simp only [Client.hear, App.handleServerMessage, hroom, hother, ne_eq, not_true_eq_false,
      or_self, if_false] at hoffer ⊢
    refine ⟨⟨c, client.handled, roomId, peerUid, sdp, none⟩, rfl, rfl, rfl, rfl, rfl, ?_⟩
    simpa [outstanding, App.settle, App.setPeer] using hoffer
  | peerLeftRoom roomId peerUid =>
    subst hm
    have hroom : client.app.activeRoomRef = some roomId := hactive rfl
    simp [App.handleServerMessage, hroom, outstanding, App.settle, App.removePeer] at hoffer
  | forwardWebRtcSdp roomId senderUid sdpType sdpRaw =>
    subst hm
    have hroom : client.app.activeRoomRef = some roomId := hactive rfl
    cases sdpType <;>
      simp [App.handleServerMessage, hroom, outstanding, App.settle, App.setPeer] at hoffer
  | voiceRoomJoined => cases hoffer
  | voiceRoomLeft => cases hoffer
  | _ => cases hm

/-- Since it has been made, the client has heard nothing that disturbs it. -/
def Undisturbed (network : Network) (r : Description) (handled : ℕ) : Prop :=
  ∀ (k : ℕ) m, r.entry < k → k < handled → (network.system.outbound r.maker)[k]? = some m →
    ¬Disturbs r.peerUid m

/-- An offer is outstanding as long as nothing disturbs it. -/
def OffersWait (network : Network) : Prop :=
  ∀ r ∈ network.made, r.answers = none → ∀ client, network.clients r.maker = some client →
    Undisturbed network r client.handled → outstanding client.app r.peerUid = some r.sdp

theorem offersWait_of_reachable (h : ReachableNetwork crates sign network) :
    OffersWait network := by
  refine Execution.invariant_of_reachable_step (fun r hr => by cases hr) ?_ h
  intro network action network' hnetwork h hstep r hr hoffer client' hclient' hquiet
  have hold : r ∈ network.made → outstanding client'.app r.peerUid = some r.sdp := by
    intro hr
    obtain ⟨client, hclient, hlt⟩ := ((madeOnce_of_reachable hnetwork).recorded r hr).client
    have hbefore : client.handled ≤ client'.handled →
        outstanding client.app r.peerUid = some r.sdp := by
      intro hgrows
      refine h r hr hoffer client hclient (fun k m hk hkh hm => ?_)
      exact hquiet k m hk (Nat.lt_of_lt_of_le hkh hgrows) (entry_grows hnetwork hstep hm)
    rcases client_of_step hstep hclient' with ⟨userUid, rfl⟩ | ⟨client₁, hclient₁, happ, hhandled⟩ |
      ⟨client₁, heard, sdp, hclient₁, hnext, rfl, -, -⟩
    · obtain ⟨client₁, hclient₁, hgrows, -⟩ :=
        client_grows (identified_of_reachable hnetwork) hstep hclient
      rw [hclient', Option.some.injEq] at hclient₁
      subst hclient₁
      exact absurd (Nat.lt_of_lt_of_le hlt hgrows) (Nat.not_lt_zero _)
    · rw [hclient, Option.some.injEq] at hclient₁
      subst hclient₁
      rw [happ]
      exact hbefore hhandled.ge
    · rw [hclient, Option.some.injEq] at hclient₁
      subst hclient₁
      rw [outstanding_undisturbed]
      · exact hbefore (Nat.le_succ _)
      · exact hquiet client.handled heard hlt (Nat.lt_succ_self _) (entry_grows hnetwork hstep hnext)
  rcases made_of_step hstep with hmade | ⟨r', client, heard, hmade, -, -, -, -, -, -, hmadeOn, hnew,
    hsent⟩
  · rw [hmade] at hr
    exact hold hr
  · rw [hmade, List.mem_append, List.mem_singleton] at hr
    rcases hr with hr | rfl
    · exact hold hr
    · rw [hnew, Option.some.injEq] at hclient'
      subst hclient'
      exact outstanding_offered (sign r.maker) client hoffer hmadeOn hsent

/-- No connection hears of the arrival of its own user. -/
def OthersArrive (network : Network) : Prop :=
  ∀ c roomId v peerName, .peerJoinedRoom roomId v peerName ∈ network.system.outbound c →
    ∃ u, network.uid c = some u ∧ u ≠ v

lemma othersArrive_of_reachable (h : ReachableNetwork crates sign network) :
    OthersArrive network := by
  refine Execution.invariant_of_reachable_step (fun c _ _ _ hm => by cases hm) ?_ h
  intro network action network' hnetwork h hstep c roomId v peerName hm
  have hidentified := identified_of_reachable hnetwork
  rcases heard_of_step hnetwork hstep hm with hm | hobs
  · obtain ⟨u, huid, hother⟩ := h c roomId v peerName hm
    exact ⟨u, uid_grows hidentified hstep huid, hother⟩
  · obtain ⟨-, -, s, hs, -, hother⟩ := Observed.arrival hobs
    exact ⟨s.userUid, uid_grows hidentified hstep (uid_of_roster hnetwork hs), hother.symm⟩

/-- A client hears room messages about its room only. -/
lemma active_of_next (h : ReachableNetwork crates sign network) {c : ConnId} {client : Client}
    (hclient : network.clients c = some client) {m : ServerMessage}
    (hnext : (network.system.outbound c)[client.handled]? = some m) (hpeer : m.isPeerEvent = true) :
    client.app.activeRoomRef = m.roomId? := by
  rw [(follows_of_reachable h c client hclient).active, entry_of_message h hnext hpeer]

/-- What is outstanding has been offered, and nothing has disturbed it. -/
def WaitsForOffer (network : Network) : Prop :=
  ∀ c client v offer, network.clients c = some client → outstanding client.app v = some offer →
    ∃ r ∈ network.made, r.answers = none ∧ r.maker = c ∧ r.peerUid = v ∧ r.sdp = offer ∧
      Undisturbed network r client.handled

theorem waitsForOffer_of_reachable (h : ReachableNetwork crates sign network) :
    WaitsForOffer network := by
  refine Execution.invariant_of_reachable_step (fun c client v offer hclient => by cases hclient) ?_ h
  intro network action network' hnetwork h hstep c client' v offer hclient' hoffer
  have hidentified := identified_of_reachable hnetwork
  obtain ⟨heard, hlog, -⟩ := observed_network hnetwork hstep c
  -- what the client has handled is what it was
  have hentry : ∀ (client : Client) (k : ℕ) m, network.clients c = some client →
      k < client.handled → (network'.system.outbound c)[k]? = some m →
      (network.system.outbound c)[k]? = some m := by
    intro client k m hclient hk hm
    have hlength := (follows_of_reachable hnetwork c client hclient).handled_le
    rwa [hlog, List.getElem?_append_left (Nat.lt_of_lt_of_le hk hlength)] at hm
  rcases client_of_step hstep hclient' with ⟨userUid, rfl⟩ | ⟨client, hclient, happ, hhandled⟩ |
    ⟨client, m, sdp, hclient, hnext, rfl, hsystem, hmade⟩
  · cases hoffer
  · rw [happ] at hoffer
    obtain ⟨r, hr, hnone, rfl, hpeer, hsdp, hquiet⟩ := h c client v offer hclient hoffer
    refine ⟨r, made_grows hstep hr, hnone, rfl, hpeer, hsdp, fun k m hk hkh hm => ?_⟩
    rw [hhandled] at hkh
    exact hquiet k m hk hkh (hentry client k m hclient hkh hm)
  · by_cases hdisturbs : Disturbs v m
    · have hself : ∀ roomId peerName, m = .peerJoinedRoom roomId v peerName →
          client.app.identity ≠ some v := by
        rintro roomId peerName rfl
        obtain ⟨u, huid, hother⟩ := othersArrive_of_reachable hnetwork c roomId v peerName
          (List.mem_of_getElem? hnext)
        rw [← uid_of_client hclient, huid]
        exact fun hsame => hother (Option.some.inj hsame)
      obtain ⟨r, hmade', hnone, rfl, hentry, hpeer, hsdp⟩ := outstanding_disturbed (sign c) c sdp
        client hdisturbs (active_of_next hnetwork hclient hnext) hself hoffer
      refine ⟨r, by rw [hmade, hmade']; simp, hnone, rfl, hpeer, hsdp, fun k m' hk hkh => ?_⟩
      exact absurd (Nat.lt_succ_iff.mp hkh) (by omega)
    · rw [outstanding_undisturbed (sign c) sdp client hdisturbs] at hoffer
      obtain ⟨r, hr, hnone, rfl, rfl, hsdp, hquiet⟩ := h c client v offer hclient hoffer
      refine ⟨r, made_grows hstep hr, hnone, rfl, rfl, hsdp, fun k m' hk hkh hm => ?_⟩
      rcases Nat.lt_succ_iff_lt_or_eq.mp hkh with hkh | rfl
      · exact hquiet k m' hk hkh (hentry client k m' hclient hkh hm)
      · rw [hsystem, hnext, Option.some.injEq] at hm
        subst hm
        exact hdisturbs

/-- An offer is outstanding as long as nothing disturbs it, and no longer. -/
lemma outstanding_iff (h : ReachableNetwork crates sign network) {c : ConnId} {client : Client}
    (hclient : network.clients c = some client) {r : Description} (hr : r ∈ network.made)
    (hoffer : r.answers = none) :
    client.app.peerConnections r.peerUid = some ⟨some r.sdp⟩ ↔
      r.maker = c ∧ Undisturbed network r client.handled := by
  rw [← outstanding_eq_some]
  constructor
  · intro hwaits
    obtain ⟨r', hr', -, hmaker, -, hsdp, hquiet⟩ :=
      waitsForOffer_of_reachable h c client r.peerUid r.sdp hclient hwaits
    obtain rfl := (madeOnce_of_reachable h).unique hr' hr hsdp
    exact ⟨hmaker, hquiet⟩
  · rintro ⟨rfl, hquiet⟩
    exact offersWait_of_reachable h r hr hoffer client hclient hquiet

/-! ### Offers and answers between two users -/

/-- A client of `u` has made the description in the room and sent it to `v`. -/
structure MadeFor (network : Network) (u v : UserUid) (roomId : Uuid) (r : Description) : Prop where
  made : r ∈ network.made
  maker : network.uid r.maker = some u
  peer : r.peerUid = v
  room : r.roomId = roomId

lemma madeFor_of_forward (h : ReachableNetwork crates sign network) {c : ConnId}
    (huid : network.uid c = some u) {sdpType : SdpType} {sdp : String}
    (hm : .forwardWebRtcSdp roomId v sdpType sdp ∈ network.system.outbound c) :
    ∃ r, MadeFor network v u roomId r ∧ r.sdpType = sdpType ∧ r.sdp = sdp := by
  obtain ⟨r, hr⟩ := forwardsMade_of_reachable h c _ _ _ _ hm
  have htarget := hr.target
  rw [huid, Option.some.injEq] at htarget
  exact ⟨r, ⟨hr.made, hr.maker, htarget.symm, hr.room⟩, hr.type, hr.text⟩

/-- An offer is made on the arrival of the peer. -/
lemma arrival_of_offer (h : ReachableNetwork crates sign network) {r : Description}
    (hr : MadeFor network u v roomId r) (hoffer : r.answers = none) :
    ∃ peerName, (network.system.outbound r.maker)[r.entry]? =
      some (.peerJoinedRoom roomId v peerName) := by
  obtain ⟨m, hm, hmadeOn⟩ := ((madeOnce_of_reachable h).recorded r hr.made).madeOn
  unfold Description.MadeOn at hmadeOn
  rw [hoffer, hr.room, hr.peer] at hmadeOn
  obtain ⟨peerName, rfl⟩ := hmadeOn
  exact ⟨peerName, hm⟩

/-- An answer is made on the offer. -/
lemma offer_of_answer (h : ReachableNetwork crates sign network) {r : Description} {offer : String}
    (hr : MadeFor network v u roomId r) (hanswer : r.answers = some offer) :
    (network.system.outbound r.maker)[r.entry]? =
      some (.forwardWebRtcSdp roomId u .offer offer) := by
  obtain ⟨m, hm, hmadeOn⟩ := ((madeOnce_of_reachable h).recorded r hr.made).madeOn
  unfold Description.MadeOn at hmadeOn
  rw [hanswer, hr.room, hr.peer] at hmadeOn
  rw [hm, hmadeOn]

/-- Every answer that is heard responds to an offer of the user that hears it. -/
lemma answer_made (h : ReachableNetwork crates sign network) {c : ConnId}
    (huid : network.uid c = some u) {sdp : String}
    (hm : .forwardWebRtcSdp roomId v .answer sdp ∈ network.system.outbound c) :
    ∃ offer answer, MadeFor network u v roomId offer ∧ offer.answers = none ∧
      MadeFor network v u roomId answer ∧ answer.answers = some offer.sdp ∧ answer.sdp = sdp := by
  obtain ⟨answer, hanswer, htype, hsdp⟩ := madeFor_of_forward h huid hm
  cases hresponds : answer.answers with
  | none => simp [Description.sdpType, hresponds] at htype
  | some text =>
    have hheard := List.mem_of_getElem? (offer_of_answer h hanswer hresponds)
    obtain ⟨offer, hoffer, htype', rfl⟩ := madeFor_of_forward h hanswer.maker hheard
    refine ⟨offer, answer, hoffer, ?_, hanswer, hresponds, hsdp⟩
    cases hnone : offer.answers with
    | none => rfl
    | some text => simp [Description.sdpType, hnone] at htype'

/-- The entry into the room that a description belongs to. -/
lemma entry_of_description (h : ReachableNetwork crates sign network) {r : Description}
    (hr : MadeFor network u v roomId r) : ∃ i : ℕ, i < r.entry ∧
      (network.system.outbound r.maker)[i]? = some (.voiceRoomJoined roomId) := by
  have hroom := ((madeOnce_of_reachable h).recorded r hr.made).room
  rw [hr.room] at hroom
  obtain ⟨i, hi, -⟩ := entry_of_bracketRoom hroom
  rw [List.getElem?_take, Option.ite_none_right_eq_some] at hi
  exact ⟨i, hi.1, hi.2⟩

section Once

variable {r r' : Description}

/-- A user that enters the room once makes all its descriptions there on one connection. -/
lemma maker_eq (h : ReachableNetwork crates sign network) (honce : EntersOnce network u roomId)
    {w : UserUid} (hr : MadeFor network u v roomId r) (hr' : MadeFor network u w roomId r') :
    r.maker = r'.maker := by
  obtain ⟨i, -, hi⟩ := entry_of_description h hr
  obtain ⟨j, -, hj⟩ := entry_of_description h hr'
  exact (honce r.maker r'.maker i j hr.maker hr'.maker hi hj).1

lemma offer_eq (h : ReachableNetwork crates sign network) (hu : EntersOnce network u roomId)
    (hv : EntersOnce network v roomId) (hr : MadeFor network u v roomId r)
    (hr' : MadeFor network u v roomId r') (hoffer : r.answers = none) (hoffer' : r'.answers = none) :
    r = r' := by
  obtain ⟨peerName, harrival⟩ := arrival_of_offer h hr hoffer
  obtain ⟨peerName', harrival'⟩ := arrival_of_offer h hr' hoffer'
  have hmaker := maker_eq h hu hr hr'
  rw [← hmaker] at harrival'
  have hentry := (heardOnce_of_reachable h hv).once r.maker r.entry r'.entry _ _ harrival harrival'
  exact (madeOnce_of_reachable h).entries r hr.made r' hr'.made hmaker hentry

lemma answer_eq (h : ReachableNetwork crates sign network) (hv : EntersOnce network v roomId)
    {offer : String} (hr : MadeFor network v u roomId r) (hr' : MadeFor network v u roomId r')
    (hanswer : r.answers = some offer) (hanswer' : r'.answers = some offer) : r = r' := by
  have hheard := offer_of_answer h hr hanswer
  have hheard' := offer_of_answer h hr' hanswer'
  have hmaker := maker_eq h hv hr hr'
  rw [← hmaker] at hheard'
  have hentry := index_of_text ((textsOnce_of_reachable h).heard r.maker) hheard hheard' rfl rfl
  exact (madeOnce_of_reachable h).entries r hr.made r' hr'.made hmaker hentry

/-- Of two users that enter the room once, one alone makes offers to the other. -/
lemma offers_one_way (h : ReachableNetwork crates sign network) (hu : EntersOnce network u roomId)
    (hv : EntersOnce network v roomId) (hr : MadeFor network u v roomId r)
    (hr' : MadeFor network v u roomId r') (hoffer : r.answers = none) : r'.answers ≠ none := by
  intro hoffer'
  obtain ⟨peerName, harrival⟩ := arrival_of_offer h hr hoffer
  obtain ⟨peerName', harrival'⟩ := arrival_of_offer h hr' hoffer'
  exact arrivalsOrdered_of_reachable h hu hv r.maker r'.maker peerName peerName' hr.maker hr'.maker
    (List.mem_of_getElem? harrival) (List.mem_of_getElem? harrival')

/-- Between an offer and its answer nothing is heard that disturbs the offer. -/
lemma undisturbed_of_once (h : ReachableNetwork crates sign network)
    (hu : EntersOnce network u roomId) (hv : EntersOnce network v roomId) {c : ConnId} {q : ℕ}
    {offer answer : Description} (huid : network.uid c = some u)
    (hq : (network.system.outbound c)[q]? =
      some (.forwardWebRtcSdp roomId v .answer answer.sdp))
    (hoffer : MadeFor network u v roomId offer) (hnone : offer.answers = none)
    (hanswer : MadeFor network v u roomId answer) (hresponds : answer.answers = some offer.sdp) :
    offer.maker = c ∧ Undisturbed network offer q := by
  have hheard := heardOnce_of_reachable h hv
  obtain ⟨peerName, harrival⟩ := arrival_of_offer h hoffer hnone
  -- the offer and its answer belong to one entry into the room
  obtain ⟨i, hi, hafter⟩ := entry_of_bracketRoom (entry_of_message h hq rfl).symm
  rw [List.getElem?_take, Option.ite_none_right_eq_some] at hi
  obtain ⟨i', hi', hentry⟩ := entry_of_description h hoffer
  obtain ⟨rfl, rfl⟩ := hu offer.maker c i' i hoffer.maker huid hentry hi.2
  have hstays : ∀ j m, i' < j → j < q → (network.system.outbound offer.maker)[j]? = some m →
      ¬ServerMessage.MovesClient m := by
    intro j m hij hjq hm
    apply hafter j m hij
    rw [List.getElem?_take, if_pos hjq, hm]
  refine ⟨rfl, fun k m hk hkq hm hdisturbs => ?_⟩
  have hroom : m.isPeerEvent = true → m.roomId? = some roomId := by
    intro hpeer
    rw [entry_of_message h hm hpeer]
    exact bracketRoom_of_entry hentry (Nat.lt_trans hi' hk)
      (fun j m hij hjk => hstays j m hij (Nat.lt_trans hjk hkq))
  rw [hoffer.peer] at hdisturbs
  cases m with
  | voiceRoomJoined => exact hstays k _ (Nat.lt_trans hi' hk) hkq hm trivial
  | voiceRoomLeft => exact hstays k _ (Nat.lt_trans hi' hk) hkq hm trivial
  | peerJoinedRoom =>
    subst hdisturbs
    obtain rfl := Option.some.inj (hroom rfl)
    exact hk.ne (hheard.once offer.maker _ k _ _ harrival hm)
  | peerLeftRoom =>
    subst hdisturbs
    obtain rfl := Option.some.inj (hroom rfl)
    exact Nat.lt_asymm hkq (hheard.silent offer.maker k q _ hm hq rfl rfl rfl)
  | forwardWebRtcSdp roomId' senderUid sdpType sdp =>
    subst hdisturbs
    obtain rfl := Option.some.inj (hroom rfl)
    have hmem := List.mem_of_getElem? hm
    cases sdpType with
    | offer =>
      obtain ⟨back, hback, htype, -⟩ := madeFor_of_forward h huid hmem
      apply offers_one_way h hu hv hoffer hback hnone
      cases hanswers : back.answers with
      | none => rfl
      | some text => simp [Description.sdpType, hanswers] at htype
    | answer =>
      -- the answer to the only offer, heard before
      obtain ⟨offer', answer', hoffer', hnone', hanswer', hresponds', rfl⟩ := answer_made h huid hmem
      obtain rfl := offer_eq h hu hv hoffer hoffer' hnone hnone'
      obtain rfl := answer_eq h hv hanswer hanswer' hresponds hresponds'
      exact hkq.ne (index_of_text ((textsOnce_of_reachable h).heard _) hm hq rfl rfl)
  | _ => cases hdisturbs

end Once

/-- Whatever is delayed, an answer that a client hears next is for its active room and responds to
an offer that a client of its user has made to the sender there. This offer is the outstanding one
exactly if the client itself has made it and has heard nothing since that disturbs it, so in
particular if the two users have entered the room once only. -/
theorem offer_answer_pairing (h : ReachableNetwork crates sign network) {c : ConnId}
    {client : Client} (hclient : network.clients c = some client)
    (hidentity : client.app.identity = some u) {sdp : String}
    (hnext : (network.system.outbound c)[client.handled]? =
      some (.forwardWebRtcSdp roomId v .answer sdp)) :
    client.app.activeRoomRef = some roomId ∧
      ∃ offer answer, MadeFor network u v roomId offer ∧ offer.answers = none ∧
        MadeFor network v u roomId answer ∧ answer.answers = some offer.sdp ∧ answer.sdp = sdp ∧
        (client.app.peerConnections v = some ⟨some offer.sdp⟩ ↔
          offer.maker = c ∧ Undisturbed network offer client.handled) ∧
        (EntersOnce network u roomId → EntersOnce network v roomId →
          client.app.peerConnections v = some ⟨some offer.sdp⟩) := by
  have huid : network.uid c = some u := (uid_of_client hclient).trans hidentity
  obtain ⟨offer, answer, hoffer, hnone, hanswer, hresponds, rfl⟩ :=
    answer_made h huid (List.mem_of_getElem? hnext)
  have hiff := outstanding_iff h hclient hoffer.made hnone
  rw [hoffer.peer] at hiff
  refine ⟨active_of_next h hclient hnext rfl, offer, answer, hoffer, hnone, hanswer, hresponds, rfl,
    hiff, fun hu hv => ?_⟩
  exact hiff.mpr (undisturbed_of_once h hu hv huid hnext hoffer hnone hanswer hresponds)

/-! ### A rejoin -/

/-- A user has connected before it is known. -/
lemma connect_of_uid {actions : List NetworkAction}
    (h : Execution.exec (Network.step crates sign) Network.start actions = some network) :
    ∀ c u, network.uid c = some u → .connect c u ∈ actions := by
  refine Execution.exec_induction (Network.step crates sign)
    (motive := fun actions network => ∀ c u, network.uid c = some u → .connect c u ∈ actions)
    (fun c u huid => by cases huid) ?_ actions network h
  intro actions network action network' _ ih hstep
  -- a step that keeps the users
  have hkept : network'.uid = network.uid →
      ∀ c u, network'.uid c = some u → .connect c u ∈ actions ++ [action] := by
    intro hsame c u huid
    rw [hsame] at huid
    exact List.mem_append_left _ (ih c u huid)
  cases Network.stepped_of_step hstep with
  | @connect d userUid system accepted =>
    intro c u huid
    by_cases hcd : c = d
    · subst hcd
      have huser : (network.setClient c (Client.connected userUid)).uid c = some userUid :=
        uid_of_client (clients_setClient _)
      have hsame : some userUid = some u := huser.symm.trans huid
      cases hsame
      exact List.mem_append_right _ (List.mem_singleton_self _)
    · simp only [Network.uid, Network.setClient, Function.update_of_ne hcd] at huid
      exact List.mem_append_left _ (ih c u huid)
  | act running spontaneous => exact hkept (uid_setClient (uid_of_client running).symm)
  | deliver running sent received =>
    obtain ⟨happ, -⟩ := outgoing_deliver sent
    exact hkept (uid_setClient (by rw [happ, uid_of_client running]))
  | serve served internal => exact hkept rfl
  | @hear c client heard sdp running next fresh =>
    refine hkept (uid_setClient ?_)
    rw [identity_hear, uid_of_client running]

end Steps

/-- A user with one connection that has entered one room once. -/
lemma entersOnce_of_connection {network : Network} {u : UserUid} {c : ConnId} {roomId : Uuid}
    (hconnection : ∀ d, network.uid d = some u → d = c)
    (hentered : (network.system.outbound c).filterMap Reference.enteredRoom? = [roomId]) :
    EntersOnce network u roomId := by
  intro d e i j hd he hi hj
  obtain rfl := hconnection d hd
  obtain rfl := hconnection e he
  have hnodup : ((network.system.outbound e).filterMap Reference.enteredRoom?).Nodup := by
    rw [hentered]
    exact List.nodup_singleton _
  exact ⟨rfl, index_of_text hnodup hi hj rfl rfl⟩

lemma connects_answered {c : ConnId} {u : UserUid}
    (h : .connect c u ∈ Reference.introduced ++ (Reference.offered ++ Reference.answered)) :
    c = 0 ∧ u = ⟨Reference.first.key⟩ ∨ c = 1 ∧ u = ⟨Reference.second.key⟩ := by
  simpa [Reference.introduced, Reference.offered, Reference.answered, Reference.connect,
    Reference.enter, Reference.arrive, Reference.loginOf] using h

/-- Where both logins have entered the room once, the answer is to the outstanding offer. -/
theorem offer_answer_pairing_answered :
    ∃ network client, ReachableNetwork Reference.crates Reference.sign network ∧
      network.clients 0 = some client ∧
      (network.system.outbound 0)[client.handled]? = some
        (.forwardWebRtcSdp Reference.room ⟨Reference.second.key⟩ .answer "answer") ∧
      ∃ offer answer, MadeFor network ⟨Reference.first.key⟩ ⟨Reference.second.key⟩ Reference.room offer ∧
        MadeFor network ⟨Reference.second.key⟩ ⟨Reference.first.key⟩ Reference.room answer ∧
        answer.answers = some offer.sdp ∧ answer.sdp = "answer" ∧
        client.app.peerConnections ⟨Reference.second.key⟩ = some ⟨some offer.sdp⟩ := by
  obtain ⟨network, hrun, hsituation⟩ := Reference.answered_leaves
  obtain ⟨client, hclient, hsituation⟩ := Option.map_eq_some_iff.mp hsituation
  have hreachable : ReachableNetwork Reference.crates Reference.sign network := ⟨_, hrun⟩
  have hidentity : client.app.identity = some ⟨Reference.first.key⟩ :=
    congrArg Reference.Situation.identity hsituation
  have hnext := congrArg Reference.Situation.next hsituation
  have hentered : [(network.system.outbound 0).filterMap Reference.enteredRoom?,
      (network.system.outbound 1).filterMap Reference.enteredRoom?] =
      [[Reference.room], [Reference.room]] := congrArg Reference.Situation.entered hsituation
  simp only [List.cons.injEq, and_true] at hentered
  have hconnects : ∀ c u, network.uid c = some u →
      c = 0 ∧ u = ⟨Reference.first.key⟩ ∨ c = 1 ∧ u = ⟨Reference.second.key⟩ :=
    fun c u huid => connects_answered (connect_of_uid hrun c u huid)
  have hfirst : EntersOnce network ⟨Reference.first.key⟩ Reference.room := by
    refine entersOnce_of_connection (c := 0) (fun d hd => ?_) ?_
    · rcases hconnects d _ hd with ⟨hd, -⟩ | ⟨-, hsame⟩
      · exact hd
      · exact absurd hsame Reference.members_ne
    · exact hentered.1
  have hsecond : EntersOnce network ⟨Reference.second.key⟩ Reference.room := by
    refine entersOnce_of_connection (c := 1) (fun d hd => ?_) ?_
    · rcases hconnects d _ hd with ⟨-, hsame⟩ | ⟨hd, -⟩
      · exact absurd hsame.symm Reference.members_ne
      · exact hd
    · exact hentered.2
  obtain ⟨-, offer, answer, hoffer, -, hanswer, hresponds, hsdp, -, houtstanding⟩ :=
    offer_answer_pairing hreachable hclient hidentity hnext
  exact ⟨network, client, hreachable, hclient, hnext, offer, answer, hoffer, hanswer, hresponds, hsdp,
    houtstanding hfirst hsecond⟩

/-- Where the second login has entered the room twice, the answer is to the offer of the earlier
connection between the two, and that of the present one is outstanding. -/
theorem answers_earlier_offer :
    ∃ network client, ReachableNetwork Reference.crates Reference.sign network ∧
      network.clients 0 = some client ∧ client.app.identity = some ⟨Reference.first.key⟩ ∧
      client.app.activeRoomRef = some Reference.room ∧
      (network.system.outbound 0)[client.handled]? = some
        (.forwardWebRtcSdp Reference.room ⟨Reference.second.key⟩ .answer "answer") ∧
      ∀ offer ∈ network.made, ∀ answer ∈ network.made, answer.sdp = "answer" →
        answer.answers = some offer.sdp →
        client.app.peerConnections ⟨Reference.second.key⟩ ≠ some ⟨some offer.sdp⟩ := by
  obtain ⟨network, hrun, hsituation⟩ := Reference.rejoined_leaves
  obtain ⟨client, hclient, hsituation⟩ := Option.map_eq_some_iff.mp hsituation
  have hmade : network.made = Reference.rejoinedSituation.made :=
    congrArg Reference.Situation.made hsituation
  have hconnection : client.app.peerConnections ⟨Reference.second.key⟩ =
      some ⟨some "second offer"⟩ := congrArg Reference.Situation.connection hsituation
  refine ⟨network, client, ⟨_, hrun⟩, hclient, congrArg Reference.Situation.identity hsituation,
    congrArg Reference.Situation.activeRoomRef hsituation,
    congrArg Reference.Situation.next hsituation, ?_⟩
  intro offer _ answer hanswer hsdp hresponds hwaits
  have hsecond : offer.sdp = "second offer" := by
    rw [hconnection, Option.some.injEq, PeerConnection.mk.injEq, Option.some.injEq] at hwaits
    exact hwaits.symm
  have hfirst : ∀ r ∈ network.made, r.sdp = "answer" → r.answers = some "offer" := by
    rw [hmade]
    decide
  rw [hfirst answer hanswer hsdp, hsecond] at hresponds
  revert hresponds
  decide

end VTNet.Proofs
