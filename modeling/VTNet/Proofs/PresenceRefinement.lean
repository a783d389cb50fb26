import VTNet.PresenceFunction

/-!
# The registry and its sessions refine the presence function

The registry stores the inverse image of the presence function as a map of nonempty sets, and the
sessions store its values. Every call keeps both in step.
-/

namespace VTNet.Proofs

open RoomRegistry

variable {ι : Type*}

/-- The sessions hold the rooms of their users, and the registry holds the users of each room. -/
structure Represents (initial : ι → Session) (family : Family ι) (presence : Presence) : Prop where
  session : ∀ i, family.sessions i =
    { initial i with activeVoiceRoomId := presence (initial i).userUid }
  occupants_iff : ∀ roomId uid, uid ∈ family.rooms.occupants roomId ↔ presence uid = some roomId

section Calls

variable {initial : ι → Session} {family : Family ι} {presence : Presence}

lemma Represents.userUid (h : Represents initial family presence) (i : ι) :
    (family.sessions i).userUid = (initial i).userUid := by
  rw [h.session i]

lemma Represents.room (h : Represents initial family presence) (i : ι) :
    (family.sessions i).activeVoiceRoomId = presence (initial i).userUid := by
  rw [h.session i]

lemma represents_start (hlobby : ∀ i, (initial i).activeVoiceRoomId = none) :
    Represents initial (Family.start initial) (fun _ => none) := by
  constructor
  · intro i
    have hroom := hlobby i
    cases hi : initial i
    rw [hi] at hroom
    cases hroom
    exact hi
  · intro roomId uid
    simp [Family.start]

/-- A user is among the occupants of a room only if it is the user's room. -/
lemma Represents.absent (h : Represents initial family presence) (i : ι) {roomId : Uuid}
    (hroom : (family.sessions i).activeVoiceRoomId ≠ some roomId) {uid : UserUid}
    (hin : uid ∈ family.rooms.occupants roomId) : uid ≠ (initial i).userUid := by
  rintro rfl
  rw [h.occupants_iff, ← h.room i] at hin
  exact hroom hin

variable [DecidableEq ι]

/-- Moving the session of one user. -/
lemma Represents.moved (h : Represents initial family presence)
    (hdistinct : Function.Injective fun i => (initial i).userUid) (i : ι) (target : Option Uuid)
    {rooms : RoomRegistry}
    (hrooms : ∀ roomId uid, uid ∈ rooms.occupants roomId ↔
      (uid = (initial i).userUid ∧ target = some roomId) ∨
        (uid ≠ (initial i).userUid ∧ uid ∈ family.rooms.occupants roomId)) :
    Represents initial
      ⟨rooms, Function.update family.sessions i
        { family.sessions i with activeVoiceRoomId := target }⟩
      (Function.update presence (initial i).userUid target) := by
  constructor
  · intro j
    dsimp only
    by_cases hji : j = i
    · subst hji
      rw [Function.update_self, Function.update_self, h.session j]
    · have huid : (initial j).userUid ≠ (initial i).userUid := fun he => hji (hdistinct he)
      rw [Function.update_of_ne hji, Function.update_of_ne huid, h.session j]
  · intro roomId uid
    rw [hrooms, h.occupants_iff]
    by_cases huid : uid = (initial i).userUid
    · subst huid
      simp
    · simp [huid]

/-- Taking a user out of its room. -/
lemma Represents.leave (h : Represents initial family presence)
    (hdistinct : Function.Injective fun i => (initial i).userUid) {i : ι} {here : Uuid}
    (hroom : (family.sessions i).activeVoiceRoomId = some here) :
    Represents initial
      ⟨family.rooms.removeMember here (family.sessions i).userUid,
        Function.update family.sessions i { family.sessions i with activeVoiceRoomId := none }⟩
      (Function.update presence (initial i).userUid none) := by
  apply h.moved hdistinct
  intro room uid
  rw [occupants_removeMember, h.userUid i]
  by_cases hr : room = here
  · subst hr
    simp
  · have habsent : uid ∈ family.rooms.occupants room → uid ≠ (initial i).userUid :=
      h.absent i (by rw [hroom]; exact fun he => hr (Option.some.inj he).symm)
    simpa [hr] using habsent

/-- Putting a user of the lobby into a room. -/
lemma Represents.enter (h : Represents initial family presence)
    (hdistinct : Function.Injective fun i => (initial i).userUid) {i : ι}
    (hroom : (family.sessions i).activeVoiceRoomId = none) (roomId : Uuid) :
    Represents initial
      ⟨family.rooms.addMember roomId (family.sessions i).userUid,
        Function.update family.sessions i
          { family.sessions i with activeVoiceRoomId := some roomId }⟩
      (Function.update presence (initial i).userUid (some roomId)) := by
  apply h.moved hdistinct
  intro room uid
  rw [occupants_addMember, h.userUid i]
  have habsent : uid ∈ family.rooms.occupants room → uid ≠ (initial i).userUid :=
    h.absent i (by rw [hroom]; exact (Option.some_ne_none room).symm)
  by_cases hr : room = roomId
  · subst hr
    by_cases hu : uid = (initial i).userUid <;> simp [hu]
  · have hr' : ¬roomId = room := fun he => hr he.symm
    simpa [hr, hr'] using habsent

/-- A switch is a leave and an entry. -/
lemma Represents.switch (h : Represents initial family presence)
    (hdistinct : Function.Injective fun i => (initial i).userUid) {i : ι} {here : Uuid}
    (hroom : (family.sessions i).activeVoiceRoomId = some here) (roomId : Uuid) :
    Represents initial
      ⟨(family.rooms.removeMember here (family.sessions i).userUid).addMember roomId
          (family.sessions i).userUid,
        Function.update family.sessions i
          { family.sessions i with activeVoiceRoomId := some roomId }⟩
      (Function.update presence (initial i).userUid (some roomId)) := by
  have hlobby : (Function.update family.sessions i
      { family.sessions i with activeVoiceRoomId := none } i).activeVoiceRoomId = none := by
    rw [Function.update_self]
  have hentered := (h.leave hdistinct hroom).enter hdistinct hlobby roomId
  simpa only [Function.update_self, Function.update_idem] using hentered

lemma join_represents (h : Represents initial family presence)
    (hdistinct : Function.Injective fun i => (initial i).userUid) (i : ι) (roomId : Uuid)
    (evaluator : PermissionEvaluator) :
    (family.call (.join i roomId evaluator)).1 =
        presence.result (fun i => (initial i).userUid) (.join i roomId evaluator) ∧
      Represents initial (family.call (.join i roomId evaluator)).2
        (presence.next (fun i => (initial i).userUid) (.join i roomId evaluator)) := by
  have huid := h.userUid i
  have hroomi := h.room i
  simp only [Presence.result, Presence.next, RoomCall.caller]
  by_cases hallowed : evaluator.isAllowed (initial i).userUid roomId .join = true
  · simp only [if_pos hallowed]
    rw [← huid] at hallowed
    cases hroom : (family.sessions i).activeVoiceRoomId with
    | none =>
      rw [hroom] at hroomi
      simp only [Family.call, joinVoiceRoom_entered hallowed hroom]
      refine ⟨?_, h.enter hdistinct hroom roomId⟩
      rw [Function.update_self, ← hroomi]
      rfl
    | some here =>
      rw [hroom] at hroomi
      by_cases hsame : here = roomId
      · subst hsame
        simp only [Family.call, joinVoiceRoom_same hallowed hroom]
        constructor
        · rw [Function.update_self, ← hroomi, VoiceRoomTransition.between, if_pos rfl]
        · rw [Function.update_eq_self, hroomi, Function.update_eq_self]
          exact h
      · simp only [Family.call, joinVoiceRoom_switched hallowed hroom hsame]
        refine ⟨?_, h.switch hdistinct hroom roomId⟩
        rw [Function.update_self, ← hroomi, VoiceRoomTransition.between, if_neg hsame]
  · simp only [if_neg hallowed]
    have hdenied : evaluator.isAllowed (family.sessions i).userUid roomId .join = false := by
      rw [huid]
      exact Bool.eq_false_iff.mpr hallowed
    have hcall : family.call (.join i roomId evaluator) = (.error .permissionDenied, family) := by
      simp [Family.call, joinVoiceRoom, hdenied]
    rw [hcall]
    exact ⟨rfl, h⟩

lemma leave_represents (h : Represents initial family presence)
    (hdistinct : Function.Injective fun i => (initial i).userUid) (i : ι) (roomId : Uuid) :
    (family.call (.leave i roomId)).1 =
        presence.result (fun i => (initial i).userUid) (.leave i roomId) ∧
      Represents initial (family.call (.leave i roomId)).2
        (presence.next (fun i => (initial i).userUid) (.leave i roomId)) := by
  have hroomi := h.room i
  simp only [Presence.result, Presence.next, RoomCall.caller]
  by_cases hroom : (family.sessions i).activeVoiceRoomId = some roomId
  · rw [hroom] at hroomi
    simp only [Family.call, leaveVoiceRoom_active hroom, if_pos hroomi.symm]
    refine ⟨?_, h.leave hdistinct hroom⟩
    rw [Function.update_self, ← hroomi]
    rfl
  · have hroom' : ¬presence (initial i).userUid = some roomId := by
      rw [← hroomi]
      exact hroom
    simp only [Family.call, leaveVoiceRoom_stale hroom, if_neg hroom', Function.update_eq_self]
    refine ⟨?_, h⟩
    cases presence (initial i).userUid with
    | none => rfl
    | some here => rw [VoiceRoomTransition.between, if_pos rfl]

/-- Every call returns what the presence function says and does to the registry and the sessions
what it does to the presence function. -/
theorem call_represents (h : Represents initial family presence)
    (hdistinct : Function.Injective fun i => (initial i).userUid) (call : RoomCall ι) :
    (family.call call).1 = presence.result (fun i => (initial i).userUid) call ∧
      Represents initial (family.call call).2
        (presence.next (fun i => (initial i).userUid) call) := by
  cases call with
  | join i roomId evaluator => exact join_represents h hdistinct i roomId evaluator
  | leave i roomId => exact leave_represents h hdistinct i roomId

theorem after_represents {initial : ι → Session}
    (hdistinct : Function.Injective fun i => (initial i).userUid)
    (hlobby : ∀ i, (initial i).activeVoiceRoomId = none) (calls : List (RoomCall ι)) :
    Represents initial ((Family.start initial).after calls)
      (Presence.after (fun i => (initial i).userUid) calls) := by
  induction calls using List.reverseRecOn with
  | nil => exact represents_start hlobby
  | append_singleton calls call ih =>
    rw [Family.after_concat, Presence.after_concat]
    exact (call_represents ih hdistinct call).2

end Calls

/-- A user whom a call brings into a room made a permitted join of it. -/
lemma joined_of_next {uidOf : ι → UserUid} {presence : Presence} {call : RoomCall ι} {uid : UserUid}
    {roomId : Uuid} (h : presence.next uidOf call uid = some roomId)
    (hbefore : presence uid ≠ some roomId) :
    ∃ i evaluator, call = .join i roomId evaluator ∧ uidOf i = uid ∧
      evaluator.isAllowed uid roomId .join = true := by
  cases call with
  | join i room evaluator =>
    simp only [Presence.next] at h
    split at h
    · rename_i hallowed
      by_cases huid : uid = uidOf i
      · subst huid
        rw [Function.update_self] at h
        cases h
        exact ⟨i, evaluator, rfl, rfl, hallowed⟩
      · rw [Function.update_of_ne huid] at h
        exact absurd h hbefore
    · exact absurd h hbefore
  | leave i room =>
    simp only [Presence.next] at h
    split at h
    · by_cases huid : uid = uidOf i
      · subst huid
        rw [Function.update_self] at h
        cases h
      · rw [Function.update_of_ne huid] at h
        exact absurd h hbefore
    · exact absurd h hbefore

/-- A user is in a room only since a permitted join of that room. -/
lemma present_since (uidOf : ι → UserUid) {roomId : Uuid} {uid : UserUid} :
    ∀ calls : List (RoomCall ι), Presence.after uidOf calls uid = some roomId →
      ∃ before i evaluator after, calls = before ++ .join i roomId evaluator :: after ∧
        uidOf i = uid ∧ evaluator.isAllowed uid roomId .join = true ∧
        ∀ since, since <+: after →
          Presence.after uidOf (before ++ .join i roomId evaluator :: since) uid = some roomId := by
  intro calls
  induction calls using List.reverseRecOn with
  | nil =>
    intro h
    cases h
  | append_singleton calls call ih =>
    intro h
    by_cases hbefore : Presence.after uidOf calls uid = some roomId
    · obtain ⟨before, i, evaluator, after, hcalls, huid, hallowed, hsince⟩ := ih hbefore
      have hall : calls ++ [call] = before ++ .join i roomId evaluator :: (after ++ [call]) := by
        rw [hcalls, List.append_assoc, List.cons_append]
      refine ⟨before, i, evaluator, after ++ [call], hall, huid, hallowed, ?_⟩
      intro since hinitial
      rcases List.prefix_concat_iff.mp hinitial with rfl | hinitial
      · rwa [← hall]
      · exact hsince since hinitial
    · have hnext := h
      rw [Presence.after_concat] at hnext
      obtain ⟨i, evaluator, rfl, huid, hallowed⟩ := joined_of_next hnext hbefore
      refine ⟨calls, i, evaluator, [], rfl, huid, hallowed, ?_⟩
      intro since hinitial
      rwa [List.prefix_nil.mp hinitial]

/-- After any calls the sessions hold the presence function, the registry holds its inverse image,
the next call returns what changes in it, and a user is in a room only since it was let in. -/
theorem registry_refines_presence [DecidableEq ι] (initial : ι → Session)
    (hdistinct : Function.Injective fun i => (initial i).userUid)
    (hlobby : ∀ i, (initial i).activeVoiceRoomId = none) (calls : List (RoomCall ι)) :
    let uidOf := fun i => (initial i).userUid
    let family := (Family.start initial).after calls
    let presence := Presence.after uidOf calls
    (∀ i, (family.sessions i).activeVoiceRoomId = presence (uidOf i)) ∧
      (∀ i, (family.sessions i).userUid = uidOf i ∧
        (family.sessions i).displayName = (initial i).displayName) ∧
      (∀ roomId, family.rooms.members roomId = none ↔ ∀ uid, presence uid ≠ some roomId) ∧
      (∀ roomId members, family.rooms.members roomId = some members →
        ∀ uid, uid ∈ members ↔ presence uid = some roomId) ∧
      (∀ call, (family.call call).1 = presence.result uidOf call) ∧
      ∀ roomId members uid, family.rooms.members roomId = some members → uid ∈ members →
        ∃ before i evaluator after, calls = before ++ .join i roomId evaluator :: after ∧
          uidOf i = uid ∧ evaluator.isAllowed uid roomId .join = true ∧
          ∀ since, since <+: after →
            Presence.after uidOf (before ++ .join i roomId evaluator :: since) uid = some roomId := by
  intro uidOf family presence
  have hrep : Represents initial family presence := after_represents hdistinct hlobby calls
  have hmembers : ∀ roomId members, family.rooms.members roomId = some members →
      ∀ uid, uid ∈ members ↔ presence uid = some roomId := by
    intro roomId members hroom uid
    rw [← hrep.occupants_iff, occupants, hroom, Option.getD_some]
  refine ⟨hrep.room, ?_, ?_, hmembers, ?_, ?_⟩
  · intro i
    rw [hrep.session i]
    exact ⟨rfl, rfl⟩
  · intro roomId
    constructor
    · intro hroom uid huid
      rw [← hrep.occupants_iff, occupants, hroom] at huid
      cases huid
    · intro hnobody
      cases hroom : family.rooms.members roomId with
      | none => rfl
      | some members =>
        obtain ⟨uid, huid⟩ := family.rooms.occupied roomId members hroom
        exact absurd ((hmembers roomId members hroom uid).mp huid) (hnobody uid)
  · exact fun call => (call_represents hrep hdistinct call).1
  · intro roomId members uid hroom huid
    exact present_since uidOf calls ((hmembers roomId members hroom uid).mp huid)

/-! ### Guests -/

/-- Every user is a guest. -/
def guests (uid : UserUid) : Session := Session.new uid "guest"

def guest : UserUid := ⟨Bytes.Fixed.replicate 32 1⟩

def otherGuest : UserUid := ⟨Bytes.Fixed.replicate 32 2⟩

def everyone : PermissionEvaluator := ⟨fun _ _ => 1, fun _ _ => 0⟩

def nobody : PermissionEvaluator := ⟨fun _ _ => 0, fun _ _ => 1⟩

def hall : Uuid := ⟨Bytes.Fixed.replicate 16 1⟩

def cellar : Uuid := ⟨Bytes.Fixed.replicate 16 2⟩

/-- Two guests enter the hall, one of them is not let into the cellar and the other one leaves. -/
def party : List (RoomCall UserUid) :=
  [.join guest hall everyone, .join otherGuest hall everyone, .join otherGuest cellar nobody,
    .leave guest hall]

theorem registry_refines_presence_party :
    let family := (Family.start guests).after party
    (family.sessions guest).activeVoiceRoomId = none ∧
      (family.sessions otherGuest).activeVoiceRoomId = some hall := by
  obtain ⟨hrooms, -⟩ := registry_refines_presence guests (fun _ _ h => h) (fun _ => rfl) party
  exact ⟨(hrooms guest).trans (by decide), (hrooms otherGuest).trans (by decide)⟩

end VTNet.Proofs
