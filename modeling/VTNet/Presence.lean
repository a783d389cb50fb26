import VTNet.Server

/-!
# What the server is for

The abstract server knows nothing but the sessions of its connections. Its steps are events,
an event moves the sessions and is heard by the connections it concerns. Rooms,
recipients and the map of connections are not state here: they are read off the sessions.
-/

namespace VTNet

abbrev Roster := ConnId → Option Session

namespace ServerMessage

/-- The messages the server forwards for a user. -/
def isPost : ServerMessage → Bool
  | .broadcastTextMessage .. => true
  | .forwardWebRtcSdp .. => true
  | .forwardWebRtcIce .. => true
  | _ => false

/-- The messages about another member of the room. -/
def isPeerEvent : ServerMessage → Bool
  | .peerJoinedRoom .. => true
  | .peerLeftRoom .. => true
  | m => m.isPost

lemma isPeerEvent_of_isPost {m : ServerMessage} (h : m.isPost = true) : m.isPeerEvent = true := by
  cases m <;> first | rfl | cases h

def senderUid? : ServerMessage → Option UserUid
  | .broadcastTextMessage _ senderUid _ _ _ => some senderUid
  | .forwardWebRtcSdp _ senderUid _ _ => some senderUid
  | .forwardWebRtcIce _ senderUid _ => some senderUid
  | _ => none

def roomId? : ServerMessage → Option Uuid
  | .voiceRoomJoined roomId => some roomId
  | .voiceRoomLeft roomId => some roomId
  | .peerJoinedRoom roomId _ _ => some roomId
  | .peerLeftRoom roomId _ => some roomId
  | .broadcastTextMessage roomId _ _ _ _ => some roomId
  | .forwardWebRtcSdp roomId _ _ _ => some roomId
  | .forwardWebRtcIce roomId _ _ => some roomId
  | _ => none

/-- The user a presence event or a chat text is about. -/
def subjectUid? : ServerMessage → Option UserUid
  | .peerJoinedRoom _ peerUid _ => some peerUid
  | .peerLeftRoom _ peerUid => some peerUid
  | .broadcastTextMessage _ senderUid _ _ _ => some senderUid
  | _ => none

end ServerMessage

namespace Roster

def room (roster : Roster) (c : ConnId) : Option Uuid :=
  (roster c).bind (·.activeVoiceRoomId)

def uid (roster : Roster) (c : ConnId) : Option UserUid := (roster c).map (·.userUid)

/-- One connection for each identity. -/
def Distinct (roster : Roster) : Prop :=
  ∀ c d s t, roster c = some s → roster d = some t → s.userUid = t.userUid → c = d

/-- Some session of `userUid` is active in the room. -/
def Present (roster : Roster) (roomId : Uuid) (userUid : UserUid) : Prop :=
  ∃ c s, roster c = some s ∧ s.userUid = userUid ∧ s.activeVoiceRoomId = some roomId

def moveTo (roster : Roster) (c : ConnId) (roomId : Option Uuid) : Roster :=
  Function.update roster c ((roster c).map fun s => { s with activeVoiceRoomId := roomId })

variable {roster : Roster} {c : ConnId} {s : Session}

lemma room_of_some (hs : roster c = some s) : roster.room c = s.activeVoiceRoomId := by
  simp [room, hs]

lemma uid_of_some (hs : roster c = some s) : roster.uid c = some s.userUid := by
  simp [uid, hs]

lemma room_eq_some {roomId : Uuid} :
    roster.room c = some roomId ↔ ∃ s, roster c = some s ∧ s.activeVoiceRoomId = some roomId :=
  Option.bind_eq_some_iff

/-- A connected user is in a room exactly when its session says so. -/
lemma Distinct.present_iff (h : roster.Distinct) (hs : roster c = some s) {roomId : Uuid} :
    roster.Present roomId s.userUid ↔ s.activeVoiceRoomId = some roomId := by
  constructor
  · rintro ⟨d, t, ht, huid, hroom⟩
    have hdc := h d c t s ht hs huid
    subst hdc
    rw [ht] at hs
    cases hs
    exact hroom
  · exact fun hroom => ⟨c, s, hs, rfl, hroom⟩

/-- Who is in a room after the session of one connection has been replaced or removed. -/
lemma Distinct.present_update (h : roster.Distinct) (hs : roster c = some s) {s' : Option Session}
    (huid : ∀ t, s' = some t → t.userUid = s.userUid) {roomId : Uuid} {userUid : UserUid} :
    Present (Function.update roster c s') roomId userUid ↔
      (userUid = s.userUid ∧ ∃ t, s' = some t ∧ t.activeVoiceRoomId = some roomId) ∨
        (userUid ≠ s.userUid ∧ roster.Present roomId userUid) := by
  constructor
  · rintro ⟨d, t, ht, htuid, hroom⟩
    by_cases hdc : d = c
    · subst hdc
      rw [Function.update_self] at ht
      exact Or.inl ⟨htuid.symm.trans (huid t ht), t, ht, hroom⟩
    · rw [Function.update_of_ne hdc] at ht
      refine Or.inr ⟨?_, d, t, ht, htuid, hroom⟩
      exact fun he => hdc (h d c t s ht hs (htuid.trans he))
  · rintro (⟨rfl, t, ht, hroom⟩ | ⟨hne, d, t, ht, htuid, hroom⟩)
    · exact ⟨c, t, by rw [Function.update_self, ht], huid t ht, hroom⟩
    · have hdc : d ≠ c := by
        rintro rfl
        rw [hs] at ht
        cases ht
        exact hne htuid.symm
      exact ⟨d, t, by rwa [Function.update_of_ne hdc], htuid, hroom⟩

/-- A new connection whose session is in no room changes no room. -/
lemma present_login (hc : roster c = none) (hroom : s.activeVoiceRoomId = none) {roomId : Uuid}
    {userUid : UserUid} : Present (Function.update roster c (some s)) roomId userUid ↔
      roster.Present roomId userUid := by
  constructor
  · rintro ⟨d, t, ht, htuid, htroom⟩
    have hdc : d ≠ c := by
      rintro rfl
      rw [Function.update_self] at ht
      cases ht
      rw [hroom] at htroom
      cases htroom
    rw [Function.update_of_ne hdc] at ht
    exact ⟨d, t, ht, htuid, htroom⟩
  · rintro ⟨d, t, ht, htuid, htroom⟩
    have hdc : d ≠ c := by
      rintro rfl
      rw [hc] at ht
      cases ht
    exact ⟨d, t, by rwa [Function.update_of_ne hdc], htuid, htroom⟩

lemma moveTo_of_some (hs : roster c = some s) (roomId : Option Uuid) :
    roster.moveTo c roomId =
      Function.update roster c (some { s with activeVoiceRoomId := roomId }) := by
  simp [moveTo, hs]

lemma moveTo_of_none (hc : roster c = none) (roomId : Option Uuid) :
    roster.moveTo c roomId = roster := by
  rw [moveTo, hc, Option.map_none, ← hc, Function.update_eq_self]

lemma update_same (hs : roster c = some s) : Function.update roster c (some s) = roster := by
  rw [← hs, Function.update_eq_self]

end Roster

/-- A message forwarded for a user, with the connections it is meant for. -/
structure Post where
  sender : ConnId
  message : ServerMessage
  audience : ConnId → Bool

/-- The post that a frame of the connection `c` with session `s` amounts to: none when the
frame is not for the room the session is in. -/
def Roster.post (roster : Roster) (c : ConnId) (s : Session) (message : ClientMessage)
    (serverTimestamp : UInt64) : Option Post :=
  match message with
  | .sendTextMessage roomId textContent =>
    if s.activeVoiceRoomId = some roomId then
      some ⟨c, .broadcastTextMessage roomId s.userUid s.displayName textContent serverTimestamp,
        fun d => d ≠ c ∧ roster.room d = some roomId⟩
    else none
  | .sendWebRtcSdp roomId targetUid sdpType sdpRaw =>
    if s.activeVoiceRoomId = some roomId then
      some ⟨c, .forwardWebRtcSdp roomId s.userUid sdpType sdpRaw,
        fun d => roster.uid d = some targetUid ∧ roster.room d = some roomId⟩
    else none
  | .sendWebRtcIce roomId targetUid candidate =>
    if s.activeVoiceRoomId = some roomId then
      some ⟨c, .forwardWebRtcIce roomId s.userUid candidate,
        fun d => roster.uid d = some targetUid ∧ roster.room d = some roomId⟩
    else none
  | _ => none

lemma Roster.post_isPost {roster : Roster} {c : ConnId} {s : Session} {message : ClientMessage}
    {serverTimestamp : UInt64} {post : Post} (h : roster.post c s message serverTimestamp = some post) :
    post.message.isPost = true := by
  cases message with
  | sendTextMessage roomId textContent =>
    simp only [Roster.post, Option.ite_none_right_eq_some] at h
    obtain ⟨-, h⟩ := h
    cases h
    rfl
  | sendWebRtcSdp roomId targetUid sdpType sdpRaw =>
    simp only [Roster.post, Option.ite_none_right_eq_some] at h
    obtain ⟨-, h⟩ := h
    cases h
    rfl
  | sendWebRtcIce roomId targetUid candidate =>
    simp only [Roster.post, Option.ite_none_right_eq_some] at h
    obtain ⟨-, h⟩ := h
    cases h
    rfl
  | _ => cases h

def Post.heardBy (post : Post) (d : ConnId) : List ServerMessage :=
  if post.audience d then [post.message] else []

inductive Event
  | silent
  /-- The task of `c` sends to its own channel. -/
  | own (c : ConnId) (message : ServerMessage)
  | login (c : ConnId) (session : Session)
  | join (c : ConnId) (roomId : Uuid)
  | leave (c : ConnId) (roomId : Uuid)
  | say (c : ConnId) (message : ClientMessage) (serverTimestamp : UInt64)
  | logout (c : ConnId)

namespace Event

/-- The sessions after the event. -/
def next (roster : Roster) : Event → Roster
  | .silent | .own _ _ | .say _ _ _ => roster
  | .login c session => Function.update roster c (some session)
  | .join c roomId => roster.moveTo c (some roomId)
  | .leave c roomId => if roster.room c = some roomId then roster.moveTo c none else roster
  | .logout c => Function.update roster c none

/-- What the connection `d` hears of the event. -/
def heard (roster : Roster) (d : ConnId) : Event → List ServerMessage
  | .silent | .login _ _ => []
  | .own c message => if d = c then [message] else []
  | .join c roomId =>
    match roster c with
    | none => []
    | some s =>
      if s.activeVoiceRoomId = some roomId then []
      else if d = c then [.voiceRoomJoined roomId]
      else
        match roster.room d with
        | none => []
        | some here =>
          if s.activeVoiceRoomId = some here then [.peerLeftRoom here s.userUid]
          else if here = roomId then [.peerJoinedRoom roomId s.userUid s.displayName]
          else []
  | .leave c roomId =>
    match roster c with
    | none => []
    | some s =>
      if s.activeVoiceRoomId ≠ some roomId then []
      else if d = c then [.voiceRoomLeft roomId]
      else if roster.room d = some roomId then [.peerLeftRoom roomId s.userUid]
      else []
  | .say c message serverTimestamp =>
    match roster c with
    | none => []
    | some s =>
      match roster.post c s message serverTimestamp with
      | none => []
      | some post => post.heardBy d
  | .logout c =>
    match roster c with
    | none => []
    | some s =>
      match s.activeVoiceRoomId with
      | none => []
      | some roomId =>
        if d ≠ c ∧ roster.room d = some roomId then [.peerLeftRoom roomId s.userUid] else []

section Heard

variable {roster : Roster} {c : ConnId} {s : Session}

lemma heard_text (hs : roster c = some s) (roomId : Uuid) (textContent : RoomTextContent)
    (serverTimestamp : UInt64) (d : ConnId) :
    (say c (.sendTextMessage roomId textContent) serverTimestamp).heard roster d =
      if s.activeVoiceRoomId = some roomId ∧ d ≠ c ∧ roster.room d = some roomId then
        [.broadcastTextMessage roomId s.userUid s.displayName textContent serverTimestamp]
      else [] := by
  by_cases hroom : s.activeVoiceRoomId = some roomId <;>
    simp [heard, hs, Roster.post, hroom, Post.heardBy]

lemma heard_sdp (hs : roster c = some s) (roomId : Uuid) (targetUid : UserUid) (sdpType : SdpType)
    (sdpRaw : String) (serverTimestamp : UInt64) (d : ConnId) :
    (say c (.sendWebRtcSdp roomId targetUid sdpType sdpRaw) serverTimestamp).heard roster d =
      if s.activeVoiceRoomId = some roomId ∧ roster.uid d = some targetUid ∧
        roster.room d = some roomId then [.forwardWebRtcSdp roomId s.userUid sdpType sdpRaw]
      else [] := by
  by_cases hroom : s.activeVoiceRoomId = some roomId <;>
    simp [heard, hs, Roster.post, hroom, Post.heardBy]

lemma heard_ice (hs : roster c = some s) (roomId : Uuid) (targetUid : UserUid)
    (candidate : SerdeValue) (serverTimestamp : UInt64) (d : ConnId) :
    (say c (.sendWebRtcIce roomId targetUid candidate) serverTimestamp).heard roster d =
      if s.activeVoiceRoomId = some roomId ∧ roster.uid d = some targetUid ∧
        roster.room d = some roomId then [.forwardWebRtcIce roomId s.userUid candidate]
      else [] := by
  by_cases hroom : s.activeVoiceRoomId = some roomId <;>
    simp [heard, hs, Roster.post, hroom, Post.heardBy]

end Heard

/-- What the server promises of the events that do not come from a user in a room. -/
def Valid (roster : Roster) : Event → Prop
  | .own c message => (roster c = none ∧ message.IsPrelude) ∨
      ∃ s assignedName serverName, roster c = some s ∧ s.activeVoiceRoomId = none ∧
        message = .authSuccess s.userUid assignedName serverName
  | .login c session => roster c = none ∧ session.activeVoiceRoomId = none ∧
      ∀ d t, roster d = some t → t.userUid ≠ session.userUid
  | _ => True

end Event

/-! ### The abstraction of the running server -/

/-- The event that the section of an authenticated message is. -/
def messageEvent (c : ConnId) (message : ClientMessage) (serverTimestamp : UInt64) : Event :=
  match message with
  | .joinVoiceRoom roomId => .join c roomId
  | .leaveVoiceRoom roomId => .leave c roomId
  | message => .say c message serverTimestamp

namespace System

def roster (system : System) : Roster := fun c => (system.tasks c).bind SocketTask.session

/-- The task of `c` is registered, has not cleaned up yet and has the session `s`. -/
def Registered (system : System) (c : ConnId) (s : Session) : Prop :=
  ∃ task, system.tasks c = some task ∧ task.isRegistered = true ∧ task.phase ≠ .closed ∧
    task.session = some s

/-- The event that an action amounts to in the state it is taken in. -/
def event (system : System) : Action → Event
  | .accept _ => .silent
  | .receive _ _ _ _ _ => .silent
  | .handle c =>
    match (system.tasks c).map SocketTask.phase with
    | some (.handling message serverTimestamp) => messageEvent c message serverTimestamp
    | _ => .silent
  | .register c =>
    match (system.tasks c).map SocketTask.phase with
    | some (.registering session _) =>
      if (system.state.connections session.userUid).isSome then
        .own c (.authFailure .invalidCredentials)
      else .login c session
    | _ => .silent
  | .reply c =>
    match (system.tasks c).map SocketTask.phase with
    | some (.replying serverMessage) => .own c serverMessage
    | _ => .silent
  | .disconnect c => .logout c

/-- The post made in a locked section, for the sessions that stand when it runs. -/
def posts (system : System) : Action → List Post
  | .handle c =>
    match (system.tasks c).map SocketTask.phase, system.roster c with
    | some (.handling message serverTimestamp), some session =>
      (system.roster.post c session message serverTimestamp).toList
    | _, _ => []
  | _ => []

end System

end VTNet
