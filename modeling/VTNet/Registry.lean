import VTNet.Shared
import Mathlib.Data.Finset.Basic
import Mathlib.Data.Finset.Insert
import Mathlib.Logic.Function.Basic

/-!
# Sessions and the room registry (`server/src/lib.rs`)

A `HashMap` is the function that looks a key up in it and a `HashSet` is a `Finset`, so two
registries with the same content are equal.
-/

namespace VTNet

structure Session where
  userUid : UserUid
  displayName : String
  activeVoiceRoomId : Option Uuid
  deriving DecidableEq

def Session.new (userUid : UserUid) (displayName : String) : Session :=
  ⟨userUid, displayName, none⟩

/-- Tracks active members in each room. Empty rooms have no registry entry. -/
structure RoomRegistry where
  membersByRoom : Uuid → Option (Finset UserUid)
  occupied : ∀ roomId members, membersByRoom roomId = some members → members.Nonempty

inductive VoiceRoomTransition
  | noChange
  | joined (roomId : Uuid)
  | switched (fromRoomId toRoomId : Uuid)
  | left (roomId : Uuid)
  deriving DecidableEq

inductive RoomAction
  | join
  | speak
  | write
  | signal
  | manageRoom
  deriving DecidableEq

structure PermissionEvaluator where
  effectivePower : UserUid → RoomAction → UInt16
  requiredPower : Uuid → RoomAction → UInt16

def PermissionEvaluator.isAllowed (evaluator : PermissionEvaluator) (userUid : UserUid)
    (roomId : Uuid) (action : RoomAction) : Bool :=
  evaluator.requiredPower roomId action ≤ evaluator.effectivePower userUid action

inductive RoomJoinError
  | permissionDenied

structure RoutedServerMessage where
  recipients : Finset UserUid
  message : ServerMessage

inductive RoomRoutingError
  | permissionDenied (action : RoomAction)
  | senderNotInActiveVoiceRoom
  | targetNotInActiveVoiceRoom
  | unsupportedClientMessage
  deriving DecidableEq

namespace RoomRegistry

def default : RoomRegistry := ⟨fun _ => none, fun _ _ h => by cases h⟩

def members (rooms : RoomRegistry) (roomId : Uuid) : Option (Finset UserUid) :=
  rooms.membersByRoom roomId

/-- `members(room_id).into_iter().flatten()` -/
def occupants (rooms : RoomRegistry) (roomId : Uuid) : Finset UserUid :=
  (rooms.members roomId).getD ∅

def addMember (rooms : RoomRegistry) (roomId : Uuid) (userUid : UserUid) : RoomRegistry where
  membersByRoom := Function.update rooms.membersByRoom roomId
    (some (insert userUid ((rooms.membersByRoom roomId).getD ∅)))
  occupied := by
    intro room members h
    by_cases hroom : room = roomId
    · subst hroom
      rw [Function.update_self, Option.some.injEq] at h
      rw [← h]
      exact Finset.insert_nonempty _ _
    · rw [Function.update_of_ne hroom] at h
      exact rooms.occupied room members h

def removeMember (rooms : RoomRegistry) (roomId : Uuid) (userUid : UserUid) : RoomRegistry where
  membersByRoom := Function.update rooms.membersByRoom roomId
    ((rooms.membersByRoom roomId).bind fun members =>
      if members.erase userUid = ∅ then none else some (members.erase userUid))
  occupied := by
    intro room members h
    by_cases hroom : room = roomId
    · subst hroom
      rw [Function.update_self] at h
      obtain ⟨before, -, hrest⟩ := Option.bind_eq_some_iff.mp h
      split at hrest
      · cases hrest
      · rename_i hne
        cases hrest
        exact Finset.nonempty_iff_ne_empty.mpr hne
    · rw [Function.update_of_ne hroom] at h
      exact rooms.occupied room members h

/-- The transition, with the registry and the session it leaves behind. A refused join
changes neither. -/
def joinVoiceRoom (rooms : RoomRegistry) (session : Session) (roomId : Uuid)
    (evaluator : PermissionEvaluator) :
    Except RoomJoinError (VoiceRoomTransition × RoomRegistry × Session) :=
  if ¬evaluator.isAllowed session.userUid roomId .join then .error .permissionDenied
  else
    match session.activeVoiceRoomId with
    | some previousRoomId =>
      if previousRoomId = roomId then .ok (.noChange, rooms, session)
      else .ok (.switched previousRoomId roomId,
        (rooms.removeMember previousRoomId session.userUid).addMember roomId session.userUid,
        { session with activeVoiceRoomId := some roomId })
    | none => .ok (.joined roomId, rooms.addMember roomId session.userUid,
        { session with activeVoiceRoomId := some roomId })

def leaveVoiceRoom (rooms : RoomRegistry) (session : Session) (roomId : Uuid) :
    VoiceRoomTransition × RoomRegistry × Session :=
  if session.activeVoiceRoomId ≠ some roomId then (.noChange, rooms, session)
  else (.left roomId, rooms.removeMember roomId session.userUid,
    { session with activeVoiceRoomId := none })

def containsMember (rooms : RoomRegistry) (roomId : Uuid) (userUid : UserUid) : Bool :=
  (rooms.members roomId).any (fun members => userUid ∈ members)

def ensureActiveMember (rooms : RoomRegistry) (session : Session) (roomId : Uuid) :
    Except RoomRoutingError Unit :=
  if session.activeVoiceRoomId = some roomId ∧ rooms.containsMember roomId session.userUid then
    .ok ()
  else .error .senderNotInActiveVoiceRoom

def ensureTargetMember (rooms : RoomRegistry) (roomId : Uuid) (targetUid : UserUid) :
    Except RoomRoutingError Unit :=
  if rooms.containsMember roomId targetUid then .ok () else .error .targetNotInActiveVoiceRoom

def ensurePermission (evaluator : PermissionEvaluator) (userUid : UserUid) (roomId : Uuid)
    (action : RoomAction) : Except RoomRoutingError Unit :=
  if evaluator.isAllowed userUid roomId action then .ok () else .error (.permissionDenied action)

def otherMembers (rooms : RoomRegistry) (roomId : Uuid) (userUid : UserUid) : Finset UserUid :=
  (rooms.occupants roomId).filter (· ≠ userUid)

def routeClientRoomMessage (rooms : RoomRegistry) (session : Session) (message : ClientMessage)
    (serverTimestamp : UInt64) (evaluator : PermissionEvaluator) :
    Except RoomRoutingError RoutedServerMessage :=
  match message with
  | .sendTextMessage roomId textContent => do
    rooms.ensureActiveMember session roomId
    ensurePermission evaluator session.userUid roomId .write
    return ⟨rooms.otherMembers roomId session.userUid,
      .broadcastTextMessage roomId session.userUid session.displayName textContent
        serverTimestamp⟩
  | .sendWebRtcSdp roomId targetUid sdpType sdpRaw => do
    rooms.ensureActiveMember session roomId
    ensurePermission evaluator session.userUid roomId .signal
    rooms.ensureTargetMember roomId targetUid
    return ⟨{targetUid}, .forwardWebRtcSdp roomId session.userUid sdpType sdpRaw⟩
  | .sendWebRtcIce roomId targetUid candidate => do
    rooms.ensureActiveMember session roomId
    ensurePermission evaluator session.userUid roomId .signal
    rooms.ensureTargetMember roomId targetUid
    return ⟨{targetUid}, .forwardWebRtcIce roomId session.userUid candidate⟩
  | _ => .error .unsupportedClientMessage

section Transitions

variable {rooms : RoomRegistry} {session : Session} {roomId : Uuid} {evaluator : PermissionEvaluator}

lemma joinVoiceRoom_entered
    (hallowed : evaluator.isAllowed session.userUid roomId .join = true)
    (hroom : session.activeVoiceRoomId = none) :
    rooms.joinVoiceRoom session roomId evaluator = .ok (.joined roomId,
      rooms.addMember roomId session.userUid, { session with activeVoiceRoomId := some roomId }) := by
  simp [joinVoiceRoom, hallowed, hroom]

lemma joinVoiceRoom_same
    (hallowed : evaluator.isAllowed session.userUid roomId .join = true)
    (hroom : session.activeVoiceRoomId = some roomId) :
    rooms.joinVoiceRoom session roomId evaluator = .ok (.noChange, rooms, session) := by
  simp [joinVoiceRoom, hallowed, hroom]

lemma joinVoiceRoom_switched
    (hallowed : evaluator.isAllowed session.userUid roomId .join = true)
    {previousRoomId : Uuid} (hroom : session.activeVoiceRoomId = some previousRoomId)
    (hne : previousRoomId ≠ roomId) :
    rooms.joinVoiceRoom session roomId evaluator = .ok (.switched previousRoomId roomId,
      (rooms.removeMember previousRoomId session.userUid).addMember roomId session.userUid,
      { session with activeVoiceRoomId := some roomId }) := by
  simp [joinVoiceRoom, hallowed, hroom, hne]

lemma leaveVoiceRoom_active (hroom : session.activeVoiceRoomId = some roomId) :
    rooms.leaveVoiceRoom session roomId = (.left roomId, rooms.removeMember roomId session.userUid,
      { session with activeVoiceRoomId := none }) := by
  simp [leaveVoiceRoom, hroom]

lemma leaveVoiceRoom_stale (hroom : session.activeVoiceRoomId ≠ some roomId) :
    rooms.leaveVoiceRoom session roomId = (.noChange, rooms, session) := by
  simp [leaveVoiceRoom, hroom]

end Transitions

/-! ### What the operations do to the occupants of a room -/

lemma mem_occupants {rooms : RoomRegistry} {roomId : Uuid} {uid : UserUid} :
    uid ∈ rooms.occupants roomId ↔ ∃ members, rooms.members roomId = some members ∧ uid ∈ members := by
  unfold occupants
  cases rooms.members roomId <;> simp

lemma containsMember_iff {rooms : RoomRegistry} {roomId : Uuid} {uid : UserUid} :
    rooms.containsMember roomId uid = true ↔ uid ∈ rooms.occupants roomId := by
  rw [mem_occupants]
  unfold containsMember
  cases rooms.members roomId <;> simp

@[simp] lemma occupants_default (roomId : Uuid) : default.occupants roomId = ∅ := rfl

lemma occupants_addMember (rooms : RoomRegistry) (roomId : Uuid) (uid : UserUid) (room : Uuid) :
    (rooms.addMember roomId uid).occupants room =
      if room = roomId then insert uid (rooms.occupants room) else rooms.occupants room := by
  unfold occupants members addMember
  by_cases hroom : room = roomId
  · subst hroom
    simp
  · simp [hroom]

lemma occupants_removeMember (rooms : RoomRegistry) (roomId : Uuid) (uid : UserUid) (room : Uuid) :
    (rooms.removeMember roomId uid).occupants room =
      if room = roomId then (rooms.occupants room).erase uid else rooms.occupants room := by
  unfold occupants members removeMember
  by_cases hroom : room = roomId
  · subst hroom
    simp only [Function.update_self, if_true]
    cases rooms.membersByRoom room with
    | none => simp
    | some before =>
      by_cases hempty : before.erase uid = ∅ <;> simp [hempty]
  · simp [hroom]

/-- A registry is determined by the occupants of its rooms, since an empty room has no entry. -/
lemma ext_occupants {rooms rooms' : RoomRegistry}
    (h : ∀ roomId, rooms.occupants roomId = rooms'.occupants roomId) : rooms = rooms' := by
  have hmembers : rooms.membersByRoom = rooms'.membersByRoom := by
    funext roomId
    have hroom := h roomId
    unfold occupants members at hroom
    cases hleft : rooms.membersByRoom roomId with
    | none =>
      cases hright : rooms'.membersByRoom roomId with
      | none => rfl
      | some right =>
        rw [hleft, hright] at hroom
        exact absurd hroom.symm (rooms'.occupied roomId right hright).ne_empty
    | some left =>
      cases hright : rooms'.membersByRoom roomId with
      | none =>
        rw [hleft, hright] at hroom
        exact absurd hroom (rooms.occupied roomId left hleft).ne_empty
      | some right =>
        rw [hleft, hright] at hroom
        exact congrArg some hroom
  cases rooms
  cases rooms'
  cases hmembers
  rfl

end RoomRegistry

end VTNet
