import VTNet.Registry

/-!
# Presence as a function

Any number of sessions call `join_voice_room` and `leave_voice_room` on one registry, each join
with an evaluator of its own. What the registry and the sessions then hold is one function from
users to rooms, and what may be routed is decided by it.
-/

namespace VTNet

/-- A registry and the sessions that use it. -/
structure Family (ι : Type*) where
  rooms : RoomRegistry
  sessions : ι → Session

inductive RoomCall (ι : Type*)
  | join (i : ι) (roomId : Uuid) (evaluator : PermissionEvaluator)
  | leave (i : ι) (roomId : Uuid)

/-- The session that makes the call. -/
def RoomCall.caller {ι : Type*} : RoomCall ι → ι
  | .join i _ _ => i
  | .leave i _ => i

namespace Family

variable {ι : Type*} [DecidableEq ι]

def start (sessions : ι → Session) : Family ι := ⟨RoomRegistry.default, sessions⟩

/-- The value that the call returns, and what it leaves behind. -/
def call (family : Family ι) :
    RoomCall ι → Except RoomJoinError VoiceRoomTransition × Family ι
  | .join i roomId evaluator =>
    match family.rooms.joinVoiceRoom (family.sessions i) roomId evaluator with
    | .error e => (.error e, family)
    | .ok (transition, rooms, session) =>
      (.ok transition, ⟨rooms, Function.update family.sessions i session⟩)
  | .leave i roomId =>
    let (transition, rooms, session) := family.rooms.leaveVoiceRoom (family.sessions i) roomId
    (.ok transition, ⟨rooms, Function.update family.sessions i session⟩)

def after (family : Family ι) (calls : List (RoomCall ι)) : Family ι :=
  calls.foldl (fun family call => (family.call call).2) family

@[simp] lemma after_nil (family : Family ι) : family.after [] = family := rfl

lemma after_concat (family : Family ι) (calls : List (RoomCall ι)) (call : RoomCall ι) :
    family.after (calls ++ [call]) = ((family.after calls).call call).2 := by
  simp [after]

end Family

/-! ### The abstract side -/

/-- The room of every user. -/
abbrev Presence := UserUid → Option Uuid

/-- The transition that a change of a user's room is. -/
def VoiceRoomTransition.between : Option Uuid → Option Uuid → VoiceRoomTransition
  | none, none => .noChange
  | none, some roomId => .joined roomId
  | some roomId, none => .left roomId
  | some fromRoomId, some toRoomId =>
    if fromRoomId = toRoomId then .noChange else .switched fromRoomId toRoomId

namespace Presence

variable {ι : Type*}

/-- A permitted join moves its user to the room, and a leave takes its user out of the room that
it is in. -/
def next (uidOf : ι → UserUid) (presence : Presence) : RoomCall ι → Presence
  | .join i roomId evaluator =>
    if evaluator.isAllowed (uidOf i) roomId .join then
      Function.update presence (uidOf i) (some roomId)
    else presence
  | .leave i roomId =>
    if presence (uidOf i) = some roomId then Function.update presence (uidOf i) none else presence

/-- A refused join is denied, and everything else names the change of presence. -/
def result (uidOf : ι → UserUid) (presence : Presence) (call : RoomCall ι) :
    Except RoomJoinError VoiceRoomTransition :=
  let change := .between (presence (uidOf call.caller))
    (presence.next uidOf call (uidOf call.caller))
  match call with
  | .join i roomId evaluator =>
    if evaluator.isAllowed (uidOf i) roomId .join then .ok change else .error .permissionDenied
  | .leave _ _ => .ok change

def after (uidOf : ι → UserUid) (calls : List (RoomCall ι)) : Presence :=
  calls.foldl (next uidOf) (fun _ => none)

@[simp] lemma after_nil (uidOf : ι → UserUid) : after uidOf [] = fun _ => none := rfl

lemma after_concat (uidOf : ι → UserUid) (calls : List (RoomCall ι)) (call : RoomCall ι) :
    after uidOf (calls ++ [call]) = (after uidOf calls).next uidOf call := by
  simp [after]

end Presence

/-! ### What may be routed -/

/-- Some session of the user is active in the room. -/
def Family.Present {ι : Type*} (sessions : ι → Session) (roomId : Uuid) (userUid : UserUid) : Prop :=
  ∃ j, (sessions j).userUid = userUid ∧ (sessions j).activeVoiceRoomId = some roomId

/-- The answer to a sender who is active in the room and has the power for the action. -/
def Session.admitted {α : Type*} (sender : Session) (roomId : Uuid) (evaluator : PermissionEvaluator)
    (action : RoomAction) (answer : Except RoomRoutingError α) : Except RoomRoutingError α :=
  if sender.activeVoiceRoomId ≠ some roomId then .error .senderNotInActiveVoiceRoom
  else if ¬evaluator.isAllowed sender.userUid roomId action then .error (.permissionDenied action)
  else answer

open Classical in
/-- Who receives what of a message, decided by presence and power alone. -/
noncomputable def Family.decision {ι : Type*} (sessions : ι → Session) (i : ι)
    (message : ClientMessage) (serverTimestamp : UInt64) (evaluator : PermissionEvaluator) :
    Except RoomRoutingError (Set UserUid × ServerMessage) :=
  let sender := sessions i
  match message with
  | .sendTextMessage roomId textContent =>
    sender.admitted roomId evaluator .write
      (.ok ({uid | ∃ j, j ≠ i ∧ (sessions j).userUid = uid ∧
          (sessions j).activeVoiceRoomId = some roomId},
        .broadcastTextMessage roomId sender.userUid sender.displayName textContent serverTimestamp))
  | .sendWebRtcSdp roomId targetUid sdpType sdpRaw =>
    sender.admitted roomId evaluator .signal
      (if Family.Present sessions roomId targetUid then
        .ok ({targetUid}, .forwardWebRtcSdp roomId sender.userUid sdpType sdpRaw)
      else .error .targetNotInActiveVoiceRoom)
  | .sendWebRtcIce roomId targetUid candidate =>
    sender.admitted roomId evaluator .signal
      (if Family.Present sessions roomId targetUid then
        .ok ({targetUid}, .forwardWebRtcIce roomId sender.userUid candidate)
      else .error .targetNotInActiveVoiceRoom)
  | _ => .error .unsupportedClientMessage

end VTNet
