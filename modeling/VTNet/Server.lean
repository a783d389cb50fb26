import VTNet.Auth
import VTNet.Transport
import VTNet.Lib.Execution
import Mathlib.Data.Multiset.Fold

/-!
# The server and its connection tasks (`server/src/main.rs`)

`handle_socket` is cut where its task can be overtaken by another one: at every frame it
waits for, at every lock it waits for and after the lock that registered it is released.
The shared state is changed only by the three sections that hold the lock. An outbound channel
is named by the connection that created it, and its log keeps what was sent to it; the
writer that empties it belongs to the environment.
-/

namespace VTNet

/-- A connection, and the sender of its outbound channel. -/
abbrev ConnId := ℕ

abbrev Outbound := ConnId → List ServerMessage

def serverName : String := "VTNet"

def allowAllPermissions : PermissionEvaluator := ⟨fun _ _ => 1, fun _ _ => 0⟩

structure ServerState where
  rooms : RoomRegistry
  connections : UserUid → Option ConnId

def ServerState.default : ServerState := ⟨RoomRegistry.default, fun _ => none⟩

namespace Outbound

/-- The channel drops a message once its writer has returned; the log keeps it even then. -/
def send (outbound : Outbound) (sender : ConnId) (message : ServerMessage) : Outbound :=
  Function.update outbound sender (outbound sender ++ [message])

/-- A send through an entry of `connections` that may be missing. -/
def sendTo (outbound : Outbound) (sender : Option ConnId) (message : ServerMessage) : Outbound :=
  match sender with
  | some sender => outbound.send sender message
  | none => outbound

end Outbound

/-- Copies of one message can be sent in any order. -/
instance sendTo_rightCommutative (connections : UserUid → Option ConnId) (message : ServerMessage) :
    RightCommutative (fun (outbound : Outbound) (recipient : UserUid) =>
      outbound.sendTo (connections recipient) message) where
  right_comm outbound u v := by
    funext c
    cases hu : connections u with
    | none => simp [Outbound.sendTo]
    | some cu =>
      cases hv : connections v with
      | none => simp [Outbound.sendTo]
      | some cv =>
        by_cases huv : cu = cv
        · simp [Outbound.sendTo, huv]
        · by_cases hcu : c = cu <;> by_cases hcv : c = cv <;>
            simp_all [Outbound.sendTo, Outbound.send, Function.update_apply, eq_comm]

def sendToUsers (state : ServerState) (outbound : Outbound) (recipients : Finset UserUid)
    (message : ServerMessage) : Outbound :=
  recipients.val.foldl
    (fun outbound recipient => outbound.sendTo (state.connections recipient) message) outbound

/-- The section of `handle_authenticated_message` that holds the lock. -/
def handleAuthenticatedMessage (state : ServerState) (outbound : Outbound) (session : Session)
    (message : ClientMessage) (serverTimestamp : UInt64) : ServerState × Outbound × Session :=
  match message with
  | .joinVoiceRoom roomId =>
    let leavingRecipients := (session.activeVoiceRoomId.map fun previousRoomId =>
      (state.rooms.occupants previousRoomId).filter (· ≠ session.userUid)).getD ∅
    let joiningRecipients := (state.rooms.occupants roomId).filter (· ≠ session.userUid)
    match state.rooms.joinVoiceRoom session roomId allowAllPermissions with
    | .error _ => (state, outbound, session)
    | .ok (transition, rooms, session) =>
      let state := { state with rooms }
      let outbound := match transition with
        | .switched fromRoomId _ => sendToUsers state outbound leavingRecipients
            (.peerLeftRoom fromRoomId session.userUid)
        | _ => outbound
      let outbound := match transition with
        | .joined _ | .switched _ _ =>
          sendToUsers state
            (outbound.sendTo (state.connections session.userUid) (.voiceRoomJoined roomId))
            joiningRecipients
            (.peerJoinedRoom roomId session.userUid session.displayName)
        | _ => outbound
      (state, outbound, session)
  | .leaveVoiceRoom roomId =>
    let recipients := (state.rooms.occupants roomId).filter (· ≠ session.userUid)
    match state.rooms.leaveVoiceRoom session roomId with
    | (.left _, rooms, session) =>
      let state := { state with rooms }
      let outbound :=
        outbound.sendTo (state.connections session.userUid) (.voiceRoomLeft roomId)
      (state, sendToUsers state outbound recipients (.peerLeftRoom roomId session.userUid), session)
    | (_, rooms, session) => ({ state with rooms }, outbound, session)
  | roomMessage =>
    match state.rooms.routeClientRoomMessage session roomMessage serverTimestamp
      allowAllPermissions with
    | .ok routed => (state, sendToUsers state outbound routed.recipients routed.message, session)
    | .error _ => (state, outbound, session)

/-- The section of `disconnect_session` that holds the lock. -/
def disconnectSession (state : ServerState) (outbound : Outbound) (session : Session) :
    ServerState × Outbound :=
  let state := { state with connections := Function.update state.connections session.userUid none }
  match session.activeVoiceRoomId with
  | none => (state, outbound)
  | some roomId =>
    let recipients := (state.rooms.occupants roomId).filter (· ≠ session.userUid)
    match state.rooms.leaveVoiceRoom session roomId with
    | (.left _, rooms, _) =>
      let state := { state with rooms }
      (state, sendToUsers state outbound recipients (.peerLeftRoom roomId session.userUid))
    | (_, rooms, _) => ({ state with rooms }, outbound)

/-! ### Connection tasks -/

inductive Frame
  | text (payload : String)
  | close
  /-- A binary, ping or pong frame. -/
  | other
  /-- The stream ended or failed. -/
  | failed

/-- Where the task of a connection stands. -/
inductive Phase
  /-- It waits for the next frame. -/
  | reading
  /-- `handle_authenticated_message` waits for the lock. -/
  | handling (message : ClientMessage) (serverTimestamp : UInt64)
  /-- The authenticator has given up its session and the task waits for the lock. -/
  | registering (session : Session) (serverMessage : ServerMessage)
  /-- It is about to send the authenticator's reply, without the lock. -/
  | replying (serverMessage : ServerMessage)
  /-- It has left its loop. -/
  | leaving
  /-- It has cleaned up. -/
  | closed

structure SocketTask where
  authenticator : ConnectionAuthenticator
  session : Option Session
  isRegistered : Bool
  phase : Phase

def SocketTask.start : SocketTask :=
  ⟨ConnectionAuthenticator.new serverName, none, false, .reading⟩

structure System where
  state : ServerState
  tasks : ConnId → Option SocketTask
  outbound : Outbound

def System.default : System := ⟨ServerState.default, fun _ => none, fun _ => []⟩

inductive Action
  | accept (c : ConnId)
  | receive (c : ConnId) (frame : Frame) (nonce : Nonce) (serverTimestamp : UInt64) (now : Instant)
  | handle (c : ConnId)
  | register (c : ConnId)
  | reply (c : ConnId)
  | disconnect (c : ConnId)

/-- The connection whose task acts. -/
def Action.actor : Action → ConnId
  | .accept c => c
  | .receive c _ _ _ _ => c
  | .handle c => c
  | .register c => c
  | .reply c => c
  | .disconnect c => c

/-- The body of the loop from a received frame to the next point where the task waits. -/
def SocketTask.receive (crates : Crates) (task : SocketTask) (frame : Frame) (nonce : Nonce)
    (serverTimestamp : UInt64) (now : Instant) : SocketTask :=
  match frame with
  | .other => task
  | .close | .failed => { task with phase := .leaving }
  | .text payload =>
    match decodeClientMessage crates payload with
    | .error _ => { task with phase := .leaving }
    | .ok message =>
      if task.session.isSome then { task with phase := .handling message serverTimestamp }
      else
        let (result, authenticator) :=
          task.authenticator.handleMessage crates message nonce serverTimestamp now
        match authenticator.takeAuthenticatedSession with
        | (some session, authenticator) =>
          { task with authenticator, phase := .registering session result.message }
        | (none, authenticator) =>
          { task with authenticator, phase := .replying result.message }

namespace System

def setTask (system : System) (c : ConnId) (task : SocketTask) : System :=
  { system with tasks := Function.update system.tasks c (some task) }

/-- The section that registers a connection. One connection for each identity. -/
def register (system : System) (c : ConnId) (task : SocketTask) (session : Session)
    (serverMessage : ServerMessage) : System :=
  if (system.state.connections session.userUid).isSome then
    { system.setTask c { task with phase := .leaving } with
      outbound := system.outbound.send c (.authFailure .invalidCredentials) }
  else
    { system.setTask c { task with
        session := some session, isRegistered := true, phase := .replying serverMessage } with
      state := { system.state with
        connections := Function.update system.state.connections session.userUid (some c) } }

/-- The locked section of `handle_authenticated_message`, run by the task of `c`. -/
def handle (system : System) (c : ConnId) (task : SocketTask) (session : Session)
    (message : ClientMessage) (serverTimestamp : UInt64) : System :=
  let (state, outbound, session) :=
    handleAuthenticatedMessage system.state system.outbound session message serverTimestamp
  { system.setTask c { task with session := some session, phase := .reading } with state, outbound }

/-- What follows the loop. The session is moved out of the task. -/
def disconnect (system : System) (c : ConnId) (task : SocketTask) : System :=
  let closed := system.setTask c { task with session := none, phase := .closed }
  match task.isRegistered, task.session with
  | true, some session =>
    let (state, outbound) := disconnectSession system.state system.outbound session
    { closed with state, outbound }
  | _, _ => closed

def step (crates : Crates) (system : System) : Action → Option System
  | .accept c =>
    match system.tasks c with
    | none => some (system.setTask c SocketTask.start)
    | some _ => none
  | .receive c frame nonce serverTimestamp now => do
    let task ← system.tasks c
    match task.phase with
    | .reading => some (system.setTask c (task.receive crates frame nonce serverTimestamp now))
    | _ => none
  | .handle c => do
    let task ← system.tasks c
    match task.phase, task.session with
    | .handling message serverTimestamp, some session =>
      some (system.handle c task session message serverTimestamp)
    | _, _ => none
  | .register c => do
    let task ← system.tasks c
    match task.phase with
    | .registering session serverMessage => some (system.register c task session serverMessage)
    | _ => none
  | .reply c => do
    let task ← system.tasks c
    match task.phase with
    | .replying serverMessage =>
      some { system.setTask c { task with phase := .reading } with
        outbound := system.outbound.send c serverMessage }
    | _ => none
  | .disconnect c => do
    let task ← system.tasks c
    match task.phase with
    | .leaving => some (system.disconnect c task)
    | _ => none

/-- Everything a step can do. -/
inductive Stepped (crates : Crates) (system : System) : Action → System → Prop
  | accept {c : ConnId} (free : system.tasks c = none) :
      Stepped crates system (.accept c) (system.setTask c SocketTask.start)
  | receive {c : ConnId} {task : SocketTask} (frame : Frame) (nonce : Nonce)
      (serverTimestamp : UInt64) (now : Instant) (running : system.tasks c = some task)
      (reading : task.phase = .reading) :
      Stepped crates system (.receive c frame nonce serverTimestamp now)
        (system.setTask c (task.receive crates frame nonce serverTimestamp now))
  | handle {c : ConnId} {task : SocketTask} {message : ClientMessage} {serverTimestamp : UInt64}
      {session : Session} (running : system.tasks c = some task)
      (handling : task.phase = .handling message serverTimestamp)
      (known : task.session = some session) :
      Stepped crates system (.handle c) (system.handle c task session message serverTimestamp)
  | register {c : ConnId} {task : SocketTask} {session : Session} {serverMessage : ServerMessage}
      (running : system.tasks c = some task)
      (registering : task.phase = .registering session serverMessage) :
      Stepped crates system (.register c) (system.register c task session serverMessage)
  | reply {c : ConnId} {task : SocketTask} {serverMessage : ServerMessage}
      (running : system.tasks c = some task) (replying : task.phase = .replying serverMessage) :
      Stepped crates system (.reply c)
        { system.setTask c { task with phase := .reading } with
          outbound := system.outbound.send c serverMessage }
  | disconnect {c : ConnId} {task : SocketTask} (running : system.tasks c = some task)
      (leaving : task.phase = .leaving) :
      Stepped crates system (.disconnect c) (system.disconnect c task)

section Steps

variable {crates : Crates} {system system' : System} {action : Action}

theorem stepped_of_step (h : system.step crates action = some system') :
    Stepped crates system action system' := by
  cases action with
  | accept c =>
    simp only [step] at h
    split at h
    · rename_i hfree
      cases h
      exact .accept hfree
    · cases h
  | receive c frame nonce serverTimestamp now =>
    obtain ⟨task, htask, h⟩ := Option.bind_eq_some_iff.mp h
    split at h
    · rename_i hphase
      cases h
      exact .receive frame nonce serverTimestamp now htask hphase
    · cases h
  | handle c =>
    obtain ⟨task, htask, h⟩ := Option.bind_eq_some_iff.mp h
    split at h
    · rename_i hphase hsession
      cases h
      exact .handle htask hphase hsession
    · cases h
  | register c =>
    obtain ⟨task, htask, h⟩ := Option.bind_eq_some_iff.mp h
    split at h
    · rename_i hphase
      cases h
      exact .register htask hphase
    · cases h
  | reply c =>
    obtain ⟨task, htask, h⟩ := Option.bind_eq_some_iff.mp h
    split at h
    · rename_i hphase
      cases h
      exact .reply htask hphase
    · cases h
  | disconnect c =>
    obtain ⟨task, htask, h⟩ := Option.bind_eq_some_iff.mp h
    split at h
    · rename_i hphase
      cases h
      exact .disconnect htask hphase
    · cases h

/-- A step touches the task of its actor only. -/
lemma Stepped.task_other (h : Stepped crates system action system') {d : ConnId}
    (hd : d ≠ action.actor) : system'.tasks d = system.tasks d := by
  cases h with
  | register =>
    simp only [System.register]
    split <;> exact Function.update_of_ne hd ..
  | @disconnect c task =>
    simp only [System.disconnect]
    split <;> exact Function.update_of_ne hd ..
  | _ => exact Function.update_of_ne hd ..

end Steps

end System

end VTNet
