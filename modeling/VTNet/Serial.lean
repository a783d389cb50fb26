import VTNet.Server

/-!
# The server one frame at a time

What a reader of `handle_socket` has in mind: a connection handles a frame in one go, and no other
task gets between its locks and its reply.
-/

namespace VTNet

/-- What a connection does in one go. -/
inductive Turn
  | accept (c : ConnId)
  | serve (c : ConnId) (frame : Frame) (nonce : Nonce) (serverTimestamp : UInt64) (now : Instant)
  | disconnect (c : ConnId)

namespace Turn

def actor : Turn → ConnId
  | .accept c => c
  | .serve c _ _ _ _ => c
  | .disconnect c => c

/-- The action that a turn begins with. -/
def opening : Turn → Action
  | .accept c => .accept c
  | .serve c frame nonce serverTimestamp now => .receive c frame nonce serverTimestamp now
  | .disconnect c => .disconnect c

/-- The turn that an action begins. -/
def begunBy : Action → Option Turn
  | .accept c => some (.accept c)
  | .receive c frame nonce serverTimestamp now => some (.serve c frame nonce serverTimestamp now)
  | .disconnect c => some (.disconnect c)
  | _ => none

end Turn

/-- What the task of `c` does next in this phase, if it does not wait for a frame. -/
def Phase.goesOn (c : ConnId) : Phase → Option Action
  | .handling _ _ => some (.handle c)
  | .registering _ _ => some (.register c)
  | .replying _ => some (.reply c)
  | _ => none

/-- The task waits for the lock. -/
def Phase.waitsForLock : Phase → Bool
  | .handling _ _ => true
  | .registering _ _ => true
  | _ => false

/-- The task neither waits for the lock nor is it about to reply. -/
def Phase.rests : Phase → Bool
  | .reading => true
  | .leaving => true
  | .closed => true
  | _ => false

namespace System

def goOn (crates : Crates) (system : System) (c : ConnId) : Option System :=
  match (system.tasks c).bind fun task => task.phase.goesOn c with
  | some action => system.step crates action
  | none => some system

/-- A frame is received, handled or registered, and replied to. -/
def turn (crates : Crates) (system : System) (turn : Turn) : Option System := do
  let received ← system.step crates turn.opening
  let handled ← received.goOn crates turn.actor
  handled.goOn crates turn.actor

end System

/-- A server, and the turn that each connection has begun last. -/
structure Tracked where
  system : System
  begun : ConnId → Option Turn

namespace Tracked

def start : Tracked := ⟨System.default, fun _ => none⟩

def step (crates : Crates) (tracked : Tracked) (action : Action) : Option Tracked := do
  let system ← tracked.system.step crates action
  return ⟨system, match Turn.begunBy action with
    | some turn => Function.update tracked.begun turn.actor (some turn)
    | none => tracked.begun⟩

/-- The turn that takes effect with an action. A frame takes effect when its task gets the lock, or
when it is received if no lock is needed. -/
def effects (crates : Crates) (tracked : Tracked) : Action → List Turn
  | .receive c frame nonce serverTimestamp now =>
    match tracked.system.tasks c with
    | some task =>
      if (task.receive crates frame nonce serverTimestamp now).phase.waitsForLock then []
      else [.serve c frame nonce serverTimestamp now]
    | none => []
  | .handle c => (tracked.begun c).toList
  | .register c => (tracked.begun c).toList
  | .accept c => [.accept c]
  | .disconnect c => [.disconnect c]
  | .reply _ => []

end Tracked

/-- The turns of a run, in the order in which they take effect. -/
def turnsOf (crates : Crates) (actions : List Action) : List Turn :=
  Execution.outputs (Tracked.step crates) (Tracked.effects crates) Tracked.start actions

end VTNet
