import VTNet.Server
import VTNet.Wire

/-!
# The writers of the connections (`server/src/main.rs`)

The task that `handle_socket` spawns takes the messages off its outbound channel and sends their
texts. It gets the log of its connection in order, and the channel ends when its last sender is
gone: that of the task goes when the task has cleaned up, and the one in `connections` before. Once
the writer has returned, with it the receiver is gone, and what is sent is dropped. The log of the
connection goes on with it all the same.
-/

namespace VTNet

inductive WriterPhase
  /-- `outbound_receiver.recv()` -/
  | receiving
  /-- `socket_sender.send` -/
  | sending (payload : String)
  | returned
  deriving DecidableEq

structure Writer where
  /-- How many messages it has taken off its channel. -/
  received : ℕ
  phase : WriterPhase
  /-- The texts that the socket has taken. -/
  wire : List String

def Writer.start : Writer := ⟨0, .receiving, []⟩

structure Downlink where
  system : System
  writers : ConnId → Writer

def Downlink.start : Downlink := ⟨System.default, fun _ => Writer.start⟩

inductive DownlinkAction
  | serve (action : Action)
  /-- The writer gets the next message, or finds its channel closed. -/
  | recv (c : ConnId)
  /-- The socket has taken the text, or has failed. -/
  | send (c : ConnId) (isOk : Bool)

/-- The task of the connection has cleaned up, and its sender is dropped. -/
def System.hasEnded (system : System) (c : ConnId) : Bool :=
  (system.tasks c).any fun task => match task.phase with
    | .closed => true
    | _ => false

namespace Downlink

def setWriter (downlink : Downlink) (c : ConnId) (writer : Writer) : Downlink :=
  { downlink with writers := Function.update downlink.writers c writer }

def step (crates : Crates) (toJson : JsonWriter) (downlink : Downlink) :
    DownlinkAction → Option Downlink
  | .serve action => do
    let system ← downlink.system.step crates action
    return { downlink with system }
  | .recv c =>
    let writer := downlink.writers c
    match writer.phase, (downlink.system.outbound c)[writer.received]? with
    | .receiving, some message =>
      match encodeServerMessage crates toJson message with
      | some payload => some (downlink.setWriter c ⟨writer.received + 1, .sending payload, writer.wire⟩)
      | none => some (downlink.setWriter c ⟨writer.received + 1, .returned, writer.wire⟩)
    | .receiving, none =>
      if downlink.system.hasEnded c then
        some (downlink.setWriter c { writer with phase := .returned })
      else none
    | _, _ => none
  | .send c isOk =>
    let writer := downlink.writers c
    match writer.phase with
    | .sending payload =>
      some (downlink.setWriter c (if isOk then
          ⟨writer.received, .receiving, writer.wire ++ [payload]⟩
        else { writer with phase := .returned }))
    | _ => none

/-- What a step puts on the channel of a connection. -/
def accepted (crates : Crates) (c : ConnId) (downlink : Downlink) :
    DownlinkAction → List ServerMessage
  | .serve action =>
    match downlink.system.step crates action with
    | some system =>
      if (downlink.writers c).phase = .returned then []
      else (system.outbound c).drop (downlink.system.outbound c).length
    | none => []
  | _ => []

end Downlink

end VTNet
