import VTNet.Proofs.Refinement

/-!
# Connections that stay without an identity

A connection that is not registered stays so as long as it receives no message, and a connection
that has left its loop stays so for good.
-/

namespace VTNet.Proofs

/-! ### The messages of a connection -/

def Frame.message? (crates : Crates) : Frame → Option ClientMessage
  | .text payload => (decodeClientMessage crates payload).toOption
  | _ => none

/-- The message that the connection `c` receives in an action. -/
def Action.message? (crates : Crates) (c : ConnId) : Action → Option ClientMessage
  | .receive d frame _ _ _ => if d = c then Frame.message? crates frame else none
  | _ => none

lemma message?_text {crates : Crates} {payload : String} {message : ClientMessage} :
    Frame.message? crates (.text payload) = some message ↔
      decodeClientMessage crates payload = .ok message := by
  simp only [Frame.message?]
  cases decodeClientMessage crates payload with
  | error error => simp [Except.toOption]
  | ok decoded => simp [Except.toOption]

/-- What is no message is ignored or ends the loop. -/
lemma receive_nothing {crates : Crates} (task : SocketTask) {frame : Frame} (nonce : Nonce)
    (serverTimestamp : UInt64) (now : Instant) (h : Frame.message? crates frame = none) :
    (task.receive crates frame nonce serverTimestamp now).phase = task.phase ∨
      (task.receive crates frame nonce serverTimestamp now).phase = .leaving := by
  cases frame with
  | other => exact Or.inl rfl
  | close => exact Or.inr rfl
  | failed => exact Or.inr rfl
  | text payload =>
    right
    cases hdecode : decodeClientMessage crates payload with
    | error error => simp only [SocketTask.receive, hdecode]
    | ok message =>
      rw [message?_text.mpr hdecode] at h
      cases h

/-! ### Dormant tasks -/

/-- The task is not registered and not about to be. It waits for a frame only if `waits`. -/
structure Dormant (waits : Prop) (task : SocketTask) : Prop where
  isRegistered : task.isRegistered = false
  phase : match task.phase with
    | .reading | .replying _ => waits
    | .leaving | .closed => True
    | .handling _ _ | .registering _ _ => False

section Runs

variable {crates : Crates} {system next : System} {c : ConnId} {task : SocketTask}
  {action : Action} {waits : Prop}

lemma Dormant.receive (h : Dormant waits task) (reading : task.phase = .reading) {frame : Frame}
    {nonce : Nonce} {serverTimestamp : UInt64} {now : Instant}
    (hnothing : waits → Frame.message? crates frame = none) :
    Dormant waits (task.receive crates frame nonce serverTimestamp now) := by
  have hwaits := h.phase
  rw [reading] at hwaits
  refine ⟨(receive_registered ..).trans h.isRegistered, ?_⟩
  rcases receive_nothing task nonce serverTimestamp now (hnothing hwaits) with he | he
  · rw [he, reading]
    exact hwaits
  · rw [he]
    trivial

/-- Only a message can wake it up. -/
lemma Dormant.step (h : Dormant waits task) (htask : system.tasks c = some task)
    (hstep : system.step crates action = some next)
    (hnothing : waits → Action.message? crates c action = none) :
    ∃ task', next.tasks c = some task' ∧ Dormant waits task' := by
  have hstepped := System.stepped_of_step hstep
  by_cases hc : c = action.actor
  · subst hc
    have hphase := h.phase
    cases hstepped with
    | accept free =>
      have hsome := htask.symm.trans free
      cases hsome
    | receive frame nonce serverTimestamp now running reading =>
      obtain rfl := Option.some.inj (htask.symm.trans running)
      simp only [Action.message?, Action.actor, if_true] at hnothing
      exact ⟨_, setTask_self .., h.receive reading hnothing⟩
    | handle running handling known =>
      obtain rfl := Option.some.inj (htask.symm.trans running)
      rw [handling] at hphase
      exact hphase.elim
    | register running registering =>
      obtain rfl := Option.some.inj (htask.symm.trans running)
      rw [registering] at hphase
      exact hphase.elim
    | reply running replying =>
      obtain rfl := Option.some.inj (htask.symm.trans running)
      rw [replying] at hphase
      exact ⟨_, setTask_self .., h.isRegistered, hphase⟩
    | disconnect running leaving =>
      obtain rfl := Option.some.inj (htask.symm.trans running)
      exact ⟨_, disconnect_task .., h.isRegistered, trivial⟩
  · rw [hstepped.task_other hc]
    exact ⟨task, htask, h⟩

lemma Dormant.exec {actions : List Action} (h : Dormant waits task)
    (htask : system.tasks c = some task)
    (hrun : Execution.exec (System.step crates) system actions = some next)
    (hnothing : waits → ∀ action ∈ actions, Action.message? crates c action = none) :
    ∃ task', next.tasks c = some task' ∧ Dormant waits task' := by
  revert hnothing
  apply Execution.exec_induction (System.step crates)
    (motive := fun actions next => (waits → ∀ action ∈ actions,
      Action.message? crates c action = none) → ∃ task', next.tasks c = some task' ∧
        Dormant waits task') (fun _ => ⟨task, htask, h⟩) ?_ actions next hrun
  intro before now action next _ ih hstep hnothing
  obtain ⟨task', htask', hdormant⟩ :=
    ih (fun hwaits a ha => hnothing hwaits a (List.mem_append_left _ ha))
  exact hdormant.step htask' hstep (fun hwaits => hnothing hwaits action (by simp))

lemma Dormant.not_registered (h : Dormant waits task) (htask : system.tasks c = some task)
    (s : Session) : ¬system.Registered c s := by
  rintro ⟨task', htask', hregistered, -, -⟩
  rw [htask] at htask'
  cases htask'
  rw [h.isRegistered] at hregistered
  cases hregistered

end Runs

end VTNet.Proofs
