import VTNet.Proofs.PresenceInvariant
import VTNet.Lib.Lockstep

/-!
# Two servers that an observer cannot tell apart

The shared state is a function of the sessions, and a step appends to the channels what its event
lets them hear. So two servers with the same sessions stay alike, step by step, wherever their tasks
are alike, and their channels stay alike wherever they were.
-/

namespace VTNet.Proofs

section Unique

variable {state state' : ServerState} {roster : Roster}

lemma ConnectionsTrack.unique {connections connections' : UserUid → Option ConnId}
    (h : ConnectionsTrack connections roster) (h' : ConnectionsTrack connections' roster) :
    connections = connections' := by
  funext uid
  apply Option.ext
  intro c
  rw [h uid c, h' uid c]

/-- The sessions determine the shared state. -/
theorem Tracks.unique (h : Tracks state roster) (h' : Tracks state' roster) : state = state' := by
  have hconnections := h.connections_iff.unique h'.connections_iff
  have hrooms : state.rooms = state'.rooms := by
    apply RoomRegistry.ext_occupants
    intro roomId
    ext uid
    rw [h.occupants_iff, h'.occupants_iff]
  cases state
  cases state'
  cases hconnections
  cases hrooms
  rfl

end Unique

/-- The two servers have the same sessions, the same tasks outside `off` and the same channels
inside `on`. -/
structure Alike (off on : ConnId → Prop) (system system' : System) : Prop where
  inv : Inv system
  inv' : Inv system'
  roster : system.roster = system'.roster
  tasks : ∀ c, ¬off c → system.tasks c = system'.tasks c
  outbound : ∀ d, on d → system.outbound d = system'.outbound d

section Alike

variable {crates : Crates} {off on : ConnId → Prop} {system system' next next' : System}
  {action : Action}

lemma Alike.refl (h : Inv system) : Alike off on system system :=
  ⟨h, h, rfl, fun _ _ => rfl, fun _ _ => rfl⟩

lemma Alike.symm (h : Alike off on system system') : Alike off on system' system :=
  ⟨h.inv', h.inv, h.roster.symm, fun c hc => (h.tasks c hc).symm,
    fun d hd => (h.outbound d hd).symm⟩

lemma Alike.trans {system'' : System} (h : Alike off on system system')
    (h' : Alike off on system' system'') : Alike off on system system'' :=
  ⟨h.inv, h'.inv', h.roster.trans h'.roster, fun c hc => (h.tasks c hc).trans (h'.tasks c hc),
    fun d hd => (h.outbound d hd).trans (h'.outbound d hd)⟩

lemma Alike.state (h : Alike off on system system') : system.state = system'.state := by
  have htracks := h.inv'.tracks
  rw [← h.roster] at htracks
  exact h.inv.tracks.unique htracks

lemma Alike.registered_iff (h : Alike off on system system') (c : ConnId) (s : Session) :
    system.Registered c s ↔ system'.Registered c s := by
  rw [Proofs.registered_iff h.inv, Proofs.registered_iff h.inv', h.roster]

/-- What the observers can tell of two servers that are alike. -/
lemma Alike.outcome (h : Alike off on system system') :
    system'.state.rooms = system.state.rooms ∧
      system'.state.connections = system.state.connections ∧
      (∀ c s, system'.Registered c s ↔ system.Registered c s) ∧
      ∀ d, on d → system'.outbound d = system.outbound d := by
  rw [h.state]
  exact ⟨rfl, rfl, fun c s => (h.registered_iff c s).symm, fun d hd => (h.outbound d hd).symm⟩

lemma step_of_stepped (h : System.Stepped crates system action next) :
    system.step crates action = some next := by
  cases h with
  | accept free => simp only [System.step, free]
  | receive frame nonce serverTimestamp now running reading =>
    simp only [System.step, running, Option.bind_eq_bind, Option.bind_some, reading]
  | handle running handling known =>
    simp only [System.step, running, Option.bind_eq_bind, Option.bind_some, handling, known]
  | register running registering =>
    simp only [System.step, running, Option.bind_eq_bind, Option.bind_some, registering]
  | reply running replying =>
    simp only [System.step, running, Option.bind_eq_bind, Option.bind_some, replying]
  | disconnect running leaving =>
    simp only [System.step, running, Option.bind_eq_bind, Option.bind_some, leaving]

/-- Whether a step is enabled depends on the task of its actor only. -/
lemma step_enabled (htask : system.tasks action.actor = system'.tasks action.actor)
    (hstep : system.step crates action = some next) :
    ∃ next', system'.step crates action = some next' := by
  cases System.stepped_of_step hstep with
  | accept free => exact ⟨_, step_of_stepped (.accept (htask.symm.trans free))⟩
  | receive frame nonce serverTimestamp now running reading =>
    exact ⟨_, step_of_stepped (.receive _ _ _ _ (htask.symm.trans running) reading)⟩
  | handle running handling known =>
    exact ⟨_, step_of_stepped (.handle (htask.symm.trans running) handling known)⟩
  | register running registering =>
    exact ⟨_, step_of_stepped (.register (htask.symm.trans running) registering)⟩
  | reply running replying =>
    exact ⟨_, step_of_stepped (.reply (htask.symm.trans running) replying)⟩
  | disconnect running leaving =>
    exact ⟨_, step_of_stepped (.disconnect (htask.symm.trans running) leaving)⟩

/-- The same step in the same shared state leaves the same task, but for the session. -/
lemma stepped_task (hstate : system.state = system'.state)
    (htask : system.tasks action.actor = system'.tasks action.actor)
    (hroster : next.roster = next'.roster) (hstep : System.Stepped crates system action next)
    (hstep' : System.Stepped crates system' action next') :
    next.tasks action.actor = next'.tasks action.actor := by
  have hsession := congrFun hroster action.actor
  cases hstep with
  | @accept c free =>
    cases hstep' with
    | accept free' =>
      exact (setTask_self system c _).trans (setTask_self system' c _).symm
  | @receive c task frame nonce serverTimestamp now running reading =>
    cases hstep' with
    | @receive _ task' _ _ _ _ running' reading' =>
      have he : task = task' := Option.some.inj (running.symm.trans (htask.trans running'))
      subst he
      exact (setTask_self system c _).trans (setTask_self system' c _).symm
  | @handle c task message serverTimestamp session running handling known =>
    cases hstep' with
    | @handle _ task' message' serverTimestamp' session' running' handling' known' =>
      have he : task = task' := Option.some.inj (running.symm.trans (htask.trans running'))
      subst he
      rw [handling] at handling'
      cases handling'
      rw [known] at known'
      cases known'
      dsimp only [Action.actor] at hsession ⊢
      rw [handle_task, handle_task, hsession]
  | @register c task session serverMessage running registering =>
    cases hstep' with
    | @register _ task' session' serverMessage' running' registering' =>
      have he : task = task' := Option.some.inj (running.symm.trans (htask.trans running'))
      subst he
      rw [registering] at registering'
      cases registering'
      simp only [System.register, hstate]
      split
      · exact (setTask_self system c _).trans (setTask_self system' c _).symm
      · exact (setTask_self system c _).trans (setTask_self system' c _).symm
  | @reply c task serverMessage running replying =>
    cases hstep' with
    | @reply _ task' serverMessage' running' replying' =>
      have he : task = task' := Option.some.inj (running.symm.trans (htask.trans running'))
      subst he
      exact (setTask_self system c _).trans (setTask_self system' c _).symm
  | @disconnect c task running leaving =>
    cases hstep' with
    | @disconnect _ task' running' leaving' =>
      have he : task = task' := Option.some.inj (running.symm.trans (htask.trans running'))
      subst he
      exact (disconnect_task system c task).trans (disconnect_task system' c task).symm

/-- The event of a step depends on the shared state and the task of its actor only. -/
lemma event_congr (hstate : system.state = system'.state)
    (htask : system.tasks action.actor = system'.tasks action.actor) :
    system.event action = system'.event action := by
  cases action <;> simp only [Action.actor] at htask <;> simp only [System.event, htask, hstate]

/-- Two servers that are alike stay alike when the same task acts in both. -/
theorem Alike.step (h : Alike off on system system') (hactor : ¬off action.actor)
    (hstep : system.step crates action = some next) :
    ∃ next', system'.step crates action = some next' ∧ Alike off on next next' := by
  have htask := h.tasks action.actor hactor
  obtain ⟨next', hstep'⟩ := step_enabled htask hstep
  have hrefines := step_refines h.inv hstep
  have hrefines' := step_refines h.inv' hstep'
  have hevent := event_congr h.state htask
  have hroster : next.roster = next'.roster := by
    rw [hrefines.roster, hrefines'.roster, hevent, h.roster]
  refine ⟨next', hstep', hrefines.inv, hrefines'.inv, hroster, ?_, ?_⟩
  · intro c hc
    by_cases hca : c = action.actor
    · rw [hca]
      exact stepped_task h.state htask hroster (System.stepped_of_step hstep)
        (System.stepped_of_step hstep')
    · rw [(System.stepped_of_step hstep).task_other hca,
        (System.stepped_of_step hstep').task_other hca]
      exact h.tasks c hc
  · intro d hd
    rw [hrefines.outbound, hrefines'.outbound, hevent, h.roster, h.outbound d hd]

/-- Two servers that are alike stay alike along the same actions. -/
theorem Alike.exec {actions : List Action} (h : Alike off on system system')
    (hactors : ∀ action ∈ actions, ¬off action.actor)
    (hrun : Execution.exec (System.step crates) system actions = some next) :
    ∃ next', Execution.exec (System.step crates) system' actions = some next' ∧
      Alike off on next next' := by
  have hstep : ∀ s t action s', ¬off action.actor → Alike off on s t →
      System.step crates s action = some s' →
      ∃ t', System.step crates t action = some t' ∧ Alike off on s' t' :=
    fun _ _ _ _ hactor halike hstep => halike.step hactor hstep
  exact Execution.exec_lockstep hstep actions system next system' h hactors hrun

end Alike

end VTNet.Proofs
