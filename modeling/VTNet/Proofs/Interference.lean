import VTNet.Proofs.TwoRuns

/-!
# Connections without an identity do not interfere

What a connection does before it is registered, or without ever being, changes neither the
shared state nor what any other connection hears. Its steps can be erased from a run.
-/

namespace VTNet.Proofs

section Unregistered

variable {crates : Crates} {system next : System} {action : Action} {c : ConnId}

lemma roster_other (hstep : system.step crates action = some next) {d : ConnId}
    (hd : d ≠ action.actor) : next.roster d = system.roster d := by
  unfold System.roster
  rw [(System.stepped_of_step hstep).task_other hd]

/-- Nobody else hears what a connection without a session does. -/
lemma unheard_of_unknown (hnone : system.roster action.actor = none) {d : ConnId}
    (hd : d ≠ action.actor) : (system.event action).heard system.roster d = [] := by
  cases action with
  | accept c => rfl
  | receive c frame nonce serverTimestamp now => rfl
  | handle c =>
    dsimp only [Action.actor] at hnone
    simp only [System.event]
    split
    · rename_i message serverTimestamp _
      cases message <;> simp only [messageEvent, Event.heard, hnone]
    · rfl
  | register c =>
    simp only [System.event]
    split
    · split
      · exact if_neg hd
      · rfl
    · rfl
  | reply c =>
    simp only [System.event]
    split
    · exact if_neg hd
    · rfl
  | disconnect c =>
    dsimp only [Action.actor] at hnone
    simp only [System.event, Event.heard, hnone]

/-- A step of a connection that has no session before or after it. -/
lemma unregistered_step (h : Inv system) (hstep : system.step crates action = some next)
    (hnone : system.roster action.actor = none) (hnone' : next.roster action.actor = none) :
    next.roster = system.roster ∧ ∀ d, d ≠ action.actor → next.outbound d = system.outbound d := by
  constructor
  · funext d
    by_cases hd : d = action.actor
    · rw [hd, hnone, hnone']
    · exact roster_other hstep hd
  · intro d hd
    rw [(step_refines h hstep).outbound, unheard_of_unknown hnone hd, List.append_nil]

/-- Only its own registration gives a connection a session. -/
lemma unknown_kept (h : Inv system) (hstep : system.step crates action = some next)
    (haction : action ≠ .register c) (hnone : system.roster c = none) : next.roster c = none := by
  by_cases hc : c = action.actor
  · subst hc
    rw [(step_refines h hstep).roster]
    cases action with
    | accept c => exact hnone
    | receive c frame nonce serverTimestamp now => exact hnone
    | handle c =>
      dsimp only [Action.actor] at hnone ⊢
      simp only [System.event]
      split
      · rename_i message serverTimestamp _
        cases message with
        | joinVoiceRoom roomId =>
          simp only [messageEvent, Event.next, Roster.moveTo_of_none hnone, hnone]
        | leaveVoiceRoom roomId =>
          simp only [messageEvent, Event.next, Roster.moveTo_of_none hnone, ite_self, hnone]
        | _ => exact hnone
      · exact hnone
    | register c => exact absurd rfl haction
    | reply c =>
      dsimp only [Action.actor] at hnone ⊢
      simp only [System.event]
      split <;> exact hnone
    | disconnect c => exact Function.update_self ..
  · rw [roster_other hstep hc, hnone]

lemma never_registered {actions : List Action}
    (hrun : Execution.exec (System.step crates) System.default actions = some system)
    (hregister : .register c ∉ actions) : system.roster c = none := by
  revert hregister
  apply Execution.exec_induction (System.step crates)
    (motive := fun actions system => .register c ∉ actions → system.roster c = none)
    (fun _ => rfl) ?_ actions system hrun
  intro before now action next hbefore ih hstep hregister
  rw [List.mem_append, List.mem_singleton, not_or] at hregister
  exact unknown_kept (inv_of_reachable ⟨before, hbefore⟩) hstep (Ne.symm hregister.2)
    (ih hregister.1)

/-- A run changes nothing about a connection that does not act in it. -/
lemma exec_other {actions : List Action} {system' : System}
    (hrun : Execution.exec (System.step crates) system actions = some system')
    (hothers : ∀ action ∈ actions, action.actor ≠ c) : system'.tasks c = system.tasks c := by
  revert hothers
  apply Execution.exec_induction (System.step crates)
    (motive := fun actions system' => (∀ action ∈ actions, action.actor ≠ c) →
      system'.tasks c = system.tasks c) (fun _ => rfl) ?_ actions system' hrun
  intro before now action next _ ih hstep hothers
  have hc : c ≠ action.actor := (hothers action (by simp)).symm
  rw [(System.stepped_of_step hstep).task_other hc]
  exact ih (fun a ha => hothers a (List.mem_append_left _ ha))

end Unregistered

/-- Erasing every step of connections that are never registered leaves a run that the other
connections cannot tell from the first one. -/
theorem unregistered_do_not_interfere {crates : Crates} {actions : List Action} {system : System}
    (D : Set ConnId) [DecidablePred (· ∈ D)]
    (hrun : Execution.exec (System.step crates) System.default actions = some system)
    (hnever : Execution.Throughout (System.step crates)
      (fun now => ∀ c ∈ D, ∀ s, ¬now.Registered c s) System.default actions) :
    ∃ system', Execution.exec (System.step crates) System.default
        (actions.filter (fun action => action.actor ∉ D)) = some system' ∧
      system'.state.rooms = system.state.rooms ∧
      system'.state.connections = system.state.connections ∧
      (∀ c s, system'.Registered c s ↔ system.Registered c s) ∧
      ∀ c, c ∉ D → system'.outbound c = system.outbound c := by
  have hinv : ∀ before now, before <+: actions →
      Execution.exec (System.step crates) System.default before = some now → Inv now :=
    fun before now _ hnow => inv_of_reachable ⟨before, hnow⟩
  have hsilent : Execution.Throughout (System.step crates)
      (fun now => Inv now ∧ ∀ c ∈ D, now.roster c = none) System.default actions := by
    intro before now hbefore hnow
    refine ⟨hinv before now hbefore hnow, ?_⟩
    intro c hc
    apply Option.eq_none_iff_forall_ne_some.mpr
    intro s hs
    exact hnever before now hbefore hnow c hc s
      ((registered_iff (hinv before now hbefore hnow)).mpr hs)
  have herased : ∃ system', Execution.exec (System.step crates) System.default
      (actions.filter (fun action => action.actor ∉ D)) = some system' ∧
      Alike (· ∈ D) (· ∉ D) system system' := by
    apply Execution.exec_filter (R := Alike (· ∈ D) (· ∉ D)) (P := fun now => Inv now ∧
      ∀ c ∈ D, now.roster c = none) _ ?_ ?_ _ _ _ _ (Alike.refl inv_default) hsilent hrun
    · intro s t a s' _ _ halike hkeep hstep
      exact halike.step (of_decide_eq_true hkeep) hstep
    · intro s t a s' hs hs' halike hkeep hstep
      have hD : a.actor ∈ D := by simpa using hkeep
      obtain ⟨hroster, houtbound⟩ :=
        unregistered_step hs.1 hstep (hs.2 a.actor hD) (hs'.2 a.actor hD)
      refine ⟨hs'.1, halike.inv', hroster.trans halike.roster, ?_, ?_⟩
      · intro c hc
        have hca : c ≠ a.actor := by
          rintro rfl
          exact hc hD
        rw [(System.stepped_of_step hstep).task_other hca]
        exact halike.tasks c hc
      · intro d hd
        have hda : d ≠ a.actor := by
          rintro rfl
          exact hd hD
        rw [houtbound d hda]
        exact halike.outbound d hd
  obtain ⟨system', hrun', halike⟩ := herased
  exact ⟨system', hrun', halike.outcome⟩

/-- A connection that sends a text that is no message. -/
def stranger : List Action :=
  [.accept 2, .receive 2 (.text "hi") Reference.first.nonce 0 0, .disconnect 2]

lemma stranger_runs : ∃ system, Execution.exec (System.step Reference.crates) System.default
    (Reference.meeting ++ stranger) = some system := by
  have hfree : (Reference.final Reference.meeting).tasks 2 = none := by
    apply (exec_other Reference.meeting_runs _).trans rfl
    decide +kernel
  have hdecode : decodeClientMessage Reference.crates "hi" = .error .invalidProtocolMessage := by
    decide +kernel
  have hreceive : SocketTask.start.receive Reference.crates (.text "hi") Reference.first.nonce 0 0 =
      { SocketTask.start with phase := .leaving } := by
    simp only [SocketTask.receive, hdecode]
  rw [Execution.exec_append, Reference.meeting_runs, Option.bind_some, stranger,
    Execution.exec_cons, step_of_stepped (.accept hfree), Option.bind_some,
    Execution.exec_cons, step_of_stepped (.receive _ _ _ _ (setTask_self ..) rfl), Option.bind_some,
    hreceive, Execution.exec_singleton, step_of_stepped (.disconnect (setTask_self ..) rfl)]
  exact ⟨_, rfl⟩

theorem unregistered_do_not_interfere_stranger : ∃ system system',
    Execution.exec (System.step Reference.crates) System.default
      (Reference.meeting ++ stranger) = some system ∧
    Execution.exec (System.step Reference.crates) System.default
      ((Reference.meeting ++ stranger).filter
        (fun action => action.actor ∉ ({2} : Set ConnId))) = some system' ∧
    system'.state.rooms = system.state.rooms ∧
    ∀ c, c ∉ ({2} : Set ConnId) → system'.outbound c = system.outbound c := by
  obtain ⟨system, hrun⟩ := stranger_runs
  have hregister : Action.register 2 ∉ Reference.meeting ++ stranger := by
    simp [Reference.meeting, Reference.logIn, Reference.join, Reference.say, Reference.receive,
      stranger]
  obtain ⟨system', hrun', hrooms, -, -, houtbound⟩ := unregistered_do_not_interfere {2} hrun (by
    intro before now hbefore hnow c hc s hs
    have hnone := never_registered hnow (fun hin => hregister (hbefore.subset hin))
    rw [Set.mem_singleton_iff.mp hc, registered_iff (inv_of_reachable ⟨before, hnow⟩), hnone] at hs
    cases hs)
  exact ⟨system, system', hrun, hrun', hrooms, houtbound⟩

end VTNet.Proofs
