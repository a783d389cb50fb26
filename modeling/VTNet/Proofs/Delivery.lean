import VTNet.Proofs.PresenceInvariant

/-!
# Exact, ordered and authentic delivery

The posts in the log of a connection are those of the posts made by the locked sections, in the
order of the sections, whose audience the connection was in when the section ran.
-/

namespace VTNet.Proofs

open ServerMessage (isPost)

lemma not_isPost_of_isPrelude {m : ServerMessage} (h : m.IsPrelude) : m.isPost = false := by
  cases m <;> first | rfl | cases h

/-- The posts of a list that reach `d`. -/
def postsTo (d : ConnId) (posts : List Post) : List ServerMessage :=
  (posts.filter (·.audience d)).map (·.message)

lemma heardBy_eq_postsTo (post : Post) (d : ConnId) : post.heardBy d = postsTo d [post] := by
  by_cases haudience : post.audience d = true <;> simp [Post.heardBy, postsTo, haudience]

lemma heard_say_posts {roster : Roster} {c : ConnId} {s : Session} (hs : roster c = some s)
    (message : ClientMessage) (serverTimestamp : UInt64) (d : ConnId) :
    ((Event.say c message serverTimestamp).heard roster d).filter isPost =
      postsTo d (roster.post c s message serverTimestamp).toList := by
  simp only [Event.heard, hs]
  cases hpost : roster.post c s message serverTimestamp with
  | none => rfl
  | some post =>
    have hkind := Roster.post_isPost hpost
    simp only [Option.toList_some, heardBy_eq_postsTo]
    by_cases haudience : post.audience d = true <;> simp [postsTo, haudience, hkind]

/-- Presence events are no posts. -/
lemma heard_no_posts {roster : Roster} {event : Event} (hvalid : event.Valid roster)
    (hsay : ∀ c message serverTimestamp, event ≠ .say c message serverTimestamp) (d : ConnId) :
    (event.heard roster d).filter isPost = [] := by
  cases event with
  | say c message serverTimestamp => exact absurd rfl (hsay c message serverTimestamp)
  | own c message =>
    have hkind : message.isPost = false := by
      rcases hvalid with ⟨-, hprelude⟩ | ⟨s, assignedName, serverName, -, -, rfl⟩
      · exact not_isPost_of_isPrelude hprelude
      · rfl
    by_cases hdc : d = c <;> simp [Event.heard, hdc, hkind]
  | silent => rfl
  | login c session => rfl
  | join c roomId =>
    simp only [Event.heard]
    repeat' split
    all_goals rfl
  | leave c roomId =>
    simp only [Event.heard]
    repeat' split
    all_goals rfl
  | logout c =>
    simp only [Event.heard]
    repeat' split
    all_goals rfl

lemma event_say {system : System} {action : Action} {c : ConnId} {message : ClientMessage}
    {serverTimestamp : UInt64} (h : system.event action = .say c message serverTimestamp) :
    action = .handle c ∧ (system.tasks c).map SocketTask.phase =
      some (.handling message serverTimestamp) := by
  cases action with
  | handle d =>
    simp only [System.event] at h
    split at h
    · rename_i received timestamp hphase
      cases received <;> cases h <;> exact ⟨rfl, hphase⟩
    · cases h
  | register d =>
    simp only [System.event] at h
    split at h
    · split at h <;> cases h
    · cases h
  | reply d =>
    simp only [System.event] at h
    split at h <;> cases h
  | _ => cases h

/-- What one action adds to the posts in a log. -/
lemma step_posts {crates : Crates} {system system' : System} (h : Inv system) {action : Action}
    (hstep : system.step crates action = some system') (d : ConnId) :
    (system'.outbound d).filter isPost =
      (system.outbound d).filter isPost ++ postsTo d (system.posts action) := by
  obtain ⟨-, hvalid, -, houtbound⟩ := step_refines h hstep
  rw [houtbound, List.filter_append, List.append_cancel_left_eq]
  by_cases hsay : ∃ c message serverTimestamp, system.event action = .say c message serverTimestamp
  · obtain ⟨c, message, serverTimestamp, hevent⟩ := hsay
    obtain ⟨rfl, hphase⟩ := event_say hevent
    rw [hevent]
    cases hs : system.roster c with
    | none => simp [System.posts, hphase, hs, Event.heard, postsTo]
    | some s =>
      rw [heard_say_posts hs]
      simp only [System.posts, hphase, hs]
  · have hnone : system.posts action = [] := by
      cases action with
      | handle c =>
        simp only [System.posts]
        split
        · rename_i message serverTimestamp s hphase hs
          have hevent : system.event (.handle c) = messageEvent c message serverTimestamp := by
            simp only [System.event, hphase]
          cases message with
          | joinVoiceRoom roomId => rfl
          | leaveVoiceRoom roomId => rfl
          | authIdentify protocolVersion clientUid => rfl
          | authResponse signatureBase64 => rfl
          | _ => exact absurd ⟨c, _, _, hevent⟩ hsay
        · rfl
      | _ => rfl
    rw [hnone, heard_no_posts hvalid (fun c message serverTimestamp he => hsay ⟨c, _, _, he⟩)]
    rfl

/-- The posts made in a run from the start of the server, in the order of their sections. -/
def postsMade (crates : Crates) (actions : List Action) : List Post :=
  Execution.outputs (System.step crates) System.posts System.default actions

lemma posts_of_run {crates : Crates} {actions : List Action} {system : System}
    (h : Execution.exec (System.step crates) System.default actions = some system) (c : ConnId) :
    (system.outbound c).filter isPost = postsTo c (postsMade crates actions) := by
  apply Execution.outputs_induction (System.step crates) System.posts
    (motive := fun _ posts system => (system.outbound c).filter isPost = postsTo c posts)
    rfl ?_ actions system h
  intro before posts system action system' hbefore ih hstep
  rw [step_posts (inv_of_reachable ⟨before, hbefore⟩) hstep, ih]
  simp [postsTo]

lemma postsTo_sublist {crates : Crates} {actions : List Action} {system : System}
    (h : Execution.exec (System.step crates) System.default actions = some system) {c : ConnId}
    {shared : List Post} (hshared : shared.Sublist ((postsMade crates actions).filter (·.audience c))) :
    (shared.map (·.message)).Sublist (system.outbound c) := by
  have hposts : (shared.map (·.message)).Sublist ((system.outbound c).filter isPost) := by
    rw [posts_of_run h c]
    exact hshared.map _
  exact hposts.trans List.filter_sublist

/-- In every run the posts in a log are exactly the posts made, in the order of the locked
sections and once each, that were meant for the connection. The posts that two connections
share stand in one order in both logs. -/
theorem delivery {crates : Crates} {actions : List Action} {system : System}
    (h : Execution.exec (System.step crates) System.default actions = some system) :
    (∀ c, (system.outbound c).filter isPost =
      ((postsMade crates actions).filter (·.audience c)).map (·.message)) ∧
    ∀ c d,
      let shared := ((postsMade crates actions).filter
        (fun post => post.audience c && post.audience d)).map (·.message)
      shared.Sublist (system.outbound c) ∧ shared.Sublist (system.outbound d) := by
  refine ⟨posts_of_run h, ?_⟩
  intro c d
  constructor
  · refine postsTo_sublist h (List.monotone_filter_right _ ?_)
    intro post hboth
    exact (Bool.and_eq_true_iff.mp hboth).1
  · refine postsTo_sublist h (List.monotone_filter_right _ ?_)
    intro post hboth
    exact (Bool.and_eq_true_iff.mp hboth).2

theorem delivery_meeting :
    ∃ post, ((Reference.final Reference.meeting).outbound 1).filter isPost = [post] ∧
      ((postsMade Reference.crates Reference.meeting).filter (·.audience 1)).map (·.message) =
        [post] := by
  obtain ⟨post, hpost⟩ := List.length_eq_one_iff.mp Reference.meeting_final.2.2.2.1
  have hdelivery := (delivery Reference.meeting_runs).1 1
  exact ⟨post, hpost, hdelivery.symm.trans hpost⟩

end VTNet.Proofs
