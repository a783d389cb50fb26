import VTNet.Downlink
import VTNet.Lib.Termination
import VTNet.Proofs.OutboundProtocol
import VTNet.Reference

/-!
# What is written is the log

However the writers and the tasks interleave, what a connection has been sent is the encoding of a
part of its log from the start. Nothing more is put on the channel of a connection that has ended,
so a writer that finds it closed has sent everything. A channel takes the log up to the return of
its writer.
-/

namespace VTNet.Proofs

section Ended

variable {crates : Crates} {system system' : System} {action : Action} {c : ConnId}

lemma hasEnded_iff : system.hasEnded c = true ↔
    ∃ task, system.tasks c = some task ∧ task.phase = .closed := by
  rw [System.hasEnded, Option.any_eq_true]
  constructor
  · rintro ⟨task, htask, hphase⟩
    refine ⟨task, htask, ?_⟩
    split at hphase
    · assumption
    · cases hphase
  · rintro ⟨task, htask, hphase⟩
    exact ⟨task, htask, by rw [hphase]⟩

/-- A task that has cleaned up does nothing more. -/
lemma actor_of_ended (h : system.hasEnded c = true)
    (hstep : system.step crates action = some system') : c ≠ action.actor := by
  obtain ⟨task, htask, hphase⟩ := hasEnded_iff.mp h
  rintro rfl
  cases System.stepped_of_step hstep with
  | accept free => cases free.symm.trans htask
  | receive _ _ _ _ running reading =>
    cases running.symm.trans htask
    cases reading.symm.trans hphase
  | handle running handling =>
    cases running.symm.trans htask
    cases handling.symm.trans hphase
  | register running registering =>
    cases running.symm.trans htask
    cases registering.symm.trans hphase
  | reply running replying =>
    cases running.symm.trans htask
    cases replying.symm.trans hphase
  | disconnect running leaving =>
    cases running.symm.trans htask
    cases leaving.symm.trans hphase

lemma ended_kept (h : system.hasEnded c = true)
    (hstep : system.step crates action = some system') : system'.hasEnded c = true := by
  obtain ⟨task, htask, hphase⟩ := hasEnded_iff.mp h
  rw [hasEnded_iff, (System.stepped_of_step hstep).task_other (actor_of_ended h hstep)]
  exact ⟨task, htask, hphase⟩

lemma roster_of_ended (hinv : Inv system) (h : system.hasEnded c = true) :
    system.roster c = none := by
  obtain ⟨task, htask, hphase⟩ := hasEnded_iff.mp h
  have hsettled := (hinv.settled c task htask).2
  rw [hphase] at hsettled
  simp [System.roster, htask, hsettled]

/-- Nothing is sent to a connection that has ended. -/
lemma log_of_ended (hinv : Inv system) (h : system.hasEnded c = true)
    (hstep : system.step crates action = some system') : system'.outbound c = system.outbound c := by
  have hactor := actor_of_ended h hstep
  have hunknown := roster_of_ended hinv h
  obtain ⟨-, hvalid, hroster, houtbound⟩ := step_refines hinv hstep
  have hobserved := observed_event hinv.tracks.distinct hvalid c
  have hroom : system.roster.room c = none := by
    rw [Roster.room, hunknown]
    rfl
  have hsame : (system.event action).next system.roster c = system.roster c := by
    rw [← hroster, System.roster, System.roster,
      (System.stepped_of_step hstep).task_other hactor]
  have hnothing : (system.event action).heard system.roster c = [] :=
    heard_nil_of_lobby hroom hsame hobserved
      (room_of_heard fun m hown => hactor (event_own hown).symm)
  rw [houtbound, hnothing, List.append_nil]

end Ended

/-! ### One writer -/

/-- What a writer has sent, and what it has taken to send, of a log. -/
structure Faithful (crates : Crates) (toJson : JsonWriter) (log : List ServerMessage)
    (hasEnded : Bool) (writer : Writer) : Prop where
  written : writer.wire.map some =
    (log.take writer.wire.length).map (encodeServerMessage crates toJson)
  receiving : writer.phase = .receiving →
    writer.received = writer.wire.length ∧ writer.received ≤ log.length
  sending : ∀ payload, writer.phase = .sending payload →
    writer.received = writer.wire.length + 1 ∧
      ∃ message, log[writer.wire.length]? = some message ∧
        encodeServerMessage crates toJson message = some payload
  returned : writer.phase = .returned →
    hasEnded = true ∧ writer.wire.length = log.length ∨ writer.wire.length < log.length

section Writers

variable {crates : Crates} {toJson : JsonWriter} {log heard : List ServerMessage}
  {hasEnded hasEnded' : Bool} {writer : Writer}

lemma faithful_start : Faithful crates toJson [] hasEnded Writer.start :=
  ⟨rfl, fun _ => ⟨rfl, le_rfl⟩, nofun, nofun⟩

lemma Faithful.length_le (h : Faithful crates toJson log hasEnded writer) :
    writer.wire.length ≤ log.length := by
  have hlength := congrArg List.length h.written
  simp only [List.length_map, List.length_take] at hlength
  omega

/-- The log goes on, unless its connection has ended. -/
lemma Faithful.append (h : Faithful crates toJson log hasEnded writer)
    (hended : hasEnded = true → hasEnded' = true ∧ heard = []) :
    Faithful crates toJson (log ++ heard) hasEnded' writer where
  written := by
    rw [List.take_append_of_le_length h.length_le]
    exact h.written
  receiving hphase := by
    obtain ⟨hreceived, hle⟩ := h.receiving hphase
    exact ⟨hreceived, hle.trans (by simp)⟩
  sending payload hphase := by
    obtain ⟨hreceived, message, hmessage, hpayload⟩ := h.sending payload hphase
    have hlt := (List.getElem?_eq_some_iff.mp hmessage).1
    exact ⟨hreceived, message, by rw [List.getElem?_append_left hlt, hmessage], hpayload⟩
  returned hphase := by
    rcases h.returned hphase with ⟨hall, hlength⟩ | hlt
    · obtain ⟨hended', rfl⟩ := hended hall
      exact Or.inl ⟨hended', by rw [List.append_nil, hlength]⟩
    · exact Or.inr (hlt.trans_le (by simp))

/-- The writer takes the next message. -/
lemma Faithful.taken (h : Faithful crates toJson log hasEnded writer)
    (hphase : writer.phase = .receiving) {message : ServerMessage}
    (hmessage : log[writer.received]? = some message) {payload : String}
    (hpayload : encodeServerMessage crates toJson message = some payload) :
    Faithful crates toJson log hasEnded ⟨writer.received + 1, .sending payload, writer.wire⟩ := by
  obtain ⟨hreceived, -⟩ := h.receiving hphase
  refine ⟨h.written, nofun, fun payload' hphase' => ?_, nofun⟩
  cases hphase'
  exact ⟨congrArg (· + 1) hreceived, message, hreceived ▸ hmessage, hpayload⟩

/-- The writer gives up on a message that it has taken. -/
lemma Faithful.stopped (h : Faithful crates toJson log hasEnded writer) (received : ℕ)
    (hlt : writer.wire.length < log.length) :
    Faithful crates toJson log hasEnded ⟨received, .returned, writer.wire⟩ :=
  ⟨h.written, nofun, nofun, fun _ => Or.inr hlt⟩

/-- The writer finds its channel closed. -/
lemma Faithful.finished (h : Faithful crates toJson log hasEnded writer)
    (hphase : writer.phase = .receiving) (hnone : log[writer.received]? = none)
    (hended : hasEnded = true) :
    Faithful crates toJson log hasEnded { writer with phase := .returned } := by
  obtain ⟨hreceived, hle⟩ := h.receiving hphase
  have hge := List.getElem?_eq_none_iff.mp hnone
  exact ⟨h.written, nofun, nofun, fun _ => Or.inl ⟨hended, by rw [← hreceived]; omega⟩⟩

/-- The socket takes the text. -/
lemma Faithful.sent (h : Faithful crates toJson log hasEnded writer) {payload : String}
    (hphase : writer.phase = .sending payload) :
    Faithful crates toJson log hasEnded
      ⟨writer.received, .receiving, writer.wire ++ [payload]⟩ := by
  obtain ⟨hreceived, message, hmessage, hpayload⟩ := h.sending payload hphase
  have hlt := (List.getElem?_eq_some_iff.mp hmessage).1
  have hlength : (writer.wire ++ [payload]).length = writer.wire.length + 1 := by simp
  refine ⟨?_, fun _ => ⟨hreceived.trans hlength.symm, by rw [hreceived]; exact hlt⟩, nofun, nofun⟩
  rw [hlength, List.take_add_one, hmessage, List.map_append, List.map_append, h.written]
  exact congrArg (_ ++ [·]) hpayload.symm

end Writers

/-! ### The server with its writers -/

structure Downstream (crates : Crates) (toJson : JsonWriter) (downlink : Downlink) : Prop where
  inv : Inv downlink.system
  faithful : ∀ c, Faithful crates toJson (downlink.system.outbound c) (downlink.system.hasEnded c)
    (downlink.writers c)

/-- Everything that a step does to the writers. -/
inductive WriterStepped (crates : Crates) (toJson : JsonWriter) (downlink : Downlink) :
    DownlinkAction → Downlink → Prop
  | serve {action : Action} {system : System}
      (served : downlink.system.step crates action = some system) :
      WriterStepped crates toJson downlink (.serve action) { downlink with system }
  | taken {c : ConnId} {message : ServerMessage} {payload : String}
      (receiving : (downlink.writers c).phase = .receiving)
      (next : (downlink.system.outbound c)[(downlink.writers c).received]? = some message)
      (encoded : encodeServerMessage crates toJson message = some payload) :
      WriterStepped crates toJson downlink (.recv c) (downlink.setWriter c
        ⟨(downlink.writers c).received + 1, .sending payload, (downlink.writers c).wire⟩)
  | refused {c : ConnId} {message : ServerMessage}
      (receiving : (downlink.writers c).phase = .receiving)
      (next : (downlink.system.outbound c)[(downlink.writers c).received]? = some message)
      (encoded : encodeServerMessage crates toJson message = none) :
      WriterStepped crates toJson downlink (.recv c) (downlink.setWriter c
        ⟨(downlink.writers c).received + 1, .returned, (downlink.writers c).wire⟩)
  | finished {c : ConnId} (receiving : (downlink.writers c).phase = .receiving)
      (next : (downlink.system.outbound c)[(downlink.writers c).received]? = none)
      (ended : downlink.system.hasEnded c = true) :
      WriterStepped crates toJson downlink (.recv c)
        (downlink.setWriter c { downlink.writers c with phase := .returned })
  | sent {c : ConnId} {payload : String} (sending : (downlink.writers c).phase = .sending payload) :
      WriterStepped crates toJson downlink (.send c true) (downlink.setWriter c
        ⟨(downlink.writers c).received, .receiving, (downlink.writers c).wire ++ [payload]⟩)
  | failed {c : ConnId} {payload : String}
      (sending : (downlink.writers c).phase = .sending payload) :
      WriterStepped crates toJson downlink (.send c false)
        (downlink.setWriter c { downlink.writers c with phase := .returned })

section Steps

variable {crates : Crates} {toJson : JsonWriter} {downlink downlink' : Downlink}
  {action : DownlinkAction} {c : ConnId}

lemma writerStepped_of_step (h : downlink.step crates toJson action = some downlink') :
    WriterStepped crates toJson downlink action downlink' := by
  cases action with
  | serve action =>
    obtain ⟨system, hsystem, h⟩ := Option.bind_eq_some_iff.mp h
    cases h
    exact .serve hsystem
  | recv c =>
    simp only [Downlink.step] at h
    split at h
    · rename_i message hphase hnext
      split at h
      · rename_i payload hpayload
        cases h
        exact .taken hphase hnext hpayload
      · rename_i hpayload
        cases h
        exact .refused hphase hnext hpayload
    · rename_i hphase hnext
      split at h
      · rename_i hended
        cases h
        exact .finished hphase hnext hended
      · cases h
    · cases h
  | send c isOk =>
    simp only [Downlink.step] at h
    split at h
    · rename_i payload hphase
      cases isOk with
      | true =>
        cases h
        exact .sent hphase
      | false =>
        cases h
        exact .failed hphase
    · cases h

lemma Downstream.setWriter (h : Downstream crates toJson downlink) {writer : Writer}
    (hwriter : Faithful crates toJson (downlink.system.outbound c) (downlink.system.hasEnded c)
      writer) : Downstream crates toJson (downlink.setWriter c writer) := by
  refine ⟨h.inv, fun d => ?_⟩
  by_cases hd : d = c
  · subst hd
    simp only [Downlink.setWriter, Function.update_self]
    exact hwriter
  · simp only [Downlink.setWriter, Function.update_of_ne hd]
    exact h.faithful d

lemma Downstream.step (h : Downstream crates toJson downlink)
    (hstep : downlink.step crates toJson action = some downlink') :
    Downstream crates toJson downlink' := by
  cases writerStepped_of_step hstep with
  | serve served =>
    refine ⟨(step_refines h.inv served).inv, fun c => ?_⟩
    rw [(step_refines h.inv served).outbound c]
    refine (h.faithful c).append (fun hended => ⟨ended_kept hended served, ?_⟩)
    have hlog := log_of_ended h.inv hended served
    rw [(step_refines h.inv served).outbound c] at hlog
    exact List.append_right_eq_self.mp hlog
  | @taken c message payload receiving next encoded =>
    exact h.setWriter ((h.faithful c).taken receiving next encoded)
  | @refused c message receiving next =>
    obtain ⟨hreceived, -⟩ := (h.faithful c).receiving receiving
    have hlt := (List.getElem?_eq_some_iff.mp next).1
    exact h.setWriter ((h.faithful c).stopped _ (hreceived ▸ hlt))
  | @finished c receiving next ended =>
    exact h.setWriter ((h.faithful c).finished receiving next ended)
  | @sent c payload sending => exact h.setWriter ((h.faithful c).sent sending)
  | @failed c payload sending =>
    obtain ⟨-, message, hmessage, -⟩ := (h.faithful c).sending payload sending
    exact h.setWriter ((h.faithful c).stopped _ (List.getElem?_eq_some_iff.mp hmessage).1)

lemma downstream_of_reachable
    (h : Execution.Reachable (Downlink.step crates toJson) Downlink.start downlink) :
    Downstream crates toJson downlink := by
  refine Execution.invariant_of_step ⟨?_, fun _ => faithful_start⟩
    (fun _ _ _ hdown hstep => hdown.step hstep) h
  exact inv_of_reachable (Execution.Reachable.refl (System.step crates) System.default)

/-- What does not change any more behind a connection. -/
structure Later (c : ConnId) (downlink downlink' : Downlink) : Prop where
  wire : (downlink.writers c).wire <+: (downlink'.writers c).wire
  returned : (downlink.writers c).phase = .returned → downlink'.writers c = downlink.writers c
  ended : downlink.system.hasEnded c = true → downlink'.system.hasEnded c = true ∧
    downlink'.system.outbound c = downlink.system.outbound c

lemma Later.refl (c : ConnId) (downlink : Downlink) : Later c downlink downlink :=
  ⟨List.prefix_rfl, fun _ => rfl, fun hended => ⟨hended, rfl⟩⟩

lemma later_setWriter {d : ConnId} {writer : Writer}
    (hrunning : (downlink.writers d).phase ≠ .returned)
    (hwire : (downlink.writers d).wire <+: writer.wire) :
    Later c downlink (downlink.setWriter d writer) := by
  by_cases hd : c = d
  · subst hd
    refine ⟨?_, fun h => absurd h hrunning, fun hended => ⟨hended, rfl⟩⟩
    simpa only [Downlink.setWriter, Function.update_self] using hwire
  · have hsame : (downlink.setWriter d writer).writers c = downlink.writers c :=
      Function.update_of_ne hd ..
    exact ⟨by rw [hsame], fun _ => hsame, fun hended => ⟨hended, rfl⟩⟩

lemma later_of_step (h : Downstream crates toJson downlink)
    (hstep : downlink.step crates toJson action = some downlink') : Later c downlink downlink' := by
  cases writerStepped_of_step hstep with
  | serve served =>
    exact ⟨List.prefix_rfl, fun _ => rfl,
      fun hended => ⟨ended_kept hended served, log_of_ended h.inv hended served⟩⟩
  | taken receiving => exact later_setWriter (by rw [receiving]; nofun) List.prefix_rfl
  | refused receiving => exact later_setWriter (by rw [receiving]; nofun) List.prefix_rfl
  | finished receiving => exact later_setWriter (by rw [receiving]; nofun) List.prefix_rfl
  | sent sending => exact later_setWriter (by rw [sending]; nofun) (List.prefix_append ..)
  | failed sending => exact later_setWriter (by rw [sending]; nofun) List.prefix_rfl

lemma Later.trans {downlink'' : Downlink} (h : Later c downlink downlink')
    (h' : Later c downlink' downlink'') : Later c downlink downlink'' where
  wire := h.wire.trans h'.wire
  returned hphase := by
    have hsame := h.returned hphase
    exact (h'.returned (by rw [hsame, hphase])).trans hsame
  ended hended := by
    obtain ⟨hended', hlog⟩ := h.ended hended
    obtain ⟨hended'', hlog'⟩ := h'.ended hended'
    exact ⟨hended'', hlog'.trans hlog⟩

lemma later_of_reachable (hdown : Downstream crates toJson downlink)
    (h : Execution.Reachable (Downlink.step crates toJson) downlink downlink') (c : ConnId) :
    Downstream crates toJson downlink' ∧ Later c downlink downlink' := by
  refine @Execution.invariant_of_step _ _ _
    (fun downlink' => Downstream crates toJson downlink' ∧ Later c downlink downlink') _
    ⟨hdown, .refl c downlink⟩ ?_ _ h
  rintro now action next ⟨hnow, hlater⟩ hstep
  exact ⟨hnow.step hstep, hlater.trans (later_of_step hnow hstep)⟩

/-! ### What the channels take -/

lemma accepted_of_returned (h : (downlink.writers c).phase = .returned) (action : DownlinkAction) :
    downlink.accepted crates c action = [] := by
  cases action with
  | serve action =>
    simp only [Downlink.accepted, if_pos h]
    split
    · rfl
    · rfl
  | recv | send => rfl

/-- Until its writer has returned, a channel takes what its log goes on with. -/
lemma log_of_accepted (h : Downstream crates toJson downlink)
    (hstep : downlink.step crates toJson action = some downlink')
    (hrunning : (downlink.writers c).phase ≠ .returned) :
    downlink'.system.outbound c =
      downlink.system.outbound c ++ downlink.accepted crates c action := by
  cases writerStepped_of_step hstep with
  | @serve action system served =>
    have hlog := (step_refines h.inv served).outbound c
    simp only [Downlink.accepted, served, if_neg hrunning]
    rw [hlog, List.drop_left]
  | _ => exact (List.append_nil _).symm

/-- The log of a connection goes on at its end. -/
lemma log_extends (h : Downstream crates toJson downlink)
    (hstep : downlink.step crates toJson action = some downlink') :
    downlink.system.outbound c <+: downlink'.system.outbound c := by
  cases writerStepped_of_step hstep with
  | serve served =>
    rw [(step_refines h.inv served).outbound c]
    exact List.prefix_append ..
  | _ => exact List.prefix_rfl

/-- What a channel has taken, of the log of its connection. -/
structure Takes (c : ConnId) (taken : List ServerMessage) (downlink : Downlink) : Prop where
  of_log : taken <+: downlink.system.outbound c
  running : (downlink.writers c).phase ≠ .returned → taken = downlink.system.outbound c
  wire : (downlink.writers c).wire.length ≤ taken.length

lemma Takes.step {taken : List ServerMessage} (h : Takes c taken downlink)
    (hdown : Downstream crates toJson downlink)
    (hstep : downlink.step crates toJson action = some downlink') :
    Takes c (taken ++ downlink.accepted crates c action) downlink' := by
  by_cases hphase : (downlink.writers c).phase = .returned
  · have hsame := (later_of_step hdown hstep).returned hphase
    rw [accepted_of_returned hphase, List.append_nil]
    exact ⟨h.of_log.trans (log_extends hdown hstep), fun hrunning => absurd (hsame ▸ hphase) hrunning,
      hsame ▸ h.wire⟩
  · rw [h.running hphase, ← log_of_accepted hdown hstep hphase]
    exact ⟨List.prefix_rfl, fun _ => rfl, ((hdown.step hstep).faithful c).length_le⟩

lemma takes_of_run {actions : List DownlinkAction}
    (h : Execution.exec (Downlink.step crates toJson) Downlink.start actions = some downlink)
    (c : ConnId) : Takes c (Execution.outputs (Downlink.step crates toJson)
      (Downlink.accepted crates c) Downlink.start actions) downlink := by
  refine Execution.outputs_induction (Downlink.step crates toJson) (Downlink.accepted crates c)
    (motive := fun _ taken downlink => Takes c taken downlink)
    ⟨List.prefix_rfl, fun _ => rfl, le_rfl⟩ ?_ actions downlink h
  intro before taken now action next hbefore htakes hstep
  exact htakes.step (downstream_of_reachable ⟨before, hbefore⟩) hstep

/-- A channel takes nothing more once its writer has returned. -/
lemma silent_of_returned (h : Downstream crates toJson downlink)
    (hphase : (downlink.writers c).phase = .returned) (actions : List DownlinkAction) :
    Execution.outputs (Downlink.step crates toJson) (Downlink.accepted crates c) downlink actions =
      [] := by
  refine Execution.outputs_eq_nil _ _
    (fun downlink => Downstream crates toJson downlink ∧ (downlink.writers c).phase = .returned)
    ?_ (fun _ action hinv => accepted_of_returned hinv.2 action) ⟨h, hphase⟩ actions
  rintro now action next ⟨hnow, hreturned⟩ hstep
  rw [(later_of_step hnow hstep).returned hreturned]
  exact ⟨hnow.step hstep, hreturned⟩

/-- What a channel has taken is the log of its connection up to the return of its writer: all of it
before that, and nothing more afterwards. What has been sent on are the texts of a part of that. -/
theorem channels_take_logs {actions : List DownlinkAction}
    (h : Execution.exec (Downlink.step crates toJson) Downlink.start actions = some downlink)
    (c : ConnId) : ∃ taken : List ServerMessage,
      taken <+: downlink.system.outbound c ∧
      ((downlink.writers c).phase ≠ .returned → taken = downlink.system.outbound c) ∧
      (∀ later, later = [] ∨ (downlink.writers c).phase = .returned →
        Execution.outputs (Downlink.step crates toJson) (Downlink.accepted crates c) Downlink.start
          (actions ++ later) = taken) ∧
      (downlink.writers c).wire.map some =
        (taken.take (downlink.writers c).wire.length).map (encodeServerMessage crates toJson) := by
  have hdown := downstream_of_reachable ⟨actions, h⟩
  have htakes := takes_of_run h c
  refine ⟨_, htakes.of_log, htakes.running, ?_, ?_⟩
  · rintro later (rfl | hphase)
    · rw [List.append_nil]
    · rw [Execution.outputs_append _ _ later h, silent_of_returned hdown hphase, List.append_nil]
  · obtain ⟨rest, hrest⟩ := htakes.of_log
    rw [(hdown.faithful c).written, ← hrest, List.take_append_of_le_length htakes.wire]

/-- How often a writer can go on with a log. -/
def writerWork (length : ℕ) (writer : Writer) : ℕ :=
  2 * (length - writer.received) + match writer.phase with
    | .receiving => 1
    | .sending _ => 2
    | .returned => 0

/-- A connection that has ended, while only its writer goes on and its socket takes the texts. -/
structure Draining (crates : Crates) (toJson : JsonWriter) (log : List ServerMessage)
    (c : ConnId) (downlink : Downlink) : Prop where
  downstream : Downstream crates toJson downlink
  ended : downlink.system.hasEnded c = true
  complete : (downlink.writers c).phase = .returned →
    (downlink.writers c).wire.length = log.length
  log : downlink.system.outbound c = log

lemma Draining.step {log : List ServerMessage} (h : Draining crates toJson log c downlink)
    (hencodes : ∀ message ∈ log, (encodeServerMessage crates toJson message).isSome = true)
    (haction : action = .recv c ∨ action = .send c true)
    (hstep : downlink.step crates toJson action = some downlink') :
    Draining crates toJson log c downlink' ∧
      writerWork log.length (downlink'.writers c) < writerWork log.length (downlink.writers c) := by
  have hdown := h.downstream.step hstep
  have hfaithful := h.downstream.faithful c
  rw [h.log] at hfaithful
  cases writerStepped_of_step hstep with
  | serve => rcases haction with haction | haction <;> cases haction
  | @taken d message payload receiving next encoded =>
    obtain rfl : d = c := by
      rcases haction with haction | haction <;> cases haction
      rfl
    rw [h.log] at next
    have hlt := (List.getElem?_eq_some_iff.mp next).1
    refine ⟨⟨hdown, h.ended, ?_, h.log⟩, ?_⟩
    · simp [Downlink.setWriter]
    · simp only [Downlink.setWriter, Function.update_self, writerWork, receiving]
      omega
  | @refused d message receiving next encoded =>
    obtain rfl : d = c := by
      rcases haction with haction | haction <;> cases haction
      rfl
    rw [h.log] at next
    have hencoded := hencodes message (List.mem_of_getElem? next)
    rw [encoded] at hencoded
    cases hencoded
  | @finished d receiving next ended =>
    obtain rfl : d = c := by
      rcases haction with haction | haction <;> cases haction
      rfl
    rw [h.log] at next
    obtain ⟨hreceived, hle⟩ := hfaithful.receiving receiving
    have hge := List.getElem?_eq_none_iff.mp next
    refine ⟨⟨hdown, h.ended, fun _ => ?_, h.log⟩, ?_⟩
    · simp only [Downlink.setWriter, Function.update_self]
      omega
    · simp only [Downlink.setWriter, Function.update_self, writerWork, receiving]
      omega
  | @sent d payload sending =>
    obtain rfl : d = c := by
      rcases haction with haction | haction <;> cases haction
      rfl
    refine ⟨⟨hdown, h.ended, ?_, h.log⟩, ?_⟩
    · simp [Downlink.setWriter]
    · simp only [Downlink.setWriter, Function.update_self, writerWork, sending]
      omega
  | failed => rcases haction with haction | haction <;> cases haction

end Steps

/-- However tasks and writers interleave, a connection has been sent the encodings of its log in
order, up to where its writer is. A connection that has ended has no sender left, and a writer that
has returned has sent all that its connection is ever sent, or has stopped at one of its messages. -/
theorem writers_send_logs {crates : Crates} {toJson : JsonWriter} {downlink : Downlink}
    (h : Execution.Reachable (Downlink.step crates toJson) Downlink.start downlink) (c : ConnId) :
    (downlink.writers c).wire.map some =
        ((downlink.system.outbound c).take (downlink.writers c).wire.length).map
          (encodeServerMessage crates toJson) ∧
      (downlink.system.hasEnded c = true → ∀ uid, downlink.system.state.connections uid ≠ some c) ∧
      ∀ downlink', Execution.Reachable (Downlink.step crates toJson) downlink downlink' →
        (downlink.writers c).wire <+: (downlink'.writers c).wire ∧
        ((downlink.writers c).phase = .returned → downlink'.writers c = downlink.writers c ∧
          ((downlink'.writers c).wire.map some =
              (downlink'.system.outbound c).map (encodeServerMessage crates toJson) ∨
            (downlink.writers c).wire.length < (downlink.system.outbound c).length)) := by
  have hdown := downstream_of_reachable h
  have hfaithful := hdown.faithful c
  refine ⟨hfaithful.written, fun hended uid hconnected => ?_, fun downlink' hreach => ?_⟩
  · obtain ⟨s, hs, -⟩ := (hdown.inv.tracks.connections_iff uid c).mp hconnected
    rw [roster_of_ended hdown.inv hended] at hs
    cases hs
  · obtain ⟨-, hlater⟩ := later_of_reachable hdown hreach c
    refine ⟨hlater.wire, fun hphase => ⟨hlater.returned hphase, ?_⟩⟩
    refine (hfaithful.returned hphase).imp_left ?_
    rintro ⟨hended, hlength⟩
    rw [hlater.returned hphase, (hlater.ended hended).2, hfaithful.written, hlength,
      List.take_length]

/-- A connection gets its challenge and ends. -/
def farewell : List DownlinkAction :=
  [.serve (.accept 0),
    .serve (Reference.receive 0 Reference.first (Reference.identifyText Reference.first)),
    .serve (.reply 0), .serve (.receive 0 .failed Reference.first.nonce 0 0),
    .serve (.disconnect 0)]

def drained : List DownlinkAction := [.recv 0, .send 0 true, .recv 0]

/-- Whether the connection has ended, how long its log is, and how far its writer is. -/
def progress (downlink : Downlink) : Bool × ℕ × WriterPhase × ℕ :=
  (downlink.system.hasEnded 0, (downlink.system.outbound 0).length, (downlink.writers 0).phase,
    (downlink.writers 0).wire.length)

lemma farewell_leaves : ∃ downlink downlink',
    Execution.exec (Downlink.step Reference.crates Reference.toJson) Downlink.start farewell =
        some downlink ∧
      Execution.exec (Downlink.step Reference.crates Reference.toJson) downlink drained =
        some downlink' ∧
      progress downlink = (true, 1, .receiving, 0) ∧ progress downlink' = (true, 1, .returned, 1) := by
  have hrun : ((Execution.exec (Downlink.step Reference.crates Reference.toJson) Downlink.start
      farewell).bind fun downlink =>
        (Execution.exec (Downlink.step Reference.crates Reference.toJson) downlink drained).map
          fun downlink' => (progress downlink, progress downlink')) =
      some ((true, 1, .receiving, 0), (true, 1, .returned, 1)) := by
    decide +kernel
  obtain ⟨downlink, hexec, hrun⟩ := Option.bind_eq_some_iff.mp hrun
  obtain ⟨downlink', hexec', hrun⟩ := Option.map_eq_some_iff.mp hrun
  obtain ⟨hbefore, hafter⟩ := Prod.mk.inj hrun
  exact ⟨downlink, downlink', hexec, hexec', hbefore, hafter⟩

theorem writers_send_logs_farewell : ∃ downlink,
    Execution.exec (Downlink.step Reference.crates Reference.toJson) Downlink.start
        (farewell ++ drained) = some downlink ∧
      (downlink.writers 0).phase = .returned ∧
      (downlink.writers 0).wire.map some =
        (downlink.system.outbound 0).map (encodeServerMessage Reference.crates Reference.toJson) := by
  obtain ⟨before, downlink, hfarewell, hdrained, -, hprogress⟩ := farewell_leaves
  simp only [progress, Prod.mk.injEq] at hprogress
  obtain ⟨-, hlog, hphase, hwire⟩ := hprogress
  have hexec := Execution.exec_append_of _ hfarewell hdrained
  obtain ⟨-, -, hlater⟩ := writers_send_logs ⟨_, hexec⟩ 0
  obtain ⟨-, hreturned⟩ := hlater downlink (Execution.Reachable.refl _ _)
  refine ⟨downlink, hexec, hphase, (hreturned hphase).2.resolve_right ?_⟩
  rw [hwire, hlog]
  exact lt_irrefl 1

/-- While the socket takes its texts, the writer of a connection that has ended, if it has not yet
returned, sends what is left of the log in a bounded number of steps and returns. -/
theorem ended_connections_drain {crates : Crates} {toJson : JsonWriter} {downlink : Downlink}
    (h : Execution.Reachable (Downlink.step crates toJson) Downlink.start downlink) {c : ConnId}
    (hended : downlink.system.hasEnded c = true)
    (hencodes : ∀ message ∈ downlink.system.outbound c,
      (encodeServerMessage crates toJson message).isSome = true)
    (hrunning : (downlink.writers c).phase ≠ .returned) :
    ∀ actions downlink', (∀ action ∈ actions, action = .recv c ∨ action = .send c true) →
      Execution.exec (Downlink.step crates toJson) downlink actions = some downlink' →
      actions.length ≤ 2 * (downlink.system.outbound c).length + 2 ∧
        ((∀ action, action = .recv c ∨ action = .send c true →
            downlink'.step crates toJson action = none) →
          (downlink'.writers c).phase = .returned ∧
            (downlink'.writers c).wire.map some =
              (downlink.system.outbound c).map (encodeServerMessage crates toJson)) := by
  intro actions downlink' hactions hexec
  have hdraining : Draining crates toJson (downlink.system.outbound c) c downlink :=
    ⟨downstream_of_reachable h, hended, fun hphase => absurd hphase hrunning, rfl⟩
  obtain ⟨hdraining', hlength⟩ := Execution.length_le_of_decreasing
    (fun downlink => writerWork _ (downlink.writers c))
    (fun _ _ _ hdraining haction hstep => hdraining.step hencodes haction hstep)
    actions downlink downlink' hdraining hactions hexec
  have hbound : writerWork (downlink.system.outbound c).length (downlink.writers c) ≤
      2 * (downlink.system.outbound c).length + 2 := by
    unfold writerWork
    split <;> omega
  refine ⟨by omega, fun hstuck => ?_⟩
  have hfaithful := hdraining'.downstream.faithful c
  rw [hdraining'.log, hdraining'.ended] at hfaithful
  have hphase : (downlink'.writers c).phase = .returned := by
    cases hphase : (downlink'.writers c).phase with
    | returned => rfl
    | sending payload =>
      have hsend := hstuck (.send c true) (Or.inr rfl)
      simp [Downlink.step, hphase] at hsend
    | receiving =>
      have hrecv := hstuck (.recv c) (Or.inl rfl)
      cases hnext : (downlink.system.outbound c)[(downlink'.writers c).received]? with
      | none => simp [Downlink.step, hphase, hdraining'.log, hdraining'.ended, hnext] at hrecv
      | some message =>
        cases hencode : encodeServerMessage crates toJson message with
        | none => simp [Downlink.step, hphase, hdraining'.log, hnext, hencode] at hrecv
        | some payload => simp [Downlink.step, hphase, hdraining'.log, hnext, hencode] at hrecv
  refine ⟨hphase, ?_⟩
  rw [hfaithful.written, hdraining'.complete hphase, List.take_length]

theorem ended_connections_drain_farewell : ∃ downlink downlink',
    Execution.exec (Downlink.step Reference.crates Reference.toJson) Downlink.start farewell =
        some downlink ∧
      Execution.exec (Downlink.step Reference.crates Reference.toJson) downlink drained =
        some downlink' ∧
      drained.length ≤ 2 * (downlink.system.outbound 0).length + 2 ∧
      (downlink'.writers 0).wire.map some =
        (downlink.system.outbound 0).map
          (encodeServerMessage Reference.crates Reference.toJson) := by
  obtain ⟨downlink, downlink', hfarewell, hdrained, hbefore, hafter⟩ := farewell_leaves
  simp only [progress, Prod.mk.injEq] at hbefore hafter
  have hrunning : (downlink.writers 0).phase ≠ .returned := by
    rw [hbefore.2.2.1]
    nofun
  have hactions : ∀ action ∈ drained, action = .recv 0 ∨ action = .send 0 true := by
    simp [drained]
  obtain ⟨hlength, hstuck⟩ := ended_connections_drain ⟨_, hfarewell⟩ hbefore.1 (fun _ _ => rfl)
    hrunning drained downlink' hactions hdrained
  refine ⟨downlink, downlink', hfarewell, hdrained, hlength, (hstuck ?_).2⟩
  rintro action (rfl | rfl) <;> simp [Downlink.step, hafter.2.2.1]

end VTNet.Proofs
