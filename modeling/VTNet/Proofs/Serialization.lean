import VTNet.Serial
import VTNet.Proofs.TwoRuns
import VTNet.Proofs.OutboundProtocol

/-!
# Frames are handled as if one at a time

Between the frame that a task receives, the lock that it takes and the reply that it sends, others
act. A server that handles every frame in one go, when its task gets the lock, has the same rooms,
connections and sessions at every moment, and the same logs wherever a task is not about to reply.
-/

namespace VTNet.Proofs

lemma not_waits_of_rests {phase : Phase} (hrests : phase.rests = true)
    (hwaits : phase.waitsForLock = true) : False := by
  cases phase with
  | handling | registering | replying => cases hrests
  | reading | leaving | closed => cases hwaits

lemma phase_of_not_waits {phase : Phase} (h : phase.waitsForLock = false) :
    phase.rests = true ∨ ∃ m, phase = .replying m := by
  cases phase with
  | handling | registering => cases h
  | reading | leaving | closed => exact Or.inl rfl
  | replying m => exact Or.inr ⟨m, rfl⟩

/-- How the serial server stands to the server, seen from one connection. -/
inductive Abreast (crates : Crates) (tracked : Tracked) (serial : System) (c : ConnId) : Prop
  | level (rests : ∀ task, tracked.system.tasks c = some task → task.phase.rests = true)
      (task : serial.tasks c = tracked.system.tasks c)
      (log : serial.outbound c = tracked.system.outbound c) : Abreast crates tracked serial c
  | behind {task : SocketTask} {frame : Frame} {nonce : Nonce} {serverTimestamp : UInt64}
      {now : Instant} (begun : tracked.begun c = some (.serve c frame nonce serverTimestamp now))
      (before : serial.tasks c = some task) (reading : task.phase = .reading)
      (received : tracked.system.tasks c =
        some (task.receive crates frame nonce serverTimestamp now))
      (waits : (task.receive crates frame nonce serverTimestamp now).phase.waitsForLock = true)
      (log : serial.outbound c = tracked.system.outbound c) : Abreast crates tracked serial c
  | ahead {task : SocketTask} {m : ServerMessage} (running : tracked.system.tasks c = some task)
      (replying : task.phase = .replying m)
      (replied : serial.tasks c = some { task with phase := .reading })
      (log : serial.outbound c = tracked.system.outbound c ++ [m]) : Abreast crates tracked serial c

structure Serialized (crates : Crates) (tracked : Tracked) (serial : System) : Prop where
  inv : Inv tracked.system
  inv' : Inv serial
  abreast : ∀ c, Abreast crates tracked serial c

/-- What a turn of `c` does to the other connections. -/
structure Moved (c : ConnId) (heard : ConnId → List ServerMessage) (system system' : System) :
    Prop where
  inv : Inv system'
  tasks : ∀ d, d ≠ c → system'.tasks d = system.tasks d
  outbound : ∀ d, d ≠ c → system'.outbound d = system.outbound d ++ heard d

section Steps

variable {crates : Crates} {tracked tracked' : Tracked} {system system' serial serial' : System}
  {action : Action} {c d : ConnId} {task : SocketTask} {m : ServerMessage}
  {heard heard' : ConnId → List ServerMessage}

lemma Moved.silently (h : Moved c heard system serial) (h' : Moved c (fun _ => []) serial serial') :
    Moved c heard system serial' :=
  ⟨h'.inv, fun d hd => (h'.tasks d hd).trans (h.tasks d hd),
    fun d hd => by rw [h'.outbound d hd, h.outbound d hd, List.append_nil]⟩

lemma Moved.after_silent (h : Moved c (fun _ => []) system serial) (h' : Moved c heard serial serial') :
    Moved c heard system serial' :=
  ⟨h'.inv, fun d hd => (h'.tasks d hd).trans (h.tasks d hd),
    fun d hd => by rw [h'.outbound d hd, h.outbound d hd, List.append_nil]⟩

lemma moved_of_step (h : Inv system) (hstep : system.step crates action = some system') :
    Moved action.actor (fun d => (system.event action).heard system.roster d) system system' :=
  ⟨(step_refines h hstep).inv, fun _ hd => (System.stepped_of_step hstep).task_other hd,
    fun d _ => (step_refines h hstep).outbound d⟩

/-! ### The serial server's turn -/

lemma goOn_of_rests (h : ∀ task, system.tasks c = some task → task.phase.rests = true) :
    system.goOn crates c = some system := by
  unfold System.goOn
  cases htask : system.tasks c with
  | none => rfl
  | some task =>
    have hrests := h task htask
    rw [Option.bind_some]
    cases hphase : task.phase with
    | reading | leaving | closed => rfl
    | _ =>
      rw [hphase] at hrests
      cases hrests

lemma on_task {P : SocketTask → Prop} (htask : system.tasks c = some task) (h : P task) :
    ∀ task', system.tasks c = some task' → P task' := by
  intro task' htask'
  rw [htask, Option.some.injEq] at htask'
  rwa [← htask']

lemma goOn_of_phase (htask : system.tasks c = some task)
    (hphase : task.phase.goesOn c = some action) :
    system.goOn crates c = system.step crates action := by
  simp [System.goOn, htask, hphase]

/-- The reply of a task, of which no other connection hears. -/
lemma goOn_of_replying (crates : Crates) (h : Inv system) (htask : system.tasks c = some task)
    (hphase : task.phase = .replying m) : ∃ system', system.goOn crates c = some system' ∧
      Moved c (fun _ => []) system system' ∧
      system'.tasks c = some { task with phase := .reading } ∧
      system'.outbound c = system.outbound c ++ [m] := by
  have hstep : system.step crates (.reply c) = some
      { system.setTask c { task with phase := .reading } with
        outbound := system.outbound.send c m } := step_of_stepped (.reply htask hphase)
  have hevent : system.event (.reply c) = .own c m := by
    simp [System.event, htask, hphase]
  refine ⟨_, (goOn_of_phase htask (by rw [hphase]; rfl)).trans hstep, ?_, setTask_self .., ?_⟩
  · refine ⟨(step_refines h hstep).inv, (moved_of_step h hstep).tasks, fun d hd => ?_⟩
    rw [(step_refines h hstep).outbound d, hevent]
    simp [Event.heard, hd]
  · rw [(step_refines h hstep).outbound c, hevent]
    simp [Event.heard]

/-! ### One action -/

lemma Abreast.session (h : Abreast crates tracked serial c) :
    serial.roster c = tracked.system.roster c := by
  cases h with
  | level rests task log => rw [System.roster, System.roster, task]
  | behind begun before reading received =>
    rw [roster_of_task before, roster_of_task received, receive_session]
  | ahead running replying replied => rw [roster_of_task replied, roster_of_task running]

lemma Serialized.roster (h : Serialized crates tracked serial) :
    serial.roster = tracked.system.roster := by
  funext c
  exact (h.abreast c).session

lemma Serialized.state (h : Serialized crates tracked serial) :
    serial.state = tracked.system.state := by
  have htracks := h.inv'.tracks
  rw [h.roster] at htracks
  exact htracks.unique h.inv.tracks

/-- Who is in no room hears nothing of what another connection does. -/
lemma heard_nil_of_other (h : Inv system) (hstep : system.step crates action = some system')
    (hd : d ≠ action.actor) (hroom : system.roster.room d = none) :
    (system.event action).heard system.roster d = [] := by
  have hrefines := step_refines h hstep
  have hsame : system'.roster d = system.roster d := by
    simp only [System.roster, (System.stepped_of_step hstep).task_other hd]
  have hobs := observed_event h.tracks.distinct hrefines.valid d
  rw [← hrefines.roster] at hobs
  exact heard_nil_of_lobby hroom hsame hobs
    (room_of_heard (fun m hown => hd (event_own hown).symm))

/-- A task that is about to reply is in no room. -/
lemma lobby_of_replying (h : Inv system) (htask : system.tasks c = some task)
    (hphase : task.phase = .replying m) : system.roster.room c = none := by
  have hsettled := (h.settled c task htask).2
  rw [hphase] at hsettled
  rcases hsettled with ⟨-, hsession, -⟩ | ⟨-, session, hsession, hroom, -⟩
  · simp [Roster.room, roster_of_task htask, hsession]
  · rw [Roster.room_of_some ((roster_of_task htask).trans hsession), hroom]

/-- The other connections stay as they stand to each other. -/
lemma Serialized.step (h : Serialized crates tracked serial)
    (hstep : tracked.system.step crates action = some tracked'.system)
    (hbegun : ∀ d, d ≠ action.actor → tracked'.begun d = tracked.begun d)
    (hmoved : Moved action.actor
      (fun d => (tracked.system.event action).heard tracked.system.roster d) serial serial')
    (hactor : Abreast crates tracked' serial' action.actor) : Serialized crates tracked' serial' := by
  have hmoved' := moved_of_step h.inv hstep
  refine ⟨hmoved'.inv, hmoved.inv, fun d => ?_⟩
  by_cases hd : d = action.actor
  · rw [hd]
    exact hactor
  · have htask := hmoved.tasks d hd
    have htask' := hmoved'.tasks d hd
    have hlog := hmoved.outbound d hd
    have hlog' := hmoved'.outbound d hd
    cases h.abreast d with
    | level rests task log =>
      refine .level ?_ (by rw [htask, htask', task]) (by rw [hlog, hlog', log])
      rw [htask']
      exact rests
    | behind begun before reading received waits log =>
      exact .behind ((hbegun d hd).trans begun) (htask.trans before) reading
        (htask'.trans received) waits (by rw [hlog, hlog', log])
    | ahead running replying replied log =>
      have hnothing := heard_nil_of_other h.inv hstep hd (lobby_of_replying h.inv running replying)
      simp only [hnothing, List.append_nil] at hlog hlog'
      exact .ahead (htask'.trans running) replying (htask.trans replied) (by rw [hlog, hlog', log])

/-- Seen from `c`, the two servers are at the same point. -/
def Level (c : ConnId) (system serial : System) : Prop :=
  Alike (fun d => d ≠ c) (fun d => d = c) system serial

/-- From the same point both do the same. -/
lemma Level.step (h : Level action.actor system serial)
    (hstep : system.step crates action = some system') :
    ∃ serial', serial.step crates action = some serial' ∧ Level action.actor system' serial' ∧
      Moved action.actor (fun d => (system.event action).heard system.roster d) serial serial' := by
  obtain ⟨serial', hstep', halike⟩ := Alike.step h (not_not.mpr rfl) hstep
  refine ⟨serial', hstep', halike, ?_⟩
  have hmoved := moved_of_step h.inv' hstep'
  rwa [← h.roster, ← event_congr h.state (h.tasks _ (not_not.mpr rfl))] at hmoved

lemma Level.tasks_eq (h : Level c system serial) : serial.tasks c = system.tasks c :=
  (h.tasks c (not_not.mpr rfl)).symm

lemma Level.log (h : Level c system serial) : serial.outbound c = system.outbound c :=
  (h.outbound c rfl).symm

lemma Level.abreast (h : Level c tracked.system serial)
    (hrests : ∀ task, tracked.system.tasks c = some task → task.phase.rests = true) :
    Abreast crates tracked serial c :=
  .level hrests h.tasks_eq h.log

lemma Serialized.level (h : Serialized crates tracked serial)
    (htask : serial.tasks c = tracked.system.tasks c)
    (hlog : serial.outbound c = tracked.system.outbound c) : Level c tracked.system serial := by
  refine ⟨h.inv, h.inv', h.roster.symm, fun d hd => ?_, fun d hd => ?_⟩
  · rw [not_not.mp hd, htask]
  · rw [hd, hlog]

/-- Where a task that rests acts, the serial server has got as far. -/
lemma Serialized.level_of_rests (h : Serialized crates tracked serial)
    (hrests : ∀ task, tracked.system.tasks c = some task → task.phase.rests = true) :
    Level c tracked.system serial := by
  cases h.abreast c with
  | level _ task log => exact h.level task log
  | behind begun before reading received waits log =>
    exact (not_waits_of_rests (hrests _ received) waits).elim
  | ahead running replying =>
    have hphase := hrests _ running
    rw [replying] at hphase
    cases hphase

/-- The serial server catches up with the frame that the task has received. -/
lemma Serialized.catch_up (h : Serialized crates tracked serial)
    (hreceived : tracked.system.tasks c = some task) (hwaits : task.phase.waitsForLock = true) :
    ∃ frame nonce serverTimestamp now received,
      tracked.begun c = some (.serve c frame nonce serverTimestamp now) ∧
      serial.step crates (.receive c frame nonce serverTimestamp now) = some received ∧
      Moved c (fun _ => []) serial received ∧ Level c tracked.system received := by
  cases h.abreast c with
  | level rests _ _ =>
    exact (not_waits_of_rests (rests task hreceived) hwaits).elim
  | @behind before frame nonce serverTimestamp now begun before' reading received' waits log =>
    have hstep : serial.step crates (.receive c frame nonce serverTimestamp now) =
        some (serial.setTask c (before.receive crates frame nonce serverTimestamp now)) :=
      step_of_stepped (.receive frame nonce serverTimestamp now before' reading)
    have hmoved := moved_of_step h.inv' hstep
    refine ⟨frame, nonce, serverTimestamp, now, _, begun, hstep, hmoved, h.inv, hmoved.inv, ?_,
      fun d hd => ?_, fun d hd => ?_⟩
    · rw [← h.roster, (step_refines h.inv' hstep).roster]
      rfl
    · rw [not_not.mp hd, received', setTask_self]
    · rw [hd, ← log]
      rfl
  | ahead running replying =>
    rw [hreceived, Option.some.injEq] at running
    rw [running, replying] at hwaits
    cases hwaits

lemma turn_of_steps {turn : Turn} {received handled : System} {replied : Option System}
    (hreceived : system.step crates turn.opening = some received)
    (hhandled : received.goOn crates turn.actor = some handled)
    (hreplied : handled.goOn crates turn.actor = replied) : system.turn crates turn = replied := by
  simp [System.turn, hreceived, hhandled, hreplied]

lemma Moved.refl (h : Inv serial) (hheard : ∀ d, d ≠ c → heard d = []) :
    Moved c heard serial serial :=
  ⟨h, fun _ _ => rfl, fun d hd => by rw [hheard d hd, List.append_nil]⟩

/-- The end of a turn. The serial server sends the reply that its task is about to send. -/
lemma Serialized.finish {handled : System} (h : Serialized crates tracked serial)
    (hstep : tracked.system.step crates action = some tracked'.system)
    (hbegun : ∀ d, d ≠ action.actor → tracked'.begun d = tracked.begun d)
    (hlevel : Level action.actor tracked'.system handled)
    (hmoved : Moved action.actor
      (fun d => (tracked.system.event action).heard tracked.system.roster d) serial handled)
    (hfree : ∀ task, tracked'.system.tasks action.actor = some task →
      task.phase.waitsForLock = false) :
    ∃ serial', handled.goOn crates action.actor = some serial' ∧
      (∀ task, serial'.tasks action.actor = some task → task.phase.rests = true) ∧
      Serialized crates tracked' serial' := by
  have hrested : (∀ task, tracked'.system.tasks action.actor = some task →
      task.phase.rests = true) → ∃ serial', handled.goOn crates action.actor = some serial' ∧
      (∀ task, serial'.tasks action.actor = some task → task.phase.rests = true) ∧
      Serialized crates tracked' serial' := by
    intro hrests
    have hrests' := hrests
    rw [← hlevel.tasks_eq] at hrests'
    exact ⟨handled, goOn_of_rests hrests', hrests',
      h.step hstep hbegun hmoved (hlevel.abreast hrests)⟩
  cases htask : tracked'.system.tasks action.actor with
  | none => exact hrested (fun task htask' => by rw [htask] at htask'; cases htask')
  | some task =>
    rcases phase_of_not_waits (hfree task htask) with hrests | ⟨m, hreplying⟩
    · exact hrested (on_task htask hrests)
    · have htask' := hlevel.tasks_eq.trans htask
      obtain ⟨serial', hgo, hreplied, hread, hlog⟩ :=
        goOn_of_replying crates hmoved.inv htask' hreplying
      refine ⟨serial', hgo, on_task hread rfl, ?_⟩
      apply h.step hstep hbegun (hmoved.silently hreplied)
      exact .ahead htask hreplying hread (by rw [hlog, hlevel.log])

/-- An action that begins a turn and does not leave its task at the lock. -/
lemma Serialized.opened (h : Serialized crates tracked serial) (turn : Turn)
    (hopening : turn.opening = action) (hactor : turn.actor = action.actor)
    (hstep : tracked.system.step crates action = some tracked'.system)
    (hbegun : ∀ d, d ≠ action.actor → tracked'.begun d = tracked.begun d)
    (hrests : ∀ task, tracked.system.tasks action.actor = some task → task.phase.rests = true)
    (hfree : ∀ task, tracked'.system.tasks action.actor = some task →
      task.phase.waitsForLock = false) :
    ∃ serial', serial.turn crates turn = some serial' ∧ Serialized crates tracked' serial' := by
  obtain ⟨received, hreceived, hlevel, hmoved⟩ := (h.level_of_rests hrests).step hstep
  obtain ⟨serial', hgo, hrests', hserialized⟩ := h.finish hstep hbegun hlevel hmoved hfree
  rw [← hopening] at hreceived
  rw [← hactor] at hgo hrests'
  exact ⟨serial', turn_of_steps hreceived hgo (goOn_of_rests hrests'), hserialized⟩

/-- A section that holds the lock. -/
lemma Serialized.locked (h : Serialized crates tracked serial)
    (hstep : tracked.system.step crates action = some tracked'.system)
    (hbegun : ∀ d, d ≠ action.actor → tracked'.begun d = tracked.begun d)
    (htask : tracked.system.tasks action.actor = some task)
    (hwaits : task.phase.waitsForLock = true)
    (hgoes : task.phase.goesOn action.actor = some action)
    (hfree : ∀ task, tracked'.system.tasks action.actor = some task →
      task.phase.waitsForLock = false) :
    ∃ serial', Execution.exec (System.turn crates) serial (tracked.begun action.actor).toList =
      some serial' ∧ Serialized crates tracked' serial' := by
  obtain ⟨frame, nonce, serverTimestamp, now, received, hbegun', hreceived, hsilent, hlevel⟩ :=
    h.catch_up htask hwaits
  obtain ⟨handled, hhandled, hlevel', hmoved⟩ := hlevel.step hstep
  obtain ⟨serial', hgo, -, hserialized⟩ :=
    h.finish hstep hbegun hlevel' (hsilent.after_silent hmoved) hfree
  have hturn : serial.turn crates (.serve action.actor frame nonce serverTimestamp now) =
      some serial' :=
    turn_of_steps hreceived
      ((goOn_of_phase (hlevel.tasks_eq.trans htask) hgoes).trans hhandled) hgo
  refine ⟨serial', ?_, hserialized⟩
  rw [hbegun', Option.toList_some, Execution.exec_singleton]
  exact hturn

lemma Tracked.stepped (h : tracked.step crates action = some tracked') :
    tracked.system.step crates action = some tracked'.system ∧
      (∀ d, d ≠ action.actor → tracked'.begun d = tracked.begun d) ∧
      tracked'.begun action.actor = (Turn.begunBy action <|> tracked.begun action.actor) := by
  obtain ⟨system, hsystem, he⟩ := Option.bind_eq_some_iff.mp h
  cases he
  refine ⟨hsystem, fun d hd => ?_, ?_⟩
  · cases action with
    | accept | receive | disconnect => exact Function.update_of_ne hd ..
    | _ => rfl
  · cases action with
    | accept | receive | disconnect => exact Function.update_self ..
    | _ => rfl

/-- Only a received frame makes a task wait for the lock. -/
lemma free_of_stepped (h : System.Stepped crates system action system')
    (haction : ∀ c frame nonce serverTimestamp now,
      action ≠ .receive c frame nonce serverTimestamp now) :
    ∀ task, system'.tasks action.actor = some task → task.phase.waitsForLock = false := by
  cases h with
  | accept => exact on_task (setTask_self ..) rfl
  | receive => exact (haction _ _ _ _ _ rfl).elim
  | handle => exact on_task (handle_task ..) rfl
  | register =>
    unfold System.register
    split
    · exact on_task (setTask_self ..) rfl
    · exact on_task (setTask_self ..) rfl
  | reply => exact on_task (setTask_self ..) rfl
  | disconnect => exact on_task (disconnect_task ..) rfl

lemma Serialized.receive {frame : Frame} {nonce : Nonce} {serverTimestamp : UInt64} {now : Instant}
    (h : Serialized crates tracked serial)
    (htracked : tracked.step crates (.receive c frame nonce serverTimestamp now) = some tracked') :
    ∃ serial', Execution.exec (System.turn crates) serial
      (tracked.effects crates (.receive c frame nonce serverTimestamp now)) = some serial' ∧
      Serialized crates tracked' serial' := by
  obtain ⟨hstep, hbegun, hturn⟩ := Tracked.stepped htracked
  obtain ⟨task, running, reading, hreceived, hlog⟩ :
      ∃ task, tracked.system.tasks c = some task ∧ task.phase = .reading ∧
        tracked'.system.tasks c = some (task.receive crates frame nonce serverTimestamp now) ∧
        tracked'.system.outbound c = tracked.system.outbound c := by
    generalize tracked'.system = system' at hstep
    cases System.stepped_of_step hstep with
    | receive _ _ _ _ running reading => exact ⟨_, running, reading, setTask_self .., rfl⟩
  have hrests : ∀ task, tracked.system.tasks c = some task → task.phase.rests = true :=
    on_task running (by rw [reading]; rfl)
  simp only [Tracked.effects, running]
  split
  · rename_i hwaits
    have hlevel := h.level_of_rests hrests
    refine ⟨serial, rfl, h.step hstep hbegun (.refl h.inv' fun _ _ => rfl) ?_⟩
    exact .behind hturn (hlevel.tasks_eq.trans running) reading hreceived hwaits
      (hlevel.log.trans hlog.symm)
  · rename_i hwaits
    rw [Execution.exec_singleton]
    exact h.opened (.serve c frame nonce serverTimestamp now) rfl rfl hstep hbegun hrests
      (on_task hreceived (Bool.eq_false_iff.mpr hwaits))

lemma Serialized.reply (h : Serialized crates tracked serial)
    (htracked : tracked.step crates (.reply c) = some tracked') :
    Serialized crates tracked' serial := by
  obtain ⟨hstep, hbegun, -⟩ := Tracked.stepped htracked
  obtain ⟨task, m, running, replying⟩ : ∃ task m, tracked.system.tasks c = some task ∧
      task.phase = .replying m := by
    generalize tracked'.system = system' at hstep
    cases System.stepped_of_step hstep with
    | reply running replying => exact ⟨_, _, running, replying⟩
  obtain ⟨system', hgo, hmoved, hread, hlog⟩ :=
    goOn_of_replying crates h.inv running replying
  rw [goOn_of_phase running (by rw [replying]; rfl), hstep, Option.some.injEq] at hgo
  subst hgo
  have hsilent : ∀ d, d ≠ c →
      (tracked.system.event (.reply c)).heard tracked.system.roster d = [] := by
    intro d hd
    simp [System.event, running, replying, Event.heard, hd]
  apply h.step hstep hbegun (.refl h.inv' hsilent)
  cases h.abreast c with
  | level rests _ _ =>
    have hrests := rests task running
    rw [replying] at hrests
    cases hrests
  | behind _ _ _ received waits _ =>
    rw [running, Option.some.injEq] at received
    rw [← received, replying] at waits
    cases waits
  | ahead running' replying' replied log =>
    rw [running, Option.some.injEq] at running'
    subst running'
    rw [replying, Phase.replying.injEq] at replying'
    subst replying'
    exact .level (on_task hread rfl) (replied.trans hread.symm) (log.trans hlog.symm)

/-- The serial server takes the turns that take effect with an action. -/
theorem Serialized.next (h : Serialized crates tracked serial)
    (htracked : tracked.step crates action = some tracked') :
    ∃ serial', Execution.exec (System.turn crates) serial (tracked.effects crates action) =
      some serial' ∧ Serialized crates tracked' serial' := by
  obtain ⟨hstep, hbegun, -⟩ := Tracked.stepped htracked
  have hstepped := System.stepped_of_step hstep
  have hfree := free_of_stepped hstepped
  generalize tracked'.system = system' at hstepped
  cases action with
  | accept c =>
    obtain ⟨free⟩ := hstepped
    rw [Tracked.effects, Execution.exec_singleton]
    exact h.opened (.accept c) rfl rfl hstep hbegun
      (fun task htask => by cases free.symm.trans htask) (hfree nofun)
  | receive c frame nonce serverTimestamp now => exact h.receive htracked
  | handle c =>
    cases hstepped with
    | handle running handling known =>
      exact h.locked hstep hbegun running (by rw [handling]; rfl) (by rw [handling]; rfl)
        (hfree nofun)
  | register c =>
    cases hstepped with
    | register running registering =>
      exact h.locked hstep hbegun running (by rw [registering]; rfl) (by rw [registering]; rfl)
        (hfree nofun)
  | reply c => exact ⟨serial, rfl, h.reply htracked⟩
  | disconnect c =>
    cases hstepped with
    | disconnect running leaving =>
      rw [Tracked.effects, Execution.exec_singleton]
      exact h.opened (.disconnect c) rfl rfl hstep hbegun
        (on_task running (by rw [leaving]; rfl)) (hfree nofun)

end Steps

/-! ### Each connection's turns are in order -/

/-- The turn that the task of `c` has begun and that has not taken effect. -/
def waiting (tracked : Tracked) (c : ConnId) : List Turn :=
  match tracked.system.tasks c with
  | some task => if task.phase.waitsForLock then (tracked.begun c).toList else []
  | none => []

/-- The turns of one connection. -/
def turnsBy (c : ConnId) (turns : List Turn) : List Turn := turns.filter (·.actor = c)

/-- A connection has begun turns of its own. -/
def BegunOwn (tracked : Tracked) : Prop := ∀ c turn, tracked.begun c = some turn → turn.actor = c

section Order

variable {crates : Crates} {tracked tracked' : Tracked} {action : Action} {c : ConnId}

lemma begunBy_actor {turn : Turn} (h : Turn.begunBy action = some turn) :
    turn.actor = action.actor := by
  cases action with
  | accept | receive | disconnect =>
    cases h
    rfl
  | _ => cases h

lemma waiting_turn {task : SocketTask} (htask : tracked.system.tasks c = some task) :
    waiting tracked c = if task.phase.waitsForLock then (tracked.begun c).toList else [] := by
  simp only [waiting, htask]

lemma waiting_nil (hfree : ∀ task, tracked.system.tasks c = some task →
    task.phase.waitsForLock = false) : waiting tracked c = [] := by
  cases htask : tracked.system.tasks c with
  | none => simp only [waiting, htask]
  | some task => simp [waiting_turn htask, hfree task htask]

lemma turnsBy_self {turns : List Turn} (h : ∀ turn ∈ turns, turn.actor = c) :
    turnsBy c turns = turns := by
  rw [turnsBy, List.filter_eq_self]
  simpa using h

lemma turnsBy_other {turns : List Turn} {d : ConnId} (h : ∀ turn ∈ turns, turn.actor = d)
    (hd : c ≠ d) : turnsBy c turns = [] := by
  rw [turnsBy, List.filter_eq_nil_iff]
  intro turn hturn
  simpa [h turn hturn] using hd.symm

lemma BegunOwn.step (h : BegunOwn tracked) (htracked : tracked.step crates action = some tracked') :
    BegunOwn tracked' := by
  obtain ⟨-, hothers, hown⟩ := Tracked.stepped htracked
  intro d turn hturn
  by_cases hd : d = action.actor
  · subst hd
    rw [hown, Option.orElse_eq_some] at hturn
    rcases hturn with hturn | ⟨-, hturn⟩
    · exact begunBy_actor hturn
    · exact h _ turn hturn
  · rw [hothers d hd] at hturn
    exact h d turn hturn

lemma effects_own (crates : Crates) (action : Action) (h : BegunOwn tracked) :
    ∀ turn ∈ tracked.effects crates action, turn.actor = action.actor := by
  intro turn hturn
  cases action with
  | accept | disconnect =>
    rw [Tracked.effects, List.mem_singleton] at hturn
    rw [hturn]
    rfl
  | receive c frame nonce serverTimestamp now =>
    rw [Tracked.effects] at hturn
    split at hturn
    · split at hturn
      · cases hturn
      · rw [List.mem_singleton] at hturn
        rw [hturn]
        rfl
    · cases hturn
  | handle | register =>
    rw [Tracked.effects, Option.mem_toList] at hturn
    exact h _ turn hturn
  | reply => cases hturn

/-- What is begun and what takes effect with an action that leaves its task at no lock. -/
lemma turns_free (htracked : tracked.step crates action = some tracked')
    (haction : ∀ c frame nonce serverTimestamp now,
      action ≠ .receive c frame nonce serverTimestamp now) :
    waiting tracked action.actor ++ (Turn.begunBy action).toList =
      tracked.effects crates action ++ waiting tracked' action.actor := by
  obtain ⟨hstep, -, -⟩ := Tracked.stepped htracked
  have hstepped := System.stepped_of_step hstep
  rw [waiting_nil (free_of_stepped hstepped haction), List.append_nil]
  generalize tracked'.system = system' at hstepped
  cases hstepped with
  | accept free =>
    rw [waiting_nil (fun task htask => by cases free.symm.trans htask)]
    rfl
  | receive => exact (haction _ _ _ _ _ rfl).elim
  | handle running handling =>
    rw [Action.actor, waiting_turn running, handling]
    exact List.append_nil _
  | register running registering =>
    rw [Action.actor, waiting_turn running, registering]
    exact List.append_nil _
  | reply running replying =>
    rw [Action.actor, waiting_turn running, replying]
    rfl
  | disconnect running leaving =>
    rw [Action.actor, waiting_turn running, leaving]
    rfl

lemma turns_receive {frame : Frame} {nonce : Nonce} {serverTimestamp : UInt64} {now : Instant}
    (htracked : tracked.step crates (.receive c frame nonce serverTimestamp now) = some tracked') :
    waiting tracked c ++ [.serve c frame nonce serverTimestamp now] =
      tracked.effects crates (.receive c frame nonce serverTimestamp now) ++
        waiting tracked' c := by
  obtain ⟨hstep, -, hbegun⟩ := Tracked.stepped htracked
  generalize hsystem : tracked'.system = system' at hstep
  cases System.stepped_of_step hstep with
  | @receive _ task _ _ _ _ running reading =>
    have hreceived : tracked'.system.tasks c =
        some (task.receive crates frame nonce serverTimestamp now) := by
      rw [hsystem]
      exact setTask_self ..
    rw [waiting_nil (on_task running (by rw [reading]; rfl)), waiting_turn hreceived]
    simp only [Tracked.effects, running]
    split
    · exact congrArg Option.toList hbegun.symm
    · rfl

/-- What is begun and what takes effect with one action. -/
lemma turns_step (h : BegunOwn tracked) (htracked : tracked.step crates action = some tracked') :
    waiting tracked c ++ turnsBy c (Turn.begunBy action).toList =
      turnsBy c (tracked.effects crates action) ++ waiting tracked' c := by
  have hbegun : ∀ turn ∈ (Turn.begunBy action).toList, turn.actor = action.actor := by
    intro turn hturn
    rw [Option.mem_toList] at hturn
    exact begunBy_actor hturn
  have heffects := effects_own crates action h
  by_cases hc : c = action.actor
  · subst hc
    rw [turnsBy_self hbegun, turnsBy_self heffects]
    cases action with
    | receive => exact turns_receive htracked
    | _ => exact turns_free htracked nofun
  · obtain ⟨hstep, hothers, -⟩ := Tracked.stepped htracked
    have hsame : waiting tracked' c = waiting tracked c := by
      simp only [waiting, (System.stepped_of_step hstep).task_other hc, hothers c hc]
    rw [turnsBy_other hbegun hc, turnsBy_other heffects hc, hsame, List.append_nil,
      List.nil_append]

end Order

section Run

variable {crates : Crates} {actions : List Action} {system : System}

lemma serialized_start (crates : Crates) : Serialized crates Tracked.start System.default := by
  have hinv : Inv System.default :=
    inv_of_reachable (Execution.Reachable.refl (System.step crates) System.default)
  exact ⟨hinv, hinv, fun c => .level (fun task htask => by cases htask) rfl rfl⟩

/-- A run of the server, with what each connection has begun last. -/
lemma tracked_of_run
    (hrun : Execution.exec (System.step crates) System.default actions = some system) :
    ∃ tracked, Execution.exec (Tracked.step crates) Tracked.start actions = some tracked ∧
      system = tracked.system := by
  have hnext : ∀ s (t : Tracked) a s', True → s = t.system → System.step crates s a = some s' →
      ∃ t', Tracked.step crates t a = some t' ∧ s' = t'.system := by
    rintro s t a s' - rfl hstep
    exact ⟨_, Option.bind_eq_some_iff.mpr ⟨s', hstep, rfl⟩, rfl⟩
  exact Execution.exec_lockstep hnext actions _ system Tracked.start rfl (fun _ _ => trivial) hrun

lemma turns_of_run {tracked : Tracked}
    (hrun : Execution.exec (Tracked.step crates) Tracked.start actions = some tracked)
    (c : ConnId) : turnsBy c (actions.filterMap Turn.begunBy) =
      turnsBy c (turnsOf crates actions) ++ waiting tracked c := by
  have hinit : BegunOwn Tracked.start ∧ turnsBy c ([].filterMap Turn.begunBy) =
      turnsBy c [] ++ waiting Tracked.start c := ⟨(fun _ _ h => by cases h), rfl⟩
  refine (Execution.outputs_induction (Tracked.step crates) (Tracked.effects crates)
    (motive := fun as bs tracked => BegunOwn tracked ∧
      turnsBy c (as.filterMap Turn.begunBy) = turnsBy c bs ++ waiting tracked c)
    hinit ?_ actions tracked hrun).2
  rintro as bs now action next - ⟨hown, hturns⟩ hstep
  refine ⟨hown.step hstep, ?_⟩
  have hlast : [action].filterMap Turn.begunBy = (Turn.begunBy action).toList := by
    cases h : Turn.begunBy action <;> simp [h]
  calc turnsBy c ((as ++ [action]).filterMap Turn.begunBy)
      = turnsBy c (as.filterMap Turn.begunBy) ++ turnsBy c (Turn.begunBy action).toList := by
        rw [List.filterMap_append, hlast, turnsBy, List.filter_append]
        rfl
    _ = turnsBy c bs ++ (turnsBy c (now.effects crates action) ++ waiting next c) := by
        rw [hturns, List.append_assoc, turns_step hown hstep]
    _ = turnsBy c (bs ++ now.effects crates action) ++ waiting next c := by
        rw [turnsBy, turnsBy, turnsBy, List.filter_append, List.append_assoc]

end Run

/-- Whatever the tasks interleave, a server that serves one frame at a time, each when its task gets
the lock and each connection's in order, is where the server is and has sent what it has sent. -/
theorem frames_one_at_a_time {crates : Crates} {actions : List Action} {system : System}
    (hrun : Execution.exec (System.step crates) System.default actions = some system) :
    ∃ serial, Execution.exec (System.turn crates) System.default (turnsOf crates actions) =
        some serial ∧
      serial.state = system.state ∧
      (∀ c s, serial.Registered c s ↔ system.Registered c s) ∧
      (∀ c, system.outbound c <+: serial.outbound c) ∧
      (∀ c task, system.tasks c = some task → task.phase.rests = true →
        serial.tasks c = some task ∧ serial.outbound c = system.outbound c) ∧
      (∀ before, before <+: actions → turnsOf crates before <+: turnsOf crates actions) ∧
      ∀ c, ∃ held, turnsBy c (actions.filterMap Turn.begunBy) =
          turnsBy c (turnsOf crates actions) ++ held ∧ held.length ≤ 1 ∧
        ((∃ task, system.tasks c = some task ∧ task.phase.waitsForLock = true) ∨ held = []) := by
  obtain ⟨tracked, htracked, rfl⟩ := tracked_of_run hrun
  obtain ⟨serial, hserial, h⟩ := Execution.exec_simulated (Tracked.effects crates)
    (fun _ _ _ _ h hstep => Serialized.next h hstep) actions _ tracked System.default
    (serialized_start crates) htracked
  refine ⟨serial, hserial, h.state, fun c s => ?_, fun c => ?_, fun c task htask hrests => ?_,
    fun _ hbefore => Execution.outputs_prefix _ hbefore _,
    fun c => ⟨waiting tracked c, turns_of_run htracked c, ?_, ?_⟩⟩
  · rw [registered_iff h.inv, registered_iff h.inv', h.roster]
  · cases h.abreast c with
    | level _ _ log => rw [log]
    | behind _ _ _ _ _ log => rw [log]
    | ahead _ _ _ log => exact ⟨_, log.symm⟩
  · have hlevel := h.level_of_rests (on_task htask hrests)
    exact ⟨hlevel.tasks_eq.trans htask, hlevel.log⟩
  · unfold waiting
    split
    · split
      · cases tracked.begun c <;> simp
      · exact Nat.zero_le 1
    · exact Nat.zero_le 1
  · cases htask : tracked.system.tasks c with
    | none => exact Or.inr (waiting_nil (fun task htask' => by cases htask.symm.trans htask'))
    | some task =>
      cases hwaits : task.phase.waitsForLock with
      | true => exact Or.inl ⟨task, rfl, hwaits⟩
      | false => exact Or.inr (waiting_nil (on_task htask hwaits))

theorem frames_one_at_a_time_meeting :
    ∃ serial, Execution.exec (System.turn Reference.crates) System.default
        (turnsOf Reference.crates Reference.meeting) = some serial ∧
      serial.state = (Reference.final Reference.meeting).state := by
  obtain ⟨serial, hserial, hstate, -⟩ := frames_one_at_a_time Reference.meeting_runs
  exact ⟨serial, hserial, hstate⟩

end VTNet.Proofs
