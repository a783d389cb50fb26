import VTNet.Proofs.PagePeers

/-!
# The microphone

A request for the microphone may be granted at any later time, with the mute state of the render in
which the user asked to join. Where the user neither joins again nor toggles in the meantime, what
the screen shows as muted is not sent.
-/

namespace VTNet.Proofs

def isMicrophone : Await → Bool
  | .microphone _ _ => true
  | _ => false

/-- A request for the microphone is on its way. -/
def asking (page : Page) : Bool := page.pending.any fun entry => isMicrophone entry.2

/-- No second join and no toggle while the microphone is being asked for. -/
def patient (page : Page) : PageEvent → Bool
  | .join _ => !asking page
  | .toggleMute => !asking page
  | _ => true

structure Microphone (page : Page) : Prop where
  one_request : ∀ call call' roomIdInput roomIdInput' isMuted isMuted',
    page.calls call = some (.microphone roomIdInput isMuted) →
    page.calls call' = some (.microphone roomIdInput' isMuted') → call = call'
  requested : ∀ call roomIdInput isMuted, page.calls call = some (.microphone roomIdInput isMuted) →
    page.localStreamRef = none ∧ (page.isMuted = true → isMuted = true)
  ref : ∀ stream, page.localStreamRef = some stream →
    ∃ s, page.streams stream = some s ∧ s.live = true
  live : ∀ stream s, page.streams stream = some s → s.live = true →
    page.localStreamRef = some stream
  muted : ∀ stream s, page.streams stream = some s → s.live = true → page.isMuted = true →
    s.enabled = false
  carried : ∀ k rtc stream, page.connections k = some rtc → rtc.closed = false →
    rtc.stream = some stream → page.localStreamRef = some stream
  rendered : page.isMuted = true → page.rendered.isMuted = true

section Microphone

variable {parseJson : String → Option JsonValue} {page page' moved : Page} {event : PageEvent}
  {call : ℕ} {promise : Await}

lemma not_asking (h : asking page = false) (call : ℕ) (roomIdInput : String) (isMuted : Bool) :
    page.calls call ≠ some (.microphone roomIdInput isMuted) := by
  intro hcall
  obtain ⟨before, after, hpending, -⟩ := List.lookup_eq_some_iff.mp hcall
  rw [asking, List.any_eq_false] at h
  exact h (call, .microphone roomIdInput isMuted) (by rw [hpending]; simp) rfl

lemma microphone_start : Microphone Page.start := by
  refine ⟨fun call call' roomIdInput roomIdInput' isMuted isMuted' h _ => ?_,
    fun call roomIdInput isMuted h => ?_, nofun, nofun, nofun, nofun, nofun⟩
  · cases start_calls h
  · cases start_calls h

/-- Nothing happens to the microphone. -/
lemma Microphone.same (h : Microphone page) (href : page'.localStreamRef = page.localStreamRef)
    (hstreams : page'.streams = page.streams) (hmuted : page'.isMuted = page.isMuted)
    (hrendered : page'.rendered = page.rendered)
    (hopen : ∀ k rtc, page'.connections k = some rtc → rtc.closed = false →
      page.connections k = some rtc)
    (hcalls : ∀ call roomIdInput isMuted, page'.calls call = some (.microphone roomIdInput isMuted) →
      page.calls call = some (.microphone roomIdInput isMuted)) : Microphone page' := by
  constructor
  · exact fun call call' roomIdInput roomIdInput' isMuted isMuted' hcall hcall' =>
      h.one_request call call' roomIdInput roomIdInput' isMuted isMuted' (hcalls _ _ _ hcall)
        (hcalls _ _ _ hcall')
  · rw [href, hmuted]
    exact fun call roomIdInput isMuted hcall => h.requested call roomIdInput isMuted
      (hcalls _ _ _ hcall)
  · rw [href, hstreams]
    exact h.ref
  · rw [href, hstreams]
    exact h.live
  · rw [hstreams, hmuted]
    exact h.muted
  · rw [href]
    exact fun k rtc stream hrtc hclosed => h.carried k rtc stream (hopen k rtc hrtc hclosed) hclosed
  · rw [hmuted, hrendered]
    exact h.rendered

lemma onLocalStream_eq_some {change : Stream → Stream} {stream : ℕ} {s : Stream}
    (h : page.onLocalStream change stream = some s) :
    page.localStreamRef = some stream ∧ (∃ s', page.streams stream = some s' ∧ s = change s') ∨
      page.localStreamRef ≠ some stream ∧ page.streams stream = some s := by
  unfold Page.onLocalStream at h
  cases href : page.localStreamRef with
  | none =>
    rw [href] at h
    exact Or.inr ⟨nofun, h⟩
  | some current =>
    rw [href] at h
    by_cases hstream : stream = current
    · subst hstream
      simp only [Function.update_self] at h
      obtain ⟨s', hs', rfl⟩ := Option.map_eq_some_iff.mp h
      exact Or.inl ⟨rfl, s', hs', rfl⟩
    · simp only [Function.update_of_ne hstream] at h
      exact Or.inr ⟨fun he => hstream (Option.some.inj he).symm, h⟩

/-- The local stream stops, and with it every stream. -/
lemma Microphone.cleanup (h : Microphone page)
    (hstreams : page'.streams = page.onLocalStream fun stream => { stream with live := false })
    (href : page'.localStreamRef = none) (hmuted : page'.isMuted = false)
    (hnone : ∀ k rtc, page'.connections k = some rtc → rtc.closed = true)
    (hcalls : ∀ call roomIdInput isMuted, page'.calls call = some (.microphone roomIdInput isMuted) →
      page.calls call = some (.microphone roomIdInput isMuted)) : Microphone page' := by
  have hstopped : ∀ stream s, page'.streams stream = some s → s.live = true → False := by
    intro stream s hs hlive
    rw [hstreams] at hs
    rcases onLocalStream_eq_some hs with ⟨-, s', -, rfl⟩ | ⟨hother, hs⟩
    · cases hlive
    · exact hother (h.live stream s hs hlive)
  constructor
  · exact fun call call' roomIdInput roomIdInput' isMuted isMuted' hcall hcall' =>
      h.one_request call call' roomIdInput roomIdInput' isMuted isMuted' (hcalls _ _ _ hcall)
        (hcalls _ _ _ hcall')
  · rw [href, hmuted]
    exact fun _ _ _ _ => ⟨rfl, nofun⟩
  · rw [href]
    exact nofun
  · exact fun stream s hs hlive => (hstopped stream s hs hlive).elim
  · exact fun stream s hs hlive => (hstopped stream s hs hlive).elim
  · intro k rtc stream hrtc hopen
    rw [hnone k rtc hrtc] at hopen
    cases hopen
  · rw [hmuted]
    exact nofun

lemma calls_await_other {promise' : Await} {call' : ℕ}
    (h : (page.await call promise').calls call' = some promise)
    (hpromise : isMicrophone promise = true) (hother : isMicrophone promise' = false) :
    page.calls call' = some promise := by
  rw [await_calls] at h
  rcases updated_iff.mp h with ⟨-, rfl⟩ | ⟨-, h⟩
  · rw [hother] at hpromise
    cases hpromise
  · exact h

lemma other_of_waits {k : ℕ} (waits : connectionOf promise = some k) :
    isMicrophone promise = false := by
  cases promise with
  | microphone => cases waits
  | _ => rfl

lemma peerConnection_stream {peerUid : String} {k : ℕ} {rtc : RtcConnection}
    (h : (page.peerConnection call peerUid).2.connections k = some rtc) :
    page.connections k = some rtc ∨ rtc.stream = page.localStreamRef := by
  unfold Page.peerConnection at h
  split at h
  · exact Or.inl h
  · rcases updated_iff.mp h with ⟨-, rfl⟩ | ⟨-, h⟩
    · exact Or.inr rfl
    · exact Or.inl h

lemma Microphone.finish (h : Microphone page) (call : ℕ) : Microphone (page.finish call) :=
  h.same rfl rfl rfl rfl (fun _ _ hrtc _ => hrtc) (fun _ _ _ hcall => calls_finish hcall)

lemma Microphone.peerConnection (h : Microphone page) (call : ℕ) (peerUid : String) :
    Microphone (page.peerConnection call peerUid).2 := by
  have hcarried : ∀ k rtc stream, (page.peerConnection call peerUid).2.connections k = some rtc →
      rtc.closed = false → rtc.stream = some stream → page.localStreamRef = some stream := by
    intro k rtc stream hrtc hopen hstream
    rcases peerConnection_stream hrtc with hrtc | hlocal
    · exact h.carried k rtc stream hrtc hopen hstream
    · exact hlocal.symm.trans hstream
  rw [peerConnection_eq]
  exact { h with carried := hcarried }

/-- The only request is made while there is no stream, with a mute state that is not out of date
where it matters. -/
lemma Microphone.ask (h : Microphone page) (hidle : asking page = false)
    (silent : page.localStreamRef = none) (roomIdInput : String) :
    Microphone (page.await call (.microphone roomIdInput page.rendered.isMuted)) := by
  have hcalls := not_asking hidle
  have hnew : ∀ call' roomIdInput' isMuted',
      (page.await call (.microphone roomIdInput page.rendered.isMuted)).calls call' =
        some (.microphone roomIdInput' isMuted') →
      call' = call ∧ isMuted' = page.rendered.isMuted := by
    intro call' roomIdInput' isMuted' hcall
    rw [await_calls] at hcall
    rcases updated_iff.mp hcall with ⟨hc, he⟩ | ⟨-, hcall⟩
    · cases he
      exact ⟨hc, rfl⟩
    · exact absurd hcall (hcalls call' _ _)
  refine { h with one_request := ?_, requested := ?_ }
  · exact fun _ _ _ _ _ _ hcall hcall' => (hnew _ _ _ hcall).1.trans (hnew _ _ _ hcall').1.symm
  · intro call' roomIdInput' isMuted' hcall
    refine ⟨silent, fun hmuted => ?_⟩
    rw [(hnew _ _ _ hcall).2]
    exact h.rendered hmuted

/-- The request that is granted is the only one, and there has been no stream. -/
lemma Microphone.granted (h : Microphone page) {roomIdInput : String} {isMuted : Bool}
    (pending : page.calls call = some (.microphone roomIdInput isMuted)) :
    Microphone { page.finish call with
      streams := Function.update page.streams call (some ⟨!isMuted, true⟩)
      localStreamRef := some call } := by
  obtain ⟨hnone, hmuted⟩ := h.requested call roomIdInput isMuted pending
  have hdone : ∀ call' roomIdInput' isMuted', (page.finish call).calls call' ≠
      some (.microphone roomIdInput' isMuted') := by
    intro call' roomIdInput' isMuted' hcall
    have he := h.one_request call' call _ _ _ _ (calls_finish hcall) pending
    rw [finish_calls, he, Function.update_self] at hcall
    cases hcall
  have hsilent : ∀ stream s, page.streams stream = some s → s.live = true → False := by
    intro stream s hs hlive
    rw [h.live stream s hs hlive] at hnone
    cases hnone
  constructor
  · exact fun call' _ _ _ _ _ hcall => absurd hcall (hdone call' _ _)
  · exact fun call' _ _ hcall => absurd hcall (hdone call' _ _)
  · rintro stream ⟨⟩
    exact ⟨_, Function.update_self .., rfl⟩
  · intro stream s hs hlive
    rcases updated_iff.mp hs with ⟨rfl, -⟩ | ⟨-, hs⟩
    · rfl
    · exact (hsilent stream s hs hlive).elim
  · intro stream s hs hlive hpage
    rcases updated_iff.mp hs with ⟨-, rfl⟩ | ⟨-, hs⟩
    · rw [hmuted hpage]
      rfl
    · exact (hsilent stream s hs hlive).elim
  · intro k rtc stream hrtc hopen hstream
    have hcarried := h.carried k rtc stream hrtc hopen hstream
    rw [hnone] at hcarried
    cases hcarried
  · exact h.rendered

lemma Microphone.toggle (h : Microphone page) (hidle : asking page = false) (shown : Shown) :
    Microphone (shown.on { page with
      streams := page.onLocalStream fun stream => { stream with enabled := page.rendered.isMuted }
      isMuted := !page.rendered.isMuted }).render := by
  have hcalls := not_asking hidle
  refine { h with
    requested := fun call _ _ hcall => absurd hcall (hcalls call _ _), rendered := id
    ref := fun stream href => ?_, live := fun stream s hs hlive => ?_
    muted := fun stream s hs hlive hmuted => ?_ }
  · obtain ⟨s, hs, hlive⟩ := h.ref stream href
    refine ⟨{ s with enabled := page.rendered.isMuted }, ?_, hlive⟩
    have href' : page.localStreamRef = some stream := href
    simp [Shown.on, Page.render, Page.runEffect, Page.onLocalStream, href', hs]
  · rcases onLocalStream_eq_some hs with ⟨href, -⟩ | ⟨-, hs⟩
    · exact href
    · exact h.live stream s hs hlive
  · rcases onLocalStream_eq_some hs with ⟨-, s', -, rfl⟩ | ⟨hother, hs⟩
    · simpa [Shown.on, Page.render, Page.runEffect] using hmuted
    · exact absurd (h.live stream s hs hlive) hother

lemma Microphone.move (h : Microphone page) (hpeers : Peers page)
    (hpatient : patient page event = true) (move : Move parseJson page event moved) :
    Microphone moved := by
  have hcalls : ∀ call roomIdInput isMuted,
      page.calls call = some (.microphone roomIdInput isMuted) →
      page.calls call = some (.microphone roomIdInput isMuted) := fun _ _ _ => id
  have hclosed : ∀ k rtc, page.closePeers.connections k = some rtc → rtc.closed = true :=
    fun _ _ => hpeers.none_open
  cases move with
  | idle => exact h
  | finish => exact h.finish _
  | sign =>
    exact h.same rfl rfl rfl rfl (fun _ _ hrtc _ => hrtc)
      (fun _ _ _ hcall => calls_await_other hcall rfl rfl)
  | dial => exact { h.finish _ with }
  | unidentified => exact { h.finish _ with }
  | hangUp => exact { h with }
  | opened => exact { h with }
  | authenticated => exact { h with }
  | entered hears roomId =>
    refine h.same rfl rfl rfl rfl (fun k rtc hrtc hopen => ?_) hcalls
    rw [hclosed k rtc hrtc] at hopen
    cases hopen
  | left => exact h.cleanup rfl rfl rfl hclosed hcalls
  | closed => exact h.cleanup rfl rfl rfl hclosed hcalls
  | @meet call hears unused peerUid promise waits =>
    exact (h.peerConnection call peerUid).same rfl rfl rfl rfl (fun _ _ hrtc _ => hrtc)
      (fun _ _ _ hcall => calls_await_other hcall rfl (other_of_waits waits))
  | dropPeer hears peerUid =>
    exact h.same rfl rfl rfl rfl (fun _ _ hrtc hopen => (removePeer_open hrtc hopen).1) hcalls
  | advance pending waits opened waits' =>
    exact h.same rfl rfl rfl rfl (fun _ _ hrtc _ => hrtc)
      (fun _ _ _ hcall => calls_await_other hcall rfl (other_of_waits waits'))
  | describe => exact { h.finish _ with }
  | offerCandidate => exact { h with }
  | track => exact { h with }
  | say => exact { h with }
  | respond => exact { h.finish _ with }
  | askMicrophone join unused connected silent =>
    subst join
    exact h.ask (Bool.not_eq_true' _ ▸ hpatient) silent _
  | granted pending => exact { h.granted pending with }
  | effect => exact { h with }
  | unmount => exact h.cleanup rfl rfl rfl hclosed hcalls

lemma Microphone.step {parseJson : String → Option JsonValue} (h : Microphone page)
    (hpeers : Peers page) (hpatient : patient page event = true)
    (hstep : page.step parseJson event = some page') : Microphone page' := by
  cases pageStepped_of_step hstep with
  | plain move shown => exact { h.move hpeers hpatient move with }
  | click move shown => exact { h.move hpeers hpatient move with rendered := id }
  | press press shown =>
    cases press with
    | @connect call unused disconnected =>
      have hcalls : ∀ call' roomIdInput isMuted,
          (page.await call (.identity page.rendered.identity)).calls call' =
            some (.microphone roomIdInput isMuted) →
          page.calls call' = some (.microphone roomIdInput isMuted) :=
        fun _ _ _ hcall => calls_await_other hcall rfl rfl
      have hsame : Microphone (page.await call (.identity page.rendered.identity)) :=
        h.same rfl rfl rfl rfl (fun _ _ hrtc _ => hrtc) hcalls
      exact { hsame with rendered := id }
    | toggle click =>
      subst click
      exact h.toggle (by simpa [patient] using hpatient) shown

end Microphone

/-! ### While the client is not connected -/

/-- No second join, no toggle and no end of a socket while the microphone is being asked for, and
joins only while connected. -/
def attended (page : Page) : PageEvent → Bool
  | .join _ => !asking page && page.connectionStatus = .connected
  | .toggleMute => !asking page
  | .closed _ _ => !asking page
  | _ => true

/-- The microphone is in use or asked for only while there is a socket. -/
structure Attended (page : Page) : Prop where
  requested : ∀ call roomIdInput isMuted, page.calls call = some (.microphone roomIdInput isMuted) →
    page.socketRef.isSome = true
  ref : page.localStreamRef.isSome = true → page.socketRef.isSome = true

section Attended

variable {parseJson : String → Option JsonValue} {page page' moved : Page} {event : PageEvent}

lemma patient_of_attended (h : attended page event = true) : patient page event = true := by
  cases event with
  | join => exact (Bool.and_eq_true_iff.mp h).1
  | toggleMute => exact h
  | _ => rfl

lemma Attended.same (h : Attended page)
    (hsocket : page.socketRef.isSome = true → page'.socketRef.isSome = true)
    (href : page'.localStreamRef.isSome = true → page.localStreamRef.isSome = true)
    (hcalls : ∀ call roomIdInput isMuted, page'.calls call = some (.microphone roomIdInput isMuted) →
      page.calls call = some (.microphone roomIdInput isMuted)) : Attended page' :=
  ⟨fun call roomIdInput isMuted hcall =>
    hsocket (h.requested call roomIdInput isMuted (hcalls call roomIdInput isMuted hcall)),
    fun hsome => hsocket (h.ref (href hsome))⟩

lemma Attended.finish (h : Attended page) (call : ℕ) : Attended (page.finish call) :=
  h.same id id (fun _ _ _ hcall => calls_finish hcall)

/-- A client that is connected has a socket. -/
lemma OneSocket.socket_of_connected (h : OneSocket page)
    (hstatus : page.connectionStatus = .connected) :
    page.socketRef.isSome = true := by
  by_contra hnone
  rw [Bool.not_eq_true, Option.isSome_eq_false_iff, Option.isNone_iff_eq_none] at hnone
  by_cases hcalls : ∀ call identity, page.calls call ≠ some (.identity identity)
  · rw [h.disconnected.mpr ⟨hnone, hcalls⟩] at hstatus
    cases hstatus
  · obtain ⟨call, hcalls⟩ := not_forall.mp hcalls
    obtain ⟨identity, hcall⟩ := not_forall.mp hcalls
    rw [(h.dialing call identity (not_not.mp hcall)).2.1] at hstatus
    cases hstatus

lemma Attended.move (h : Attended page) (hone : OneSocket page)
    (hattended : attended page event = true) (move : Move parseJson page event moved) :
    Attended moved := by
  cases move with
  | finish | unidentified | describe | respond => exact { h.finish _ with }
  | sign => exact h.same id id (fun _ _ _ hcall => calls_await_other hcall rfl rfl)
  | dial => exact ⟨fun _ _ _ _ => rfl, fun _ => rfl⟩
  | left | unmount => exact ⟨h.requested, nofun⟩
  | closed fired =>
    subst fired
    have hidle : asking page = false := by simpa [attended] using hattended
    exact ⟨fun call _ _ hcall => absurd hcall (not_asking hidle call _ _), nofun⟩
  | @meet call hears unused peerUid promise waits =>
    have hmet : Attended (page.peerConnection call peerUid).2 := by
      rw [peerConnection_eq]
      exact { h with }
    exact hmet.same id id
      (fun _ _ _ hcall => calls_await_other hcall rfl (other_of_waits waits))
  | advance pending waits opened waits' =>
    exact h.same id id (fun _ _ _ hcall => calls_await_other hcall rfl (other_of_waits waits'))
  | askMicrophone join =>
    subst join
    have hstatus := of_decide_eq_true (Bool.and_eq_true_iff.mp hattended).2
    exact ⟨fun _ _ _ _ => hone.socket_of_connected hstatus, h.ref⟩
  | @granted call roomIdInput isMuted pending =>
    exact ⟨(h.finish call).requested, fun _ => h.requested call roomIdInput isMuted pending⟩
  | _ => exact { h with }

lemma Attended.step {parseJson : String → Option JsonValue} (h : Attended page)
    (hone : OneSocket page) (hattended : attended page event = true)
    (hstep : page.step parseJson event = some page') : Attended page' := by
  cases pageStepped_of_step hstep with
  | plain move shown => exact { h.move hone hattended move with }
  | click move shown => exact { h.move hone hattended move with }
  | press press shown =>
    cases press with
    | connect => exact h.same id id (fun _ _ _ hcall => calls_await_other hcall rfl rfl)
    | toggle => exact { h with }

end Attended

/-! ### Runs -/

section Runs

variable {parseJson : String → Option JsonValue} {page : Page}

lemma microphone_of_reachable
    (h : Execution.Reachable (Execution.within (Page.step parseJson) patient) Page.start page) :
    Microphone page := by
  suffices hinv : OneSocket page ∧ Peers page ∧ Microphone page from hinv.2.2
  refine @Execution.invariant_of_step _ _ _
    (fun page => OneSocket page ∧ Peers page ∧ Microphone page) _
    ⟨oneSocket_start, peers_start, microphone_start⟩ ?_ _ h
  rintro page event page' ⟨hone, hpeers, hmicrophone⟩ hwithin
  obtain ⟨hallowed, hstep⟩ := Execution.within_eq_some.mp hwithin
  exact ⟨hone.step hstep, hpeers.step hone hstep, hmicrophone.step hpeers hallowed hstep⟩

lemma attended_of_reachable
    (h : Execution.Reachable (Execution.within (Page.step parseJson) attended) Page.start page) :
    Microphone page ∧ Attended page := by
  suffices hinv : OneSocket page ∧ Peers page ∧ Microphone page ∧ Attended page from hinv.2.2
  refine @Execution.invariant_of_step _ _ _
    (fun page => OneSocket page ∧ Peers page ∧ Microphone page ∧ Attended page) _
    ⟨oneSocket_start, peers_start, microphone_start, ?_, nofun⟩ ?_ _ h
  · intro call roomIdInput isMuted hcall
    cases start_calls hcall
  · rintro page event page' ⟨hone, hpeers, hmicrophone, hattended⟩ hwithin
    obtain ⟨hallowed, hstep⟩ := Execution.within_eq_some.mp hwithin
    exact ⟨hone.step hstep, hpeers.step hone hstep,
      hmicrophone.step hpeers (patient_of_attended hallowed) hstep,
      hattended.step hone hallowed hstep⟩

end Runs

/-- In every run without a second join or a toggle while the microphone is being asked for, at most
one stream is live, it is the one that is stopped in the end, and while the state says that the user
is muted every connection sends silence. -/
theorem muted_is_silent {parseJson : String → Option JsonValue} {page : Page}
    (h : Execution.Reachable (Execution.within (Page.step parseJson) patient) Page.start page) :
    (∀ stream s, page.streams stream = some s →
        (s.live = true ↔ page.localStreamRef = some stream)) ∧
      (page.isMuted = true →
        (∀ stream s, page.streams stream = some s → s.live = true → s.enabled = false) ∧
          ∀ k rtc stream s, page.connections k = some rtc → rtc.closed = false →
            rtc.stream = some stream → page.streams stream = some s → s.enabled = false) := by
  have hmicrophone := microphone_of_reachable h
  have hlive : ∀ stream s, page.streams stream = some s → page.localStreamRef = some stream →
      s.live = true := by
    intro stream s hs href
    obtain ⟨s', hs', hlive⟩ := hmicrophone.ref stream href
    rwa [Option.some.inj (hs.symm.trans hs')]
  refine ⟨fun stream s hs => ⟨hmicrophone.live stream s hs, hlive stream s hs⟩, fun hmuted =>
    ⟨fun stream s hs hlive => hmicrophone.muted stream s hs hlive hmuted, ?_⟩⟩
  intro k rtc stream s hrtc hopen hstream hs
  have href := hmicrophone.carried k rtc stream hrtc hopen hstream
  exact hmicrophone.muted stream s hs (hlive stream s hs href) hmuted

/-- The microphone is on, and its track is muted. -/
def isMutedOn (page : Page) : Bool :=
  page.isMuted ∧ (page.streams 3).any (·.live) ∧ page.isOpen 5

lemma pageMeeting_muted : ∃ page, Execution.exec
    (Execution.within (Page.step Reference.parseJson) attended) Page.start
      (pageMeeting ++ [.toggleMute]) = some page ∧ isMutedOn page = true := by
  have hrun : (Execution.exec (Execution.within (Page.step Reference.parseJson) attended)
      Page.start (pageMeeting ++ [.toggleMute])).map isMutedOn = some true := by
    decide +kernel
  exact Option.map_eq_some_iff.mp hrun

theorem muted_is_silent_meeting : ∃ page s, Execution.exec
    (Execution.within (Page.step Reference.parseJson) patient) Page.start
      (pageMeeting ++ [.toggleMute]) = some page ∧ page.isMuted = true ∧
      page.localStreamRef = some 3 ∧ page.streams 3 = some s ∧ s.enabled = false := by
  obtain ⟨page, hexec, hmuted⟩ := pageMeeting_muted
  obtain ⟨hmuted, hlive, -⟩ := of_decide_eq_true hmuted
  obtain ⟨s, hs, hlive⟩ := (Option.any_eq_true ..).mp hlive
  have hrun := Execution.exec_within_mono (fun _ _ => patient_of_attended) hexec
  obtain ⟨hcurrent, hsilent⟩ := muted_is_silent ⟨_, hrun⟩
  exact ⟨page, s, hrun, hmuted, (hcurrent 3 s hs).mp hlive, hs, (hsilent hmuted).1 3 s hs hlive⟩

/-- In every run without a second join, a toggle or the end of a socket while the microphone is being
asked for, and with joins only while connected, the microphone is off whenever there is no socket. -/
theorem microphone_off_without_socket {parseJson : String → Option JsonValue} {page : Page}
    (h : Execution.Reachable (Execution.within (Page.step parseJson) attended) Page.start page)
    (hnone : page.socketRef = none) :
    (∀ stream s, page.streams stream = some s → s.live = false) ∧
      ∀ call roomIdInput isMuted, page.calls call ≠ some (.microphone roomIdInput isMuted) := by
  obtain ⟨hmicrophone, hattended⟩ := attended_of_reachable h
  constructor
  · intro stream s hs
    by_contra hlive
    have hsocket := hattended.ref (by
      rw [hmicrophone.live stream s hs (Bool.not_eq_false _ ▸ hlive)]
      rfl)
    rw [hnone] at hsocket
    cases hsocket
  · intro call roomIdInput isMuted hcall
    have hsocket := hattended.requested call roomIdInput isMuted hcall
    rw [hnone] at hsocket
    cases hsocket

/-- The user hangs up, and the stream of the call is off. -/
theorem microphone_off_without_socket_meeting : ∃ page s, Execution.exec
    (Execution.within (Page.step Reference.parseJson) attended) Page.start
      (pageMeeting ++ [.disconnect, .closed 1 false]) = some page ∧
      page.streams 3 = some s ∧ s.live = false := by
  have hrun : (Execution.exec (Execution.within (Page.step Reference.parseJson) attended)
      Page.start (pageMeeting ++ [.disconnect, .closed 1 false])).map
        (fun page => (page.socketRef, (page.streams 3).isSome)) = some (none, true) := by
    decide +kernel
  obtain ⟨page, hexec, hclosed⟩ := Option.map_eq_some_iff.mp hrun
  obtain ⟨hnone, hstream⟩ := Prod.mk.inj hclosed
  obtain ⟨s, hs⟩ := Option.isSome_iff_exists.mp hstream
  exact ⟨page, s, hexec, hs, (microphone_off_without_socket ⟨_, hexec⟩ hnone).1 3 s hs⟩

end VTNet.Proofs
