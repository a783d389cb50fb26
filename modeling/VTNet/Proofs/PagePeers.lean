import VTNet.Proofs.PageSockets
import VTNet.Reference

/-!
# Peer connections belong to one stay in a room

Handlers wait for their peer connections while other events run. The map holds exactly the
connections that are not closed, these are all from the present stay and socket, and so nothing
that was begun in an earlier stay is sent in a later one.
-/

namespace VTNet.Proofs

structure Peers (page : Page) : Prop where
  registered : ∀ peerUid k, page.peerConnectionsRef peerUid = some k →
    ∃ rtc, page.connections k = some rtc ∧ rtc.closed = false ∧ rtc.peerUid = peerUid
  running : ∀ k rtc, page.connections k = some rtc → rtc.closed = false →
    page.peerConnectionsRef rtc.peerUid = some k ∧ page.socketRef.isSome = true ∧
      rtc.socket = page.socketRef ∧ rtc.visit = page.visit
  audio : ∀ peerUid audio, page.remoteAudioRef peerUid = some audio →
    (page.peerConnectionsRef peerUid).isSome = true
  addressed : ∀ call promise k, page.calls call = some promise → connectionOf promise = some k →
    ∃ rtc, page.connections k = some rtc ∧ ∀ peerUid, peerOf promise = some peerUid →
      peerUid = rtc.peerUid
  signalled : ∀ f ∈ page.sent, ∀ k, f.connection = some k →
    ∃ rtc, page.connections k = some rtc ∧ rtc.socket = some f.socket ∧ rtc.visit = f.visit ∧
      ("target_uid", .str rtc.peerUid) ∈ f.payload

section Peers

variable {parseJson : String → Option JsonValue} {page page' moved : Page} {event : PageEvent}
  {call : ℕ} {promise : Await}

lemma peers_start : Peers Page.start := by
  refine ⟨nofun, nofun, nofun, fun call promise k h hk => ?_, nofun⟩
  rw [start_calls h] at hk
  cases hk

/-- Nothing happens to the connections, and no new call waits for one. -/
lemma Peers.same (h : Peers page) (hrefs : page'.peerConnectionsRef = page.peerConnectionsRef)
    (haudio : page'.remoteAudioRef = page.remoteAudioRef)
    (hconnections : page'.connections = page.connections)
    (href : page'.socketRef = page.socketRef) (hvisit : page'.visit = page.visit)
    (hsent : page'.sent = page.sent)
    (hcalls : ∀ call promise k, page'.calls call = some promise → connectionOf promise = some k →
      page.calls call = some promise) : Peers page' := by
  constructor
  · rw [hrefs, hconnections]
    exact h.registered
  · rw [hrefs, hconnections, href, hvisit]
    exact h.running
  · rw [hrefs, haudio]
    exact h.audio
  · rw [hconnections]
    exact fun call promise k hcall hk => h.addressed call promise k (hcalls call promise k hcall hk) hk
  · rw [hsent, hconnections]
    exact h.signalled

lemma calls_finish {call' : ℕ} (h : (page.finish call).calls call' = some promise) :
    page.calls call' = some promise := by
  rw [finish_calls] at h
  by_cases hc : call' = call
  · rw [hc, Function.update_self] at h
    cases h
  · rwa [Function.update_of_ne hc] at h

lemma calls_await {promise' : Await} {call' k : ℕ}
    (h : (page.await call promise').calls call' = some promise)
    (hk : connectionOf promise = some k) (hother : connectionOf promise' = none) :
    page.calls call' = some promise := by
  rw [await_calls] at h
  rcases updated_iff.mp h with ⟨-, rfl⟩ | ⟨-, h⟩
  · rw [hother] at hk
    cases hk
  · exact h

lemma Peers.finish (h : Peers page) (call : ℕ) : Peers (page.finish call) :=
  h.same rfl rfl rfl rfl rfl rfl (fun _ _ _ hcall _ => calls_finish hcall)

lemma Peers.sendMessage (h : Peers page) (name : String) (payload : List (String × JsonValue)) :
    Peers (page.sendMessage none name payload) := by
  refine { h with signalled := fun f hf k hk => ?_ }
  rcases List.mem_append.mp hf with hf | hf
  · exact h.signalled f hf k hk
  · obtain ⟨socket, -, rfl⟩ := Option.map_eq_some_iff.mp (Option.mem_toList.mp hf)
    cases hk

/-- A frame about an open connection goes out on the socket that it was made on. -/
lemma Peers.signal (h : Peers page) {k : ℕ} {rtc : RtcConnection}
    (known : page.connections k = some rtc) (running : rtc.closed = false) (name : String)
    {payload : List (String × JsonValue)} (htarget : ("target_uid", .str rtc.peerUid) ∈ payload) :
    Peers (page.sendMessage (some k) name payload) := by
  refine { h with signalled := fun f hf k' hk => ?_ }
  rcases List.mem_append.mp hf with hf | hf
  · exact h.signalled f hf k' hk
  · obtain ⟨socket, hsocket, rfl⟩ := Option.map_eq_some_iff.mp (Option.mem_toList.mp hf)
    obtain rfl := Option.some.inj hk
    obtain ⟨-, -, hmade, hvisit⟩ := h.running k rtc known running
    exact ⟨rtc, known, hmade.trans (openSocket_eq_some.mp hsocket).1, hvisit, htarget⟩

/-! ### Closing and making connections -/

/-- The same peer, made on the same socket in the same stay. -/
def SameOrigin (rtc rtc' : RtcConnection) : Prop :=
  rtc'.peerUid = rtc.peerUid ∧ rtc'.socket = rtc.socket ∧ rtc'.visit = rtc.visit

lemma Peers.addressed_of (h : Peers page) {connections : ℕ → Option RtcConnection}
    (hforth : ∀ k rtc, page.connections k = some rtc →
      ∃ rtc', connections k = some rtc' ∧ SameOrigin rtc rtc') :
    ∀ call promise k, page.calls call = some promise → connectionOf promise = some k →
      ∃ rtc, connections k = some rtc ∧ ∀ peerUid, peerOf promise = some peerUid →
        peerUid = rtc.peerUid := by
  intro call promise k hcall hk
  obtain ⟨rtc, hrtc, hpeer⟩ := h.addressed call promise k hcall hk
  obtain ⟨rtc', hrtc', huid, -, -⟩ := hforth k rtc hrtc
  exact ⟨rtc', hrtc', fun peerUid he => (hpeer peerUid he).trans huid.symm⟩

lemma Peers.signalled_of (h : Peers page) {connections : ℕ → Option RtcConnection}
    (hforth : ∀ k rtc, page.connections k = some rtc →
      ∃ rtc', connections k = some rtc' ∧ SameOrigin rtc rtc') :
    ∀ f ∈ page.sent, ∀ k, f.connection = some k →
      ∃ rtc, connections k = some rtc ∧ rtc.socket = some f.socket ∧ rtc.visit = f.visit ∧
        ("target_uid", .str rtc.peerUid) ∈ f.payload := by
  intro f hf k hk
  obtain ⟨rtc, hrtc, hsocket, hvisit, htarget⟩ := h.signalled f hf k hk
  obtain ⟨rtc', hrtc', huid, hsocket', hvisit'⟩ := hforth k rtc hrtc
  exact ⟨rtc', hrtc', hsocket'.trans hsocket, hvisit'.trans hvisit, by rwa [huid]⟩

lemma closing_forth (page : Page) (which : ℕ → RtcConnection → Bool) (k : ℕ) (rtc : RtcConnection)
    (h : page.connections k = some rtc) :
    ∃ rtc', page.closing which k = some rtc' ∧ SameOrigin rtc rtc' := by
  refine ⟨_, congrArg (Option.map _) h, ?_⟩
  dsimp only
  split <;> exact ⟨rfl, rfl, rfl⟩

/-- What is left open. -/
lemma closing_open {which : ℕ → RtcConnection → Bool} {k : ℕ} {rtc : RtcConnection}
    (h : page.closing which k = some rtc) (hopen : rtc.closed = false) :
    page.connections k = some rtc ∧ which k rtc = false := by
  obtain ⟨rtc', hrtc', rfl⟩ := Option.map_eq_some_iff.mp h
  split at hopen
  · cases hopen
  · rename_i hwhich
    rw [if_neg hwhich]
    exact ⟨hrtc', Bool.eq_false_iff.mpr hwhich⟩

lemma closing_kept {which : ℕ → RtcConnection → Bool} {k : ℕ} {rtc : RtcConnection}
    (h : page.connections k = some rtc) (hwhich : which k rtc = false) :
    page.closing which k = some rtc := by
  simp [Page.closing, h, hwhich]

/-- All connections that are open are in the map, so all are closed. -/
lemma Peers.none_open (h : Peers page) {k : ℕ} {rtc : RtcConnection}
    (hrtc : page.closePeers.connections k = some rtc) : rtc.closed = true := by
  by_contra hopen
  rw [Bool.not_eq_true] at hopen
  have hclosing : page.closing (fun k connection =>
    page.peerConnectionsRef connection.peerUid = some k) k = some rtc := hrtc
  obtain ⟨hrtc', hwhich⟩ := closing_open hclosing hopen
  exact of_decide_eq_false hwhich (h.running k rtc hrtc' hopen).1

/-- With all connections closed the client may go on to another stay or another socket. -/
lemma Peers.closePeers (h : Peers page) (socketRef : Option ℕ) (visit : ℕ) :
    Peers { page.closePeers with socketRef, visit } where
  registered := nofun
  running := fun _ _ hrtc hopen => by
    rw [h.none_open hrtc] at hopen
    cases hopen
  audio := nofun
  addressed := h.addressed_of (closing_forth page _)
  signalled := h.signalled_of (closing_forth page _)

lemma removePeer_other (page : Page) {uid peerUid : String} (huid : uid ≠ peerUid) :
    (page.removePeer peerUid).peerConnectionsRef uid = page.peerConnectionsRef uid ∧
      (page.removePeer peerUid).remoteAudioRef uid = page.remoteAudioRef uid :=
  ⟨Function.update_of_ne huid .., Function.update_of_ne huid ..⟩

lemma removePeer_self (page : Page) (peerUid : String) :
    (page.removePeer peerUid).peerConnectionsRef peerUid = none ∧
      (page.removePeer peerUid).remoteAudioRef peerUid = none :=
  ⟨Function.update_self .., Function.update_self ..⟩

/-- What is left open when a peer is removed. -/
lemma removePeer_open {peerUid : String} {k : ℕ} {rtc : RtcConnection}
    (h : (page.removePeer peerUid).connections k = some rtc) (hopen : rtc.closed = false) :
    page.connections k = some rtc ∧ page.peerConnectionsRef peerUid ≠ some k := by
  have hclosing : page.closing (fun k _ => page.peerConnectionsRef peerUid = some k) k =
    some rtc := h
  obtain ⟨hrtc, hwhich⟩ := closing_open hclosing hopen
  exact ⟨hrtc, of_decide_eq_false hwhich⟩

lemma Peers.removePeer (h : Peers page) (peerUid : String) : Peers (page.removePeer peerUid) where
  registered := by
    intro uid k hk
    have huid : uid ≠ peerUid := by
      rintro rfl
      rw [(removePeer_self page uid).1] at hk
      cases hk
    rw [(removePeer_other page huid).1] at hk
    obtain ⟨rtc, hrtc, hopen, hrtcUid⟩ := h.registered uid k hk
    have hother : page.peerConnectionsRef peerUid ≠ some k := by
      intro hpeer
      obtain ⟨rtc', hrtc', -, huid'⟩ := h.registered peerUid k hpeer
      obtain rfl := Option.some.inj (hrtc.symm.trans hrtc')
      exact huid (hrtcUid.symm.trans huid')
    have hkept : page.closing (fun k _ => page.peerConnectionsRef peerUid = some k) k =
      some rtc := closing_kept hrtc (decide_eq_false hother)
    exact ⟨rtc, hkept, hopen, hrtcUid⟩
  running := by
    intro k rtc hrtc hopen
    obtain ⟨hrtc', hother⟩ := removePeer_open hrtc hopen
    obtain ⟨href, hrest⟩ := h.running k rtc hrtc' hopen
    have huid : rtc.peerUid ≠ peerUid := by
      rintro rfl
      exact hother href
    exact ⟨(removePeer_other page huid).1.trans href, hrest⟩
  audio := by
    intro uid audio haudio
    have huid : uid ≠ peerUid := by
      rintro rfl
      rw [(removePeer_self page uid).2] at haudio
      cases haudio
    rw [(removePeer_other page huid).2] at haudio
    rw [(removePeer_other page huid).1]
    exact h.audio uid audio haudio
  addressed := h.addressed_of (closing_forth page _)
  signalled := h.signalled_of (closing_forth page _)

/-- The connection to a peer is there or is made for it. -/
lemma Peers.peerConnection (h : Peers page) (unused : page.unused call = true)
    (href : page.socketRef.isSome = true) (peerUid : String) :
    Peers (page.peerConnection call peerUid).2 ∧
      ∃ rtc, (page.peerConnection call peerUid).2.connections
        (page.peerConnection call peerUid).1 = some rtc ∧ rtc.peerUid = peerUid := by
  have hfree := (unused_iff.mp unused).2.2.2
  unfold Page.peerConnection
  cases hexisting : page.peerConnectionsRef peerUid with
  | some existing =>
    obtain ⟨rtc, hrtc, -, huid⟩ := h.registered peerUid existing hexisting
    exact ⟨h, rtc, hrtc, huid⟩
  | none =>
    have hforth : ∀ k rtc, page.connections k = some rtc → ∃ rtc', Function.update
        page.connections call (some ⟨peerUid, page.localStreamRef, false, page.socketRef,
          page.visit⟩) k = some rtc' ∧ SameOrigin rtc rtc' := by
      intro k rtc hrtc
      refine ⟨rtc, updated_iff.mpr (Or.inr ⟨?_, hrtc⟩), rfl, rfl, rfl⟩
      rintro rfl
      rw [hfree] at hrtc
      cases hrtc
    refine ⟨⟨?_, ?_, ?_, h.addressed_of hforth, h.signalled_of hforth⟩, _,
      Function.update_self .., rfl⟩
    · intro uid k hk
      by_cases huid : uid = peerUid
      · subst huid
        obtain rfl := Option.some.inj ((Function.update_self uid (some call)
          page.peerConnectionsRef).symm.trans hk)
        exact ⟨_, Function.update_self .., rfl, rfl⟩
      · have hk' : page.peerConnectionsRef uid = some k :=
          (Function.update_of_ne huid ..).symm.trans hk
        obtain ⟨rtc, hrtc, hopen, hrtcUid⟩ := h.registered uid k hk'
        refine ⟨rtc, updated_iff.mpr (Or.inr ⟨?_, hrtc⟩), hopen, hrtcUid⟩
        rintro rfl
        rw [hfree] at hrtc
        cases hrtc
    · intro k rtc hrtc hopen
      rcases updated_iff.mp hrtc with ⟨rfl, rfl⟩ | ⟨-, hrtc⟩
      · exact ⟨Function.update_self .., href, rfl, rfl⟩
      · obtain ⟨hk, hrest⟩ := h.running k rtc hrtc hopen
        have huid : rtc.peerUid ≠ peerUid := by
          rintro rfl
          rw [hexisting] at hk
          cases hk
        exact ⟨(Function.update_of_ne huid ..).trans hk, hrest⟩
    · intro uid audio haudio
      by_cases huid : uid = peerUid
      · rw [huid]
        simp
      · simpa only [Function.update_of_ne huid] using h.audio uid audio haudio

lemma Peers.await (h : Peers page) {k : ℕ} {rtc : RtcConnection}
    (known : page.connections k = some rtc) (waits : connectionOf promise = some k)
    (peer : ∀ peerUid, peerOf promise = some peerUid → peerUid = rtc.peerUid) :
    Peers (page.await call promise) := by
  refine { h with addressed := fun call' promise' k' hcall hk' => ?_ }
  rw [await_calls] at hcall
  rcases updated_iff.mp hcall with ⟨-, rfl⟩ | ⟨-, hcall⟩
  · obtain rfl := Option.some.inj (waits.symm.trans hk')
    exact ⟨rtc, known, peer⟩
  · exact h.addressed call' promise' k' hcall hk'

lemma isOpen_iff {k : ℕ} :
    page.isOpen k = true ↔ ∃ rtc, page.connections k = some rtc ∧ rtc.closed = false := by
  simp [Page.isOpen, Option.any_eq_true]

lemma Peers.move (h : Peers page) (hone : OneSocket page)
    (move : Move parseJson page event moved) :
    Peers moved := by
  cases move with
  | idle => exact h
  | finish => exact h.finish _
  | sign | askMicrophone =>
    exact h.same rfl rfl rfl rfl rfl rfl (fun _ _ _ hcall hk => calls_await hcall hk rfl)
  | dial userUid pending =>
    -- no connection is open while there is no socket
    refine { h.finish _ with running := fun k rtc hrtc hopen => ?_ }
    have hsocket := (h.running k rtc hrtc hopen).2.1
    rw [(hone.dialing _ _ pending).1] at hsocket
    cases hsocket
  | unidentified => exact { h.finish _ with }
  | hangUp => exact { h with }
  | opened =>
    refine Peers.sendMessage ?_ _ _
    exact { h with }
  | authenticated => exact { h with }
  | entered hears roomId => exact { h.closePeers page.socketRef (page.visit + 1) with }
  | left hears => exact { h.closePeers page.socketRef (page.visit + 1) with }
  | closed => exact { h.closePeers none (page.visit + 1) with }
  | meet hears unused peerUid waits peer =>
    obtain ⟨socket, -, -, s, -, known, opened⟩ := hears
    have href := hone.live socket s known (by rw [opened]; nofun)
    obtain ⟨hmet, rtc, hrtc, huid⟩ := h.peerConnection unused (by rw [href]; rfl) peerUid
    exact hmet.await hrtc waits (fun uid he => (peer uid he).trans huid.symm)
  | dropPeer hears peerUid => exact h.removePeer peerUid
  | advance pending waits opened waits' peer =>
    obtain ⟨rtc, hrtc, huid⟩ := h.addressed _ _ _ pending waits
    exact h.await hrtc waits' (fun uid he => huid uid (peer.symm.trans he))
  | describe pending waits opened peer =>
    obtain ⟨rtc, hrtc, huid⟩ := h.addressed _ _ _ pending waits
    obtain ⟨rtc', hrtc', running⟩ := isOpen_iff.mp opened
    obtain rfl := Option.some.inj (hrtc.symm.trans hrtc')
    exact (h.finish _).signal hrtc running _ (by simp [huid _ peer])
  | offerCandidate known running => exact h.signal known running _ (by simp)
  | @track k rtc known running audio =>
    refine { h with audio := fun uid audio' haudio => ?_ }
    by_cases huid : uid = rtc.peerUid
    · rw [huid, (h.running k rtc known running).1]
      rfl
    · exact h.audio uid audio' ((Function.update_of_ne huid ..).symm.trans haudio)
  | say name other payload => exact h.sendMessage _ _
  | respond => exact (h.finish _).sendMessage _ _
  | granted =>
    refine Peers.sendMessage ?_ _ _
    exact { h.finish _ with }
  | effect => exact { h with }
  | unmount =>
    have hclosing : Peers page.closeSocket := { h with }
    exact { hclosing.closePeers page.socketRef page.visit with }

lemma Peers.step {parseJson : String → Option JsonValue} (h : Peers page) (hone : OneSocket page)
    (hstep : page.step parseJson event = some page') : Peers page' := by
  cases pageStepped_of_step hstep with
  | plain move shown => exact { h.move hone move with }
  | click move shown => exact { h.move hone move with }
  | press press shown =>
    cases press with
    | connect unused disconnected =>
      exact h.same rfl rfl rfl rfl rfl rfl (fun _ _ _ hcall hk => calls_await hcall hk rfl)
    | toggle click => exact { h with }

end Peers

/-! ### The room that a frame names -/

/-- Messages are handled while the ref and the state agree. -/
def upToDate (page : Page) : PageEvent → Bool
  | .message _ _ _ => page.activeRoomRef = page.activeRoomId
  | _ => true

structure Situated (page : Page) : Prop where
  pending : page.connectionStatus ≠ .disconnected → page.activeRoomRef = page.activeRoomId →
    ∀ roomId, page.effect = some roomId → roomId = page.activeRoomId
  inside : ∀ k, page.isOpen k = true → page.activeRoomRef = page.activeRoomId
  offers : ∀ call promise k roomId, page.calls call = some promise →
    offerOf promise = some (k, roomId) → page.isOpen k = true → roomId = page.activeRoomId
  named : ∀ f ∈ page.sent, f.connection.isSome = true →
    ("room_id", nullable f.activeRoomId) ∈ f.payload

section Rooms

variable {parseJson : String → Option JsonValue} {page page' moved : Page} {event : PageEvent}
  {call : ℕ} {promise : Await}

lemma situated_start : Situated Page.start := by
  refine ⟨fun h => absurd rfl h, nofun, fun call promise k roomId h hk => ?_, nofun⟩
  rw [start_calls h] at hk
  cases hk

lemma connectionOf_offer {k : ℕ} {roomId : Option String} (h : offerOf promise = some (k, roomId)) :
    connectionOf promise = some k := by
  cases promise with
  | createOffer | localOffer =>
    cases h
    rfl
  | _ => cases h

/-- Nothing happens to the rooms, and no other connection is open. -/
lemma Situated.same (h : Situated page) (href : page'.activeRoomRef = page.activeRoomRef)
    (hroom : page'.activeRoomId = page.activeRoomId) (heffect : page'.effect = page.effect)
    (hstatus : page'.connectionStatus ≠ .disconnected → page.connectionStatus ≠ .disconnected)
    (hopen : ∀ k, page'.isOpen k = true → page.isOpen k = true)
    (hsent : page'.sent = page.sent)
    (hcalls : ∀ call promise offer, page'.calls call = some promise →
      offerOf promise = some offer → page.calls call = some promise) : Situated page' := by
  constructor
  · rw [href, hroom, heffect]
    exact fun hconnected => h.pending (hstatus hconnected)
  · rw [href, hroom]
    exact fun k hk => h.inside k (hopen k hk)
  · rw [hroom]
    exact fun call promise k roomId hcall hoffer hk =>
      h.offers call promise k roomId (hcalls call promise _ hcall hoffer) hoffer (hopen k hk)
  · rw [hsent]
    exact h.named

/-- All connections are closed. -/
lemma Situated.alone (h : Situated page) (hnone : ∀ k, page'.isOpen k = false)
    (hsent : page'.sent = page.sent)
    (hpending : page'.connectionStatus ≠ .disconnected → page'.activeRoomRef = page'.activeRoomId →
      ∀ roomId, page'.effect = some roomId → roomId = page'.activeRoomId) : Situated page' := by
  refine ⟨hpending, fun k hk => ?_, fun call promise k roomId hcall hoffer hk => ?_, ?_⟩
  · rw [hnone k] at hk
    cases hk
  · rw [hnone k] at hk
    cases hk
  · rw [hsent]
    exact h.named

lemma Situated.runEffect (h : Situated page) (hone : OneSocket page) (hpeers : Peers page) :
    Situated page.runEffect := by
  refine { h with pending := nofun, inside := fun k hk => ?_ }
  obtain ⟨rtc, hrtc, hopen⟩ := isOpen_iff.mp hk
  have hsocket := (hpeers.running k rtc hrtc hopen).2.1
  have hconnected : page.connectionStatus ≠ .disconnected := by
    intro hstatus
    rw [(hone.disconnected.mp hstatus).1] at hsocket
    cases hsocket
  have hinside := h.inside k hk
  cases heffect : page.effect with
  | none => simpa [Page.runEffect, heffect] using hinside
  | some roomId =>
    simpa [Page.runEffect, heffect] using h.pending hconnected hinside roomId heffect

lemma Situated.render (h : Situated page) (hone : OneSocket page) (hpeers : Peers page) :
    Situated page.render := by
  refine { h.runEffect hone hpeers with pending := fun _ _ roomId heffect => ?_ }
  obtain ⟨-, he⟩ := Option.ite_none_left_eq_some.mp heffect
  exact (Option.some.inj he).symm

lemma Situated.signal (h : Situated page) (k : ℕ) (name : String)
    {payload : List (String × JsonValue)}
    (hroom : ("room_id", nullable page.activeRoomId) ∈ payload) :
    Situated (page.sendMessage (some k) name payload) := by
  refine { h with named := fun f hf hsome => ?_ }
  rcases List.mem_append.mp hf with hf | hf
  · exact h.named f hf hsome
  · obtain ⟨socket, -, rfl⟩ := Option.map_eq_some_iff.mp (Option.mem_toList.mp hf)
    exact hroom

lemma Situated.sendMessage (h : Situated page) (name : String) (payload : List (String × JsonValue)) :
    Situated (page.sendMessage none name payload) := by
  refine { h with named := fun f hf hsome => ?_ }
  rcases List.mem_append.mp hf with hf | hf
  · exact h.named f hf hsome
  · obtain ⟨socket, -, rfl⟩ := Option.map_eq_some_iff.mp (Option.mem_toList.mp hf)
    cases hsome

lemma Situated.finish (h : Situated page) (call : ℕ) : Situated (page.finish call) :=
  h.same rfl rfl rfl id (fun _ => id) rfl (fun _ _ _ hcall _ => calls_finish hcall)

lemma calls_await_offer {promise' : Await} {call' : ℕ} {offer : ℕ × Option String}
    (h : (page.await call promise').calls call' = some promise)
    (hoffer : offerOf promise = some offer) (hother : offerOf promise' = none) :
    page.calls call' = some promise := by
  rw [await_calls] at h
  rcases updated_iff.mp h with ⟨-, rfl⟩ | ⟨-, h⟩
  · rw [hother] at hoffer
    cases hoffer
  · exact h

lemma isOpen_closePeers (h : Peers page) (k : ℕ) : page.closePeers.isOpen k = false := by
  rw [Bool.eq_false_iff]
  intro hk
  obtain ⟨rtc, hrtc, hopen⟩ := isOpen_iff.mp hk
  rw [h.none_open hrtc] at hopen
  cases hopen

lemma isOpen_removePeer {peerUid : String} {k : ℕ}
    (hk : (page.removePeer peerUid).isOpen k = true) : page.isOpen k = true := by
  obtain ⟨rtc, hrtc, hopen⟩ := isOpen_iff.mp hk
  exact isOpen_iff.mpr ⟨rtc, (removePeer_open hrtc hopen).1, hopen⟩

lemma isOpen_peerConnection {peerUid : String} {k : ℕ} (hne : k ≠ call)
    (hk : (page.peerConnection call peerUid).2.isOpen k = true) : page.isOpen k = true := by
  unfold Page.peerConnection at hk
  split at hk
  · exact hk
  · simpa only [Page.isOpen, Function.update_of_ne hne] using hk

lemma Situated.meet (h : Situated page) (hpeers : Peers page)
    (hfresh : page.activeRoomRef = page.activeRoomId) (unused : page.unused call = true)
    {peerUid : String}
    (room : ∀ k roomId, offerOf promise = some (k, roomId) → roomId = page.activeRoomRef) :
    Situated ((page.peerConnection call peerUid).2.await call promise) := by
  have hcalls : (page.peerConnection call peerUid).2.calls = page.calls := by
    rw [peerConnection_eq]
    rfl
  refine ⟨?_, ?_, ?_, ?_⟩
  · rw [peerConnection_eq]
    exact h.pending
  · rw [peerConnection_eq]
    exact fun _ _ => hfresh
  · intro call' promise' k roomId hcall hoffer hk
    rw [await_calls, hcalls] at hcall
    have hroom : roomId = page.activeRoomId := by
      rcases updated_iff.mp hcall with ⟨-, rfl⟩ | ⟨-, hcall⟩
      · exact (room k roomId hoffer).trans hfresh
      · obtain ⟨rtc, hrtc, -⟩ := hpeers.addressed call' promise' k hcall (connectionOf_offer hoffer)
        have hne : k ≠ call := by
          rintro rfl
          rw [(unused_iff.mp unused).2.2.2] at hrtc
          cases hrtc
        exact h.offers call' promise' k roomId hcall hoffer (isOpen_peerConnection hne hk)
    rw [peerConnection_eq]
    exact hroom
  · rw [peerConnection_eq]
    exact h.named

lemma Situated.move (h : Situated page) (hone : OneSocket page) (hpeers : Peers page)
    (hfresh : Hears page event → page.activeRoomRef = page.activeRoomId)
    (move : Move parseJson page event moved) : Situated moved := by
  have hnone : ∀ k, page.closePeers.isOpen k = false := isOpen_closePeers hpeers
  cases move with
  | idle => exact h
  | finish => exact h.finish _
  | sign | askMicrophone =>
    exact h.same rfl rfl rfl id (fun _ => id) rfl
      (fun _ _ _ hcall hoffer => calls_await_offer hcall hoffer rfl)
  | dial userUid pending => exact { h.finish _ with }
  | unidentified => exact { h.finish _ with pending := fun hconnected => absurd rfl hconnected }
  | hangUp => exact { h with }
  | opened known connecting =>
    refine Situated.sendMessage ?_ _ _
    have hconnected := (hone.running known (by rw [connecting]; nofun)).2.1
    exact { h with pending := fun _ => h.pending hconnected }
  | authenticated hears =>
    obtain ⟨socket, -, -, s, -, known, opened⟩ := hears
    have hconnected := (hone.running known (by rw [opened]; nofun)).2.1
    exact { h with pending := fun _ => h.pending hconnected }
  | entered hears roomId =>
    refine h.alone hnone rfl (fun hconnected href r heffect => ?_)
    exact ((h.pending hconnected (hfresh hears) r heffect).trans (hfresh hears).symm).trans href
  | left hears =>
    refine h.alone hnone rfl (fun hconnected href r heffect => ?_)
    exact ((h.pending hconnected (hfresh hears) r heffect).trans (hfresh hears).symm).trans href
  | closed =>
    exact h.alone hnone rfl (fun hconnected => absurd rfl hconnected)
  | meet hears unused peerUid waits peer room => exact h.meet hpeers (hfresh hears) unused room
  | dropPeer hears peerUid =>
    exact h.same rfl rfl rfl id (fun _ => isOpen_removePeer) rfl (fun _ _ _ hcall _ => hcall)
  | @advance call k promise promise' pending waits opened waits' peer kept =>
    refine { h with offers := fun call' promise'' k' roomId hcall hoffer hk => ?_ }
    rw [await_calls] at hcall
    rcases updated_iff.mp hcall with ⟨-, rfl⟩ | ⟨-, hcall⟩
    · exact h.offers call promise k' roomId pending (kept _ hoffer) hk
    · exact h.offers call' promise'' k' roomId hcall hoffer hk
  | @describe call k promise pending waits opened peerUid peer sdpType sdp roomId room =>
    have hroom : roomId = page.activeRoomId := by
      rcases room with hroom | hoffer
      · exact hroom.trans (h.inside k opened)
      · exact h.offers call promise k roomId pending hoffer opened
    exact (h.finish call).signal k _ (by simp [hroom, Page.finish])
  | @offerCandidate k rtc roomId known running room candidate =>
    have hroom := h.inside k (isOpen_iff.mpr ⟨rtc, known, running⟩)
    rw [room] at hroom
    exact h.signal k _ (by simp [← hroom, nullable])
  | track => exact { h with }
  | say => exact h.sendMessage _ _
  | respond => exact (h.finish _).sendMessage _ _
  | granted =>
    refine Situated.sendMessage ?_ _ _
    exact { h.finish _ with }
  | effect => exact h.runEffect hone hpeers
  | unmount => exact h.alone hnone rfl h.pending

lemma Situated.step {parseJson : String → Option JsonValue} (h : Situated page)
    (hone : OneSocket page) (hpeers : Peers page) (hallowed : upToDate page event = true)
    (hstep : page.step parseJson event = some page') : Situated page' := by
  have hfresh : Hears page event → page.activeRoomRef = page.activeRoomId := by
    rintro ⟨socket, call, rawPayload, -, rfl, -⟩
    exact of_decide_eq_true hallowed
  cases pageStepped_of_step hstep with
  | plain move shown => exact { h.move hone hpeers hfresh move with }
  | click move shown =>
    refine Situated.render ?_ ((hone.move move).shown shown) ?_
    · exact { h.move hone hpeers hfresh move with }
    · exact { hpeers.move hone move with }
  | press press shown =>
    cases press with
    | connect unused disconnected =>
      have hrendered : ∀ r, (if page.activeRoomId = page.rendered.activeRoomId then none
          else some page.activeRoomId) = some r → r = page.activeRoomId := by
        intro r heffect
        obtain ⟨-, he⟩ := Option.ite_none_left_eq_some.mp heffect
        exact (Option.some.inj he).symm
      have hnone : ∀ k, page.isOpen k = false := by
        intro k
        rw [Bool.eq_false_iff]
        intro hk
        obtain ⟨rtc, hrtc, hopen⟩ := isOpen_iff.mp hk
        have hsocket := (hpeers.running k rtc hrtc hopen).2.1
        rw [(hone.disconnected.mp (hone.rendered disconnected)).1] at hsocket
        cases hsocket
      exact h.alone hnone rfl (fun _ _ => hrendered)
    | toggle click =>
      refine Situated.render ?_ ?_ ?_
      · exact { h with }
      · exact hone.same rfl rfl rfl rfl (fun _ _ => Iff.rfl)
      · exact { hpeers with }

end Rooms

/-! ### Runs -/

section Runs

variable {parseJson : String → Option JsonValue} {page : Page}

lemma peers_of_reachable (h : Execution.Reachable (Page.step parseJson) Page.start page) :
    Peers page :=
  Execution.invariant_of_reachable_step peers_start
    (fun _ _ _ hreach hpeers hstep => hpeers.step (oneSocket_of_reachable hreach) hstep) h

/-- The pages of a run that handles messages only once it is up to date. -/
lemma situated_of_reachable
    (h : Execution.Reachable (Execution.within (Page.step parseJson) upToDate) Page.start page) :
    OneSocket page ∧ Peers page ∧ Situated page := by
  refine @Execution.invariant_of_step _ _ _ (fun page => OneSocket page ∧ Peers page ∧ Situated page)
    _ ⟨oneSocket_start, peers_start, situated_start⟩ ?_ _ h
  rintro page event page' ⟨hone, hpeers, hsituated⟩ hwithin
  obtain ⟨hallowed, hstep⟩ := Execution.within_eq_some.mp hwithin
  exact ⟨hone.step hstep, hpeers.step hone hstep, hsituated.step hone hpeers hallowed hstep⟩

end Runs

/-- Whatever the order of events, the map holds the connections that are not closed, audio plays of
their peers only, and without a socket none is left. -/
theorem no_connection_leaks {parseJson : String → Option JsonValue} {page : Page}
    (h : Execution.Reachable (Page.step parseJson) Page.start page) :
    (∀ k rtc, page.connections k = some rtc →
        (rtc.closed = false ↔ page.peerConnectionsRef rtc.peerUid = some k)) ∧
      (∀ peerUid k, page.peerConnectionsRef peerUid = some k →
        ∃ rtc, page.connections k = some rtc ∧ rtc.peerUid = peerUid) ∧
      (∀ peerUid audio, page.remoteAudioRef peerUid = some audio →
        (page.peerConnectionsRef peerUid).isSome = true) ∧
      (page.socketRef = none → ∀ k rtc, page.connections k = some rtc → rtc.closed = true) := by
  have hpeers := peers_of_reachable h
  refine ⟨fun k rtc hrtc => ⟨fun hopen => (hpeers.running k rtc hrtc hopen).1, fun href => ?_⟩,
    fun peerUid k href => ?_, hpeers.audio, fun hnone k rtc hrtc => ?_⟩
  · obtain ⟨rtc', hrtc', hopen, -⟩ := hpeers.registered rtc.peerUid k href
    obtain rfl := Option.some.inj (hrtc.symm.trans hrtc')
    exact hopen
  · obtain ⟨rtc, hrtc, -, huid⟩ := hpeers.registered peerUid k href
    exact ⟨rtc, hrtc, huid⟩
  · by_contra hopen
    rw [Bool.not_eq_true] at hopen
    have hsocket := (hpeers.running k rtc hrtc hopen).2.1
    rw [hnone] at hsocket
    cases hsocket

/-- A user joins a room, and another one comes in. -/
def pageMeeting : List PageEvent :=
  let room := "01010101-0101-4101-8101-010101010101"
  let told (event : String) (payload : List (String × String)) : String :=
    sendMessageText event (payload.map fun field => (field.1, ofString field.2))
  [.settle 0 (.text "me"), .render, .connect 1, .settle 1 (.text "me"), .opened 1,
    .message 1 2 (told "auth_success" []), .render, .inputRoom room, .join 3, .settle 3 .done,
    .message 1 4 (told "voice_room_joined" [("room_id", room)]), .render, .effect,
    .message 1 5 (told "peer_joined_room" [("room_id", room), ("peer_uid", "you")]),
    .settle 5 (.text "sdp"), .settle 5 .done]

/-- Whether the page has sent its offer over the open connection. -/
def hasOffered (page : Page) : Bool :=
  page.peerConnectionsRef "you" = some 5 ∧ page.isOpen 5 = true ∧
    (page.sent.map fun f => (f.event, f.connection)).contains ("send_web_rtc_sdp", some 5)

lemma pageMeeting_leaves : ∃ page, Execution.exec
    (Execution.within (Page.step Reference.parseJson) upToDate) Page.start pageMeeting =
      some page ∧ hasOffered page = true := by
  have hrun : (Execution.exec (Execution.within (Page.step Reference.parseJson) upToDate)
      Page.start pageMeeting).map hasOffered = some true := by
    decide +kernel
  exact Option.map_eq_some_iff.mp hrun

theorem no_connection_leaks_meeting : ∃ page,
    Execution.exec (Page.step Reference.parseJson) Page.start pageMeeting = some page ∧
      page.peerConnectionsRef "you" = some 5 ∧
      ∃ rtc, page.connections 5 = some rtc ∧ rtc.peerUid = "you" ∧ rtc.closed = false := by
  obtain ⟨page, hexec, hoffered⟩ := pageMeeting_leaves
  obtain ⟨href, -, -⟩ := of_decide_eq_true hoffered
  have hrun := Execution.exec_of_within hexec
  obtain ⟨hopen, hknown, -⟩ := no_connection_leaks ⟨_, hrun⟩
  obtain ⟨rtc, hrtc, huid⟩ := hknown "you" 5 href
  exact ⟨page, hrun, href, rtc, hrtc, huid, (hopen 5 rtc hrtc).mpr (by rw [huid, href])⟩

/-- A description or candidate is sent to the peer of the connection that it is of, over the socket
and within the stay in a room in which that connection was made, however long the client has waited
for it. -/
theorem signalling_stays {parseJson : String → Option JsonValue} {page : Page}
    (h : Execution.Reachable (Page.step parseJson) Page.start page) :
    ∀ f ∈ page.sent, ∀ k, f.connection = some k →
      ∃ rtc, page.connections k = some rtc ∧ rtc.socket = some f.socket ∧ rtc.visit = f.visit ∧
        ("target_uid", .str rtc.peerUid) ∈ f.payload :=
  (peers_of_reachable h).signalled

theorem signalling_stays_meeting : ∃ page,
    Execution.exec (Page.step Reference.parseJson) Page.start pageMeeting = some page ∧
      ∃ f ∈ page.sent, f.event = "send_web_rtc_sdp" ∧ ("target_uid", .str "you") ∈ f.payload := by
  obtain ⟨page, hexec, hoffered⟩ := pageMeeting_leaves
  obtain ⟨href, hopen, hsent⟩ := of_decide_eq_true hoffered
  have hrun := Execution.exec_of_within hexec
  obtain ⟨f, hf, hframe⟩ := List.mem_map.mp (List.contains_iff_mem.mp hsent)
  obtain ⟨hevent, hconnection⟩ := Prod.mk.inj hframe
  obtain ⟨rtc, hrtc, -, -, htarget⟩ := signalling_stays ⟨_, hrun⟩ f hf 5 hconnection
  obtain ⟨rtc', hrtc', -, huid⟩ := (peers_of_reachable ⟨_, hrun⟩).registered "you" 5 href
  obtain rfl := Option.some.inj (hrtc.symm.trans hrtc')
  exact ⟨page, hrun, f, hf, hevent, huid ▸ htarget⟩

/-- Where messages are handled only while the ref and the state agree, it names the room that is
active when it is sent. -/
theorem signalling_names_room {parseJson : String → Option JsonValue} {page : Page}
    (h : Execution.Reachable (Execution.within (Page.step parseJson) upToDate) Page.start page) :
    (∀ f ∈ page.sent, f.connection.isSome = true →
        ("room_id", nullable f.activeRoomId) ∈ f.payload) ∧
      ∀ k rtc, page.connections k = some rtc → rtc.closed = false →
        page.activeRoomRef = page.activeRoomId := by
  obtain ⟨-, -, hsituated⟩ := situated_of_reachable h
  exact ⟨hsituated.named,
    fun k rtc hrtc hopen => hsituated.inside k (isOpen_iff.mpr ⟨rtc, hrtc, hopen⟩)⟩

theorem signalling_names_room_meeting : ∃ page, Execution.exec
    (Execution.within (Page.step Reference.parseJson) upToDate) Page.start pageMeeting =
      some page ∧ page.activeRoomRef = page.activeRoomId ∧
      ∃ f ∈ page.sent, f.event = "send_web_rtc_sdp" ∧
        ("room_id", nullable f.activeRoomId) ∈ f.payload := by
  obtain ⟨page, hexec, hoffered⟩ := pageMeeting_leaves
  obtain ⟨-, hopen, hsent⟩ := of_decide_eq_true hoffered
  obtain ⟨rtc, hrtc, hrunning⟩ := isOpen_iff.mp hopen
  obtain ⟨f, hf, hframe⟩ := List.mem_map.mp (List.contains_iff_mem.mp hsent)
  obtain ⟨hevent, hconnection⟩ := Prod.mk.inj hframe
  obtain ⟨hnamed, hinside⟩ := signalling_names_room ⟨_, hexec⟩
  exact ⟨page, hexec, hinside 5 rtc hrtc hrunning, f, hf, hevent,
    hnamed f hf (by rw [hconnection]; rfl)⟩

end VTNet.Proofs
