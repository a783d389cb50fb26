import VTNet.Proofs.PageSteps

/-!
# One socket at a time

A socket's listeners do not know their socket and go through `socketRef`. All the same, the client
has at most one socket that is not closed, `socketRef` holds that one, and the status says how far
it is. On every socket the client says first who it is.
-/

namespace VTNet.Proofs

structure OneSocket (page : Page) : Prop where
  live : ∀ socket s, page.sockets socket = some s → s.readyState ≠ .closed →
    page.socketRef = some socket
  ref : ∀ socket, page.socketRef = some socket →
    ∃ s, page.sockets socket = some s ∧ s.readyState ≠ .closed
  dialing : ∀ call identity, page.calls call = some (.identity identity) →
    page.socketRef = none ∧ page.connectionStatus = .connecting ∧ page.sockets call = none
  one_call : ∀ call call' identity identity', page.calls call = some (.identity identity) →
    page.calls call' = some (.identity identity') → call = call'
  disconnected : page.connectionStatus = .disconnected ↔
    page.socketRef = none ∧ ∀ call identity, page.calls call ≠ some (.identity identity)
  rendered : page.rendered.connectionStatus = .disconnected → page.connectionStatus = .disconnected
  connecting : ∀ socket s, page.sockets socket = some s → s.readyState = .connecting →
    page.connectionStatus = .connecting
  opened : ∀ socket s, page.sockets socket = some s → s.readyState = .opened →
    page.connectionStatus = .authenticating ∨ page.connectionStatus = .connected

section Sockets

variable {parseJson : String → Option JsonValue} {page page' moved : Page} {event : PageEvent}
  {call : ℕ} {promise : Await}

lemma oneSocket_start : OneSocket Page.start := by
  have hcalls : ∀ call identity, Page.start.calls call ≠ some (.identity identity) :=
    fun _ _ h => nomatch start_calls h
  exact ⟨nofun, nofun, fun call identity h => absurd h (hcalls call identity),
    fun call _ identity _ h => absurd h (hcalls call identity),
    ⟨fun _ => ⟨rfl, hcalls⟩, fun _ => rfl⟩, fun _ => rfl, nofun, nofun⟩

lemma OneSocket.render (h : OneSocket page) : OneSocket page.render := { h with rendered := id }

lemma OneSocket.shown (h : OneSocket page) (shown : Shown) : OneSocket (shown.on page) := { h with }

/-- Nothing happens to the sockets. -/
lemma OneSocket.same (h : OneSocket page) (href : page'.socketRef = page.socketRef)
    (hsockets : page'.sockets = page.sockets)
    (hstatus : page'.connectionStatus = page.connectionStatus)
    (hrendered : page'.rendered = page.rendered)
    (hcalls : ∀ call identity, page'.calls call = some (.identity identity) ↔
      page.calls call = some (.identity identity)) : OneSocket page' := by
  constructor <;> simp only [href, hsockets, hstatus, hrendered, hcalls, ne_eq]
  · exact h.live
  · exact h.ref
  · exact h.dialing
  · exact h.one_call
  · exact h.disconnected
  · exact h.rendered
  · exact h.connecting
  · exact h.opened

lemma identity_await (hcall : ∀ identity, page.calls call ≠ some (.identity identity))
    (hpromise : ∀ identity, promise ≠ .identity identity) (call' : ℕ) (identity : Option String) :
    (page.await call promise).calls call' = some (.identity identity) ↔
      page.calls call' = some (.identity identity) := by
  rw [await_calls]
  by_cases hc : call' = call
  · subst hc
    rw [Function.update_self]
    exact ⟨fun h => absurd (Option.some.inj h) (hpromise identity),
      fun h => absurd h (hcall identity)⟩
  · rw [Function.update_of_ne hc]

lemma identity_finish (hcall : ∀ identity, page.calls call ≠ some (.identity identity))
    (call' : ℕ) (identity : Option String) :
    (page.finish call).calls call' = some (.identity identity) ↔
      page.calls call' = some (.identity identity) := by
  rw [finish_calls]
  by_cases hc : call' = call
  · subst hc
    rw [Function.update_self]
    exact ⟨nofun, fun h => absurd h (hcall identity)⟩
  · rw [Function.update_of_ne hc]

lemma calls_of_unused (unused : page.unused call = true) (identity : Option String) :
    page.calls call ≠ some (.identity identity) := by
  rw [(unused_iff.mp unused).1]
  nofun

lemma calls_of_pending (pending : page.calls call = some promise)
    (other : ∀ identity, promise ≠ .identity identity) (identity : Option String) :
    page.calls call ≠ some (.identity identity) := by
  rw [pending]
  exact fun h => other identity (Option.some.inj h)

lemma other_of_connection {connection : ℕ} (waits : connectionOf promise = some connection)
    (identity : Option String) : promise ≠ .identity identity := by
  rintro rfl
  cases waits

/-- A socket of the page once it has been told to close. -/
lemma socket_of_closeSocket {socket : ℕ} {s : Socket}
    (h : page.closeSocket.sockets socket = some s) : ∃ s', page.sockets socket = some s' ∧
      s.userUid = s'.userUid ∧ (s.readyState = s'.readyState ∨
        s'.readyState ≠ .closed ∧ s.readyState = .closing) := by
  unfold Page.closeSocket at h
  cases href : page.socketRef with
  | none =>
    simp only [href] at h
    exact ⟨s, h, rfl, Or.inl rfl⟩
  | some current =>
    simp only [href] at h
    by_cases hsocket : socket = current
    · rw [hsocket, Function.update_self] at h
      obtain ⟨s', hs', he⟩ := Option.map_eq_some_iff.mp h
      rw [hsocket]
      refine ⟨s', hs', ?_⟩
      split at he
      · rw [← he]
        exact ⟨rfl, Or.inl rfl⟩
      · rename_i hopen
        rw [← he]
        exact ⟨rfl, Or.inr ⟨hopen, rfl⟩⟩
    · rw [Function.update_of_ne hsocket] at h
      exact ⟨s, h, rfl, Or.inl rfl⟩

lemma sockets_of_closeSocket {socket : ℕ} {s : Socket} (h : page.sockets socket = some s) :
    ∃ s', page.closeSocket.sockets socket = some s' ∧
      (s.readyState ≠ .closed → s'.readyState ≠ .closed) ∧
      (s'.readyState = .connecting → s.readyState = .connecting) := by
  unfold Page.closeSocket
  cases href : page.socketRef with
  | none => exact ⟨s, h, id, id⟩
  | some current =>
    by_cases hsocket : socket = current
    · subst hsocket
      refine ⟨_, by simp only [Function.update_self, h, Option.map_some]; rfl, ?_⟩
      split
      · exact ⟨id, id⟩
      · exact ⟨fun _ => nofun, nofun⟩
    · exact ⟨s, by simpa only [Function.update_of_ne hsocket] using h, id, id⟩

lemma OneSocket.closeSocket (h : OneSocket page) : OneSocket page.closeSocket := by
  refine { h with live := ?_, ref := ?_, dialing := ?_, connecting := ?_, opened := ?_ }
  · intro socket s hs hopen
    obtain ⟨s', hs', -, hstate⟩ := socket_of_closeSocket hs
    apply h.live socket s' hs'
    rcases hstate with hsame | ⟨hopen', -⟩
    · rwa [← hsame]
    · exact hopen'
  · intro socket href
    obtain ⟨s, hs, hopen⟩ := h.ref socket href
    obtain ⟨s', hs', hopen', -⟩ := sockets_of_closeSocket hs
    exact ⟨s', hs', hopen' hopen⟩
  · intro call identity hcall
    obtain ⟨hnone, hstatus, hfree⟩ := h.dialing call identity hcall
    refine ⟨hnone, hstatus, ?_⟩
    rw [Page.closeSocket, hnone]
    exact hfree
  · intro socket s hs hstate
    obtain ⟨s', hs', -, hsame | ⟨-, hclosing⟩⟩ := socket_of_closeSocket hs
    · exact h.connecting socket s' hs' (hsame.symm.trans hstate)
    · rw [hclosing] at hstate
      cases hstate
  · intro socket s hs hstate
    obtain ⟨s', hs', -, hsame | ⟨-, hclosing⟩⟩ := socket_of_closeSocket hs
    · exact h.opened socket s' hs' (hsame.symm.trans hstate)
    · rw [hclosing] at hstate
      cases hstate

/-- While the client asks for its identity no socket is open. -/
lemma OneSocket.all_closed (h : OneSocket page) (hnone : page.socketRef = none) {socket : ℕ}
    {s : Socket} (hs : page.sockets socket = some s) : s.readyState = .closed := by
  by_contra hopen
  rw [h.live socket s hs hopen] at hnone
  cases hnone

/-- Only one call asks for the identity. -/
lemma OneSocket.identified (h : OneSocket page) {identity : Option String}
    (pending : page.calls call = some (.identity identity)) (call' : ℕ)
    (identity' : Option String) : (page.finish call).calls call' ≠ some (.identity identity') := by
  intro hcall
  by_cases hc : call' = call
  · rw [hc, finish_calls, Function.update_self] at hcall
    cases hcall
  · rw [finish_calls, Function.update_of_ne hc] at hcall
    exact hc (h.one_call call' call identity' identity hcall pending)

lemma OneSocket.dial (h : OneSocket page) {identity : Option String} (userUid : String)
    (pending : page.calls call = some (.identity identity)) : OneSocket { page.finish call with
      sockets := Function.update page.sockets call (some ⟨.connecting, userUid, identity⟩)
      socketRef := some call } := by
  obtain ⟨hnone, hstatus, -⟩ := h.dialing call identity pending
  have hcalls := h.identified pending
  have hother : ∀ socket s, Function.update page.sockets call
      (some ⟨.connecting, userUid, identity⟩) socket = some s → s.readyState ≠ .closed →
      socket = call ∧ s.readyState = .connecting := by
    intro socket s hs hopen
    rcases updated_iff.mp hs with ⟨hc, rfl⟩ | ⟨-, hs⟩
    · exact ⟨hc, rfl⟩
    · exact absurd (h.all_closed hnone hs) hopen
  constructor
  · exact fun socket s hs hopen => congrArg some (hother socket s hs hopen).1.symm
  · rintro socket ⟨⟩
    exact ⟨_, Function.update_self .., fun hclosed => by cases hclosed⟩
  · exact fun call' identity' hcall => absurd hcall (hcalls call' identity')
  · exact fun call' _ identity' _ hcall => absurd hcall (hcalls call' identity')
  · constructor
    · intro hdisconnected
      rw [Page.finish, hstatus] at hdisconnected
      cases hdisconnected
    · rintro ⟨⟨⟩, -⟩
  · exact h.rendered
  · exact fun _ _ _ _ => hstatus
  · intro socket s hs hopened
    have hopen : s.readyState ≠ .closed := by
      rw [hopened]
      decide
    have hconnecting := (hother socket s hs hopen).2
    rw [hopened] at hconnecting
    cases hconnecting

lemma OneSocket.unidentified (h : OneSocket page) {identity : Option String}
    (pending : page.calls call = some (.identity identity)) :
    OneSocket { page.finish call with connectionStatus := .disconnected } := by
  obtain ⟨hnone, -, -⟩ := h.dialing call identity pending
  have hcalls := h.identified pending
  refine { h with
    dialing := fun call' identity' hcall => absurd hcall (hcalls call' identity')
    one_call := fun call' _ identity' _ hcall => absurd hcall (hcalls call' identity')
    disconnected := ⟨fun _ => ⟨hnone, hcalls⟩, fun _ => rfl⟩
    rendered := fun _ => rfl, connecting := ?_, opened := ?_ }
  · intro socket s hs hstate
    rw [h.all_closed hnone hs] at hstate
    cases hstate
  · intro socket s hs hstate
    rw [h.all_closed hnone hs] at hstate
    cases hstate

/-- What is known while a socket is not closed. -/
lemma OneSocket.running (h : OneSocket page) {socket : ℕ} {s : Socket}
    (known : page.sockets socket = some s) (running : s.readyState ≠ .closed) :
    page.socketRef = some socket ∧ page.connectionStatus ≠ .disconnected ∧
      (∀ call identity, page.calls call ≠ some (.identity identity)) ∧
      ∀ other s', page.sockets other = some s' → s'.readyState ≠ .closed → other = socket := by
  have href := h.live socket s known running
  refine ⟨href, fun hstatus => ?_, fun call identity hcall => ?_, fun other s' hs' hopen => ?_⟩
  · rw [(h.disconnected.mp hstatus).1] at href
    cases href
  · rw [(h.dialing call identity hcall).1] at href
    cases href
  · rw [h.live other s' hs' hopen] at href
    exact Option.some.inj href

/-- The one socket comes to another state, and the status with it. -/
lemma OneSocket.setState (h : OneSocket page) {socket : ℕ} {s : Socket}
    (known : page.sockets socket = some s) (running : s.readyState ≠ .closed)
    {status : ConnectionStatus} (hstatus : status = .authenticating ∨ status = .connected) :
    OneSocket { page with
      sockets := Function.update page.sockets socket (some { s with readyState := .opened })
      connectionStatus := status } := by
  obtain ⟨href, hconnected, hcalls, hunique⟩ := h.running known running
  have hother : ∀ socket' s', Function.update page.sockets socket
      (some { s with readyState := .opened }) socket' = some s' → s'.readyState ≠ .closed →
      socket' = socket ∧ s'.readyState = .opened := by
    intro socket' s' hs' hopen
    rcases updated_iff.mp hs' with ⟨hc, rfl⟩ | ⟨hc, hs'⟩
    · exact ⟨hc, rfl⟩
    · exact absurd (hunique socket' s' hs' hopen) hc
  constructor
  · intro socket' s' hs' hopen
    rw [(hother socket' s' hs' hopen).1]
    exact href
  · intro socket' href'
    obtain rfl := Option.some.inj (href.symm.trans href')
    exact ⟨_, Function.update_self .., nofun⟩
  · exact fun call identity hcall => absurd hcall (hcalls call identity)
  · exact h.one_call
  · constructor
    · rintro rfl
      rcases hstatus with hstatus | hstatus <;> cases hstatus
    · rintro ⟨hnone, -⟩
      rw [href] at hnone
      cases hnone
  · exact fun hrendered => absurd (h.rendered hrendered) hconnected
  · intro socket' s' hs' hstate
    have hopened := (hother socket' s' hs' (by rw [hstate]; nofun)).2
    rw [hstate] at hopened
    cases hopened
  · exact fun _ _ _ _ => hstatus

lemma OneSocket.authenticated (h : OneSocket page) (hears : Hears page event) :
    OneSocket { page with connectionStatus := .connected } := by
  obtain ⟨socket, -, -, s, -, known, opened⟩ := hears
  have hset := h.setState known (by rw [opened]; nofun) (Or.inr rfl)
  have hsame : Function.update page.sockets socket (some { s with readyState := .opened }) =
      page.sockets := by
    rw [← opened, ← known, Function.update_eq_self]
  rwa [hsame] at hset

lemma OneSocket.closed (h : OneSocket page) {socket : ℕ} {s : Socket}
    (known : page.sockets socket = some s) (running : s.readyState ≠ .closed) :
    OneSocket { page.setActiveRoomId none with
      sockets := Function.update page.sockets socket (some { s with readyState := .closed })
      socketRef := none, activeRoomRef := none
      connectionStatus := .disconnected }.cleanupMedia := by
  obtain ⟨href, -, hcalls, hunique⟩ := h.running known running
  have hclosed : ∀ socket' s', Function.update page.sockets socket
      (some { s with readyState := .closed }) socket' = some s' → s'.readyState = .closed := by
    intro socket' s' hs'
    rcases updated_iff.mp hs' with ⟨-, rfl⟩ | ⟨hc, hs'⟩
    · rfl
    · by_contra hopen
      exact hc (hunique socket' s' hs' hopen)
  constructor
  · exact fun socket' s' hs' hopen => absurd (hclosed socket' s' hs') hopen
  · rintro socket' ⟨⟩
  · exact fun call identity hcall => absurd hcall (hcalls call identity)
  · exact h.one_call
  · exact ⟨fun _ => ⟨rfl, hcalls⟩, fun _ => rfl⟩
  · exact fun _ => rfl
  · intro socket' s' hs' hstate
    rw [hclosed socket' s' hs'] at hstate
    cases hstate
  · intro socket' s' hs' hstate
    rw [hclosed socket' s' hs'] at hstate
    cases hstate

lemma OneSocket.connect (h : OneSocket page) (unused : page.unused call = true)
    (disconnected : page.rendered.connectionStatus = .disconnected) (identity : Option String)
    (shown : Shown) : OneSocket (shown.on ({ page with connectionStatus := .connecting }.await call
      (.identity identity))).render := by
  obtain ⟨hnone, hcalls⟩ := h.disconnected.mp (h.rendered disconnected)
  have hself : (page.await call (.identity identity)).calls call = some (.identity identity) := by
    rw [await_calls, Function.update_self]
  have hcall : ∀ call' identity', (page.await call (.identity identity)).calls call' =
      some (.identity identity') → call' = call := by
    intro call' identity' hcall'
    by_contra hc
    rw [await_calls, Function.update_of_ne hc] at hcall'
    exact hcalls call' identity' hcall'
  refine { h with
    dialing := fun call' identity' hcall' => ⟨hnone, rfl, ?_⟩
    one_call := fun call' call'' _ _ h' h'' => (hcall call' _ h').trans (hcall call'' _ h'').symm
    disconnected := ⟨nofun, fun hidle => ?_⟩
    rendered := nofun, connecting := fun _ _ _ _ => rfl, opened := ?_ }
  · rw [hcall call' identity' hcall']
    exact (unused_iff.mp unused).2.1
  · exact absurd hself (hidle.2 call identity)
  · intro socket s hs hstate
    rw [h.all_closed hnone hs] at hstate
    cases hstate

lemma OneSocket.move (h : OneSocket page) (move : Move parseJson page event moved) :
    OneSocket moved := by
  cases move with
  | idle => exact h
  | finish pending other =>
    exact h.same rfl rfl rfl rfl (identity_finish (calls_of_pending pending other))
  | sign hears unused nonceBase64 serverTimestamp =>
    exact h.same rfl rfl rfl rfl (identity_await (calls_of_unused unused) nofun)
  | dial userUid pending => exact h.dial userUid pending
  | unidentified pending => exact h.unidentified pending
  | hangUp => exact h.closeSocket
  | opened known connecting =>
    exact (h.setState known (by rw [connecting]; nofun) (Or.inl rfl)).same rfl rfl rfl rfl
      (fun _ _ => Iff.rfl)
  | authenticated hears => exact h.authenticated hears
  | entered hears roomId => exact h.same rfl rfl rfl rfl (fun _ _ => Iff.rfl)
  | left hears => exact h.same rfl rfl rfl rfl (fun _ _ => Iff.rfl)
  | closed fired known running => exact h.closed known running
  | meet hears unused peerUid waits =>
    rw [peerConnection_eq]
    have hcalls := identity_await (calls_of_unused unused) (other_of_connection waits)
    exact h.same rfl rfl rfl rfl hcalls
  | dropPeer hears peerUid => exact h.same rfl rfl rfl rfl (fun _ _ => Iff.rfl)
  | advance pending waits opened waits' =>
    exact h.same rfl rfl rfl rfl (identity_await
      (calls_of_pending pending (other_of_connection waits)) (other_of_connection waits'))
  | describe pending waits =>
    exact h.same rfl rfl rfl rfl
      (identity_finish (calls_of_pending pending (other_of_connection waits)))
  | offerCandidate => exact h.same rfl rfl rfl rfl (fun _ _ => Iff.rfl)
  | track => exact h.same rfl rfl rfl rfl (fun _ _ => Iff.rfl)
  | say => exact h.same rfl rfl rfl rfl (fun _ _ => Iff.rfl)
  | respond pending =>
    exact h.same rfl rfl rfl rfl (identity_finish (calls_of_pending pending nofun))
  | askMicrophone join unused =>
    exact h.same rfl rfl rfl rfl (identity_await (calls_of_unused unused) nofun)
  | granted pending =>
    exact h.same rfl rfl rfl rfl (identity_finish (calls_of_pending pending nofun))
  | effect => exact h.same rfl rfl rfl rfl (fun _ _ => Iff.rfl)
  | unmount => exact h.closeSocket.same rfl rfl rfl rfl (fun _ _ => Iff.rfl)

lemma OneSocket.step {parseJson : String → Option JsonValue} (h : OneSocket page)
    (hstep : page.step parseJson event = some page') : OneSocket page' := by
  cases pageStepped_of_step hstep with
  | plain move shown => exact (h.move move).shown shown
  | click move shown => exact ((h.move move).shown shown).render
  | press press shown =>
    cases press with
    | connect unused disconnected => exact h.connect unused disconnected _ shown
    | toggle click =>
      apply OneSocket.render
      apply OneSocket.shown
      exact h.same rfl rfl rfl rfl (fun _ _ => Iff.rfl)

end Sockets

/-! ### The first frame on a socket -/

/-- What the client has sent on a socket. -/
def framesOn (page : Page) (socket : ℕ) : List Sent := page.sent.filter (·.socket = socket)

/-- The frames begin with the identity, which is not given again. -/
def Identifies (userUid : String) (frames : List Sent) : Prop :=
  ∃ f rest, frames = f :: rest ∧ f.event = "auth_identify" ∧
    f.payload = [("protocol_version", .int protocolVersion.toNat), ("client_uid", .str userUid)] ∧
    ∀ g ∈ rest, g.event ≠ "auth_identify"

structure Introduced (page : Page) : Prop where
  silent : ∀ socket, (∀ s, page.sockets socket = some s → s.readyState = .connecting) →
    framesOn page socket = []
  first : ∀ socket s, page.sockets socket = some s →
    framesOn page socket = [] ∧ s.readyState ≠ .opened ∨
      Identifies s.userUid (framesOn page socket)

section Frames

variable {parseJson : String → Option JsonValue} {page page' moved : Page} {event : PageEvent}
  {call : ℕ}

lemma Identifies.concat {userUid : String} {frames : List Sent} (h : Identifies userUid frames)
    {f : Sent} (hf : f.event ≠ "auth_identify") : Identifies userUid (frames ++ [f]) := by
  obtain ⟨first, rest, hframes, hevent, hpayload, hrest⟩ := h
  refine ⟨first, rest ++ [f], by rw [hframes]; rfl, hevent, hpayload, ?_⟩
  intro g hg
  rcases List.mem_append.mp hg with hg | hg
  · exact hrest g hg
  · rwa [List.mem_singleton.mp hg]

lemma framesOn_sendMessage (page : Page) (connection : Option ℕ) (name : String)
    (payload : List (String × JsonValue)) (socket : ℕ) :
    framesOn (page.sendMessage connection name payload) socket = framesOn page socket ++
      if page.openSocket = some socket then
        [⟨socket, name, payload, connection, page.visit, page.activeRoomId⟩]
      else [] := by
  unfold framesOn Page.sendMessage
  rw [List.filter_append]
  congr 1
  cases page.openSocket with
  | none => rfl
  | some current =>
    by_cases hsocket : current = socket
    · simp [hsocket]
    · simp [hsocket]

lemma openSocket_eq_some {socket : ℕ} : page.openSocket = some socket ↔
    page.socketRef = some socket ∧ ∃ s, page.sockets socket = some s ∧ s.readyState = .opened := by
  simp [Page.openSocket, Option.filter_eq_some_iff, Option.any_eq_true]

/-- Sockets go on to other states, but none opens. -/
lemma Introduced.sockets (h : Introduced page) (hsent : page'.sent = page.sent)
    (hforth : ∀ socket s, page.sockets socket = some s → ∃ s', page'.sockets socket = some s' ∧
      (s'.readyState = .connecting → s.readyState = .connecting))
    (hback : ∀ socket s', page'.sockets socket = some s' → ∃ s, page.sockets socket = some s ∧
      s'.userUid = s.userUid ∧ (s'.readyState = .opened → s.readyState = .opened)) :
    Introduced page' := by
  have hframes : ∀ socket, framesOn page' socket = framesOn page socket := by
    intro socket
    rw [framesOn, framesOn, hsent]
  constructor
  · intro socket hconnecting
    rw [hframes]
    apply h.silent
    intro s hs
    obtain ⟨s', hs', hstate⟩ := hforth socket s hs
    exact hstate (hconnecting s' hs')
  · intro socket s' hs'
    obtain ⟨s, hs, huid, hstate⟩ := hback socket s' hs'
    rw [hframes, huid]
    exact (h.first socket s hs).imp_left fun ⟨hnil, hclosed⟩ => ⟨hnil, fun ho => hclosed (hstate ho)⟩

lemma Introduced.same (h : Introduced page) (hsockets : page'.sockets = page.sockets)
    (hsent : page'.sent = page.sent) : Introduced page' :=
  h.sockets hsent (fun _ s hs => ⟨s, hsockets ▸ hs, id⟩)
    (fun _ s hs => ⟨s, hsockets ▸ hs, rfl, id⟩)

lemma Introduced.sendMessage (h : Introduced page) (connection : Option ℕ) {name : String}
    (hname : name ≠ "auth_identify") (payload : List (String × JsonValue)) :
    Introduced (page.sendMessage connection name payload) := by
  constructor
  · intro socket hconnecting
    have hclosed : page.openSocket ≠ some socket := by
      intro hopen
      obtain ⟨-, s, hs, hstate⟩ := openSocket_eq_some.mp hopen
      rw [hconnecting s hs] at hstate
      cases hstate
    rw [framesOn_sendMessage, if_neg hclosed, List.append_nil]
    exact h.silent socket hconnecting
  · intro socket s hs
    rw [framesOn_sendMessage]
    split
    · rename_i hopen
      obtain ⟨-, s', hs', hstate⟩ := openSocket_eq_some.mp hopen
      obtain rfl := Option.some.inj (hs.symm.trans hs')
      rcases h.first socket s hs with ⟨-, hclosed⟩ | hidentifies
      · exact absurd hstate hclosed
      · exact Or.inr (hidentifies.concat hname)
    · rw [List.append_nil]
      exact h.first socket s hs

lemma Introduced.closeSocket (h : Introduced page) : Introduced page.closeSocket := by
  refine h.sockets rfl (fun socket s hs => ?_) ?_
  · obtain ⟨s', hs', -, hstate⟩ := sockets_of_closeSocket hs
    exact ⟨s', hs', hstate⟩
  · intro socket s' hs'
    obtain ⟨s, hs, huid, hstate⟩ := socket_of_closeSocket hs'
    refine ⟨s, hs, huid, fun hopened => ?_⟩
    rcases hstate with hsame | ⟨-, hclosing⟩
    · rw [← hsame, hopened]
    · rw [hclosing] at hopened
      cases hopened

lemma Introduced.dial (h : Introduced page) (hone : OneSocket page) {identity : Option String}
    (userUid : String) (pending : page.calls call = some (.identity identity)) :
    Introduced { page.finish call with
      sockets := Function.update page.sockets call (some ⟨.connecting, userUid, identity⟩)
      socketRef := some call } := by
  have hfree := (hone.dialing call identity pending).2.2
  constructor
  · intro socket hconnecting
    apply h.silent
    intro s hs
    have hsocket : socket ≠ call := by
      rintro rfl
      rw [hfree] at hs
      cases hs
    exact hconnecting s (by simpa only [Function.update_of_ne hsocket] using hs)
  · intro socket s hs
    rcases updated_iff.mp hs with ⟨rfl, rfl⟩ | ⟨-, hs⟩
    · refine Or.inl ⟨h.silent socket (fun s' hs' => ?_), nofun⟩
      rw [hfree] at hs'
      cases hs'
    · exact h.first socket s hs

/-- The socket opens, and the first frame goes out on it. -/
lemma Introduced.opened (h : Introduced page) (hone : OneSocket page) {socket : ℕ} {s : Socket}
    (known : page.sockets socket = some s) (connecting : s.readyState = .connecting) :
    Introduced ({ page with
      sockets := Function.update page.sockets socket (some { s with readyState := .opened })
      connectionStatus := .authenticating }.sendMessage none "auth_identify"
        [("protocol_version", .int protocolVersion.toNat), ("client_uid", .str s.userUid)]) := by
  obtain ⟨href, -, -, hunique⟩ := hone.running known (by rw [connecting]; nofun)
  have hnil : framesOn page socket = [] := by
    apply h.silent
    intro s' hs'
    rw [known, Option.some.injEq] at hs'
    rw [← hs', connecting]
  have hopen : ({ page with
      sockets := Function.update page.sockets socket (some { s with readyState := .opened })
      connectionStatus := .authenticating } : Page).openSocket = some socket :=
    openSocket_eq_some.mpr ⟨href, _, Function.update_self .., rfl⟩
  constructor
  · intro other hconnecting
    have hother : socket ≠ other := by
      rintro rfl
      exact absurd (hconnecting _ (Function.update_self ..)) nofun
    rw [framesOn_sendMessage, hopen, if_neg (fun he => hother (Option.some.inj he)),
      List.append_nil]
    refine h.silent other (fun s' hs' => hconnecting s' ?_)
    rw [← hs']
    exact Function.update_of_ne hother.symm ..
  · intro other s' hs'
    rw [framesOn_sendMessage, hopen]
    rcases updated_iff.mp hs' with ⟨rfl, rfl⟩ | ⟨hother, hs⟩
    · rw [if_pos rfl]
      exact Or.inr ⟨_, [], congrArg (· ++ [_]) hnil, rfl, rfl, nofun⟩
    · rw [if_neg (fun he => hother (Option.some.inj he).symm), List.append_nil]
      exact h.first other s' hs

lemma Introduced.closed (h : Introduced page) {socket : ℕ} {s : Socket}
    (known : page.sockets socket = some s) :
    Introduced { page.setActiveRoomId none with
      sockets := Function.update page.sockets socket (some { s with readyState := .closed })
      socketRef := none, activeRoomRef := none
      connectionStatus := .disconnected }.cleanupMedia := by
  refine h.sockets rfl (fun other s' hs' => ?_) (fun other s' hs' => ?_)
  · by_cases hother : other = socket
    · subst hother
      exact ⟨_, Function.update_self .., nofun⟩
    · exact ⟨s', (Function.update_of_ne hother ..).trans hs', id⟩
  · rcases updated_iff.mp hs' with ⟨rfl, rfl⟩ | ⟨-, hs⟩
    · exact ⟨s, known, rfl, nofun⟩
    · exact ⟨s', hs, rfl, id⟩

lemma Introduced.move (h : Introduced page) (hone : OneSocket page)
    (move : Move parseJson page event moved) : Introduced moved := by
  cases move with
  | dial userUid pending => exact h.dial hone userUid pending
  | hangUp => exact h.closeSocket
  | opened known connecting => exact h.opened hone known connecting
  | closed fired known => exact h.closed known
  | meet =>
    rw [peerConnection_eq]
    exact h.same rfl rfl
  | describe =>
    refine Introduced.sendMessage ?_ _ (by decide) _
    exact h.same rfl rfl
  | offerCandidate => exact h.sendMessage _ (by decide) _
  | say name other => exact h.sendMessage _ other _
  | respond =>
    refine Introduced.sendMessage ?_ _ (by decide) _
    exact h.same rfl rfl
  | granted =>
    refine Introduced.sendMessage ?_ _ (by decide) _
    exact h.same rfl rfl
  | unmount => exact h.closeSocket.same rfl rfl
  | _ => exact h.same rfl rfl

lemma Introduced.step {parseJson : String → Option JsonValue} (h : Introduced page)
    (hone : OneSocket page) (hstep : page.step parseJson event = some page') :
    Introduced page' := by
  cases pageStepped_of_step hstep with
  | plain move shown => exact (h.move hone move).same rfl rfl
  | click move shown => exact (h.move hone move).same rfl rfl
  | press press shown => cases press <;> exact h.same rfl rfl

end Frames

/-! ### Runs -/

section Runs

variable {parseJson : String → Option JsonValue} {page : Page}

lemma oneSocket_of_reachable (h : Execution.Reachable (Page.step parseJson) Page.start page) :
    OneSocket page :=
  Execution.invariant_of_step oneSocket_start (fun _ _ _ hone hstep => hone.step hstep) h

lemma introduced_start : Introduced Page.start := ⟨fun _ _ => rfl, nofun⟩

lemma introduced_of_reachable (h : Execution.Reachable (Page.step parseJson) Page.start page) :
    Introduced page :=
  Execution.invariant_of_reachable_step introduced_start
    (fun _ _ _ hreach hintroduced hstep =>
      hintroduced.step (oneSocket_of_reachable hreach) hstep) h

end Runs

/-- Whatever the order of events, `socketRef` holds the only socket that is not closed, the status
says how far it is, and the first frame on every socket, and no other one, gives the identity that
it was made for. -/
theorem one_socket {parseJson : String → Option JsonValue} {page : Page}
    (h : Execution.Reachable (Page.step parseJson) Page.start page) :
    (∀ socket s, page.sockets socket = some s →
        (s.readyState ≠ .closed ↔ page.socketRef = some socket)) ∧
      (page.connectionStatus = .disconnected ↔
        (∀ socket s, page.sockets socket = some s → s.readyState = .closed) ∧
          ∀ call identity, page.calls call ≠ some (.identity identity)) ∧
      (∀ socket s, page.sockets socket = some s →
        (s.readyState = .connecting → page.connectionStatus = .connecting) ∧
          (s.readyState = .opened →
            page.connectionStatus = .authenticating ∨ page.connectionStatus = .connected)) ∧
      ∀ socket s, page.sockets socket = some s →
        framesOn page socket = [] ∧ s.readyState ≠ .opened ∨
          Identifies s.userUid (framesOn page socket) := by
  have hone := oneSocket_of_reachable h
  refine ⟨fun socket s hs => ⟨hone.live socket s hs, fun href => ?_⟩,
    ⟨fun hstatus => ?_, fun ⟨hclosed, hcalls⟩ => ?_⟩,
    fun socket s hs => ⟨hone.connecting socket s hs, hone.opened socket s hs⟩,
    (introduced_of_reachable h).first⟩
  · obtain ⟨s', hs', hopen⟩ := hone.ref socket href
    rwa [Option.some.inj (hs.symm.trans hs')]
  · obtain ⟨hnone, hcalls⟩ := hone.disconnected.mp hstatus
    exact ⟨fun socket s hs => hone.all_closed hnone hs, hcalls⟩
  · refine hone.disconnected.mpr ⟨?_, hcalls⟩
    cases href : page.socketRef with
    | none => rfl
    | some socket =>
      obtain ⟨s, hs, hopen⟩ := hone.ref socket href
      exact absurd (hclosed socket s hs) hopen

/-- A page that has loaded its identity and connected. -/
theorem one_socket_opened : ∃ page s,
    Execution.exec (Page.step fun _ => none) Page.start [.settle 0 (.text "uid"), .render,
      .connect 1, .settle 1 (.text "uid"), .opened 1] = some page ∧
      page.sockets 1 = some s ∧ page.socketRef = some 1 ∧
      page.connectionStatus ≠ .disconnected ∧ Identifies "uid" (framesOn page 1) := by
  have hrun : ∃ page s, Execution.exec (Page.step fun _ => none) Page.start
      [.settle 0 (.text "uid"), .render, .connect 1, .settle 1 (.text "uid"), .opened 1] =
      some page ∧ page.sockets 1 = some s ∧ s.readyState = .opened ∧ s.userUid = "uid" :=
    ⟨_, _, rfl, rfl, rfl, rfl⟩
  obtain ⟨page, s, hexec, hs, hopened, huid⟩ := hrun
  obtain ⟨hcurrent, hstatus, -, hframes⟩ := one_socket ⟨_, hexec⟩
  have hopen : s.readyState ≠ .closed := by
    rw [hopened]
    nofun
  refine ⟨page, s, hexec, hs, (hcurrent 1 s hs).mp hopen, fun h => ?_, ?_⟩
  · exact hopen ((hstatus.mp h).1 1 s hs)
  · rcases hframes 1 s hs with ⟨-, hclosed⟩ | hidentifies
    · exact absurd hopened hclosed
    · rwa [← huid]

end VTNet.Proofs
