import AuthnScope.Agent.Dial
import AuthnScope.Agent.Origin
import AuthnScope.Agent.Symbolic

/-!
# The sockets of an agent

`run_agent`, `perform_handshake` and `request_cert_on_demand` on descriptors. The agent dials from
the port that its listener protects, so the two never have a socket at the same time: the listener
is dropped before a dial, and the stream before the listener is bound again.

## Main definitions

* `HostApi`: the answers of the operating system and of the host;
* `performHandshake`, `runAgent`: the start of the agent;
* `AgentProcess`, `requestOnDemand`: a request with the listener that it drops and binds again;
* `AgentProcess.Owns`: the process has the descriptor of its listener, and no other of its own;
* `requestEnv`: what the operating system and the host answer, as a `FetchEnv`.

## Main results

* `requestOnDemand_owns`, `requestOnDemand_refines`: what holds of one request;
* `agent_owns_one_socket`: the sockets of an agent over its whole life;
* `agent_requests_refine`: its requests on descriptors are calls of `requestCertOnDemand`.
-/

namespace AuthnScope

open Descriptors Outcome

/-- What the outside answers an agent, by the number of system calls before it. -/
structure HostApi extends SocketApi where
  /-- `tokio_vsock::VsockListener::bind`: a socket that is bound and listens. It is closed again
  when one of the calls behind it fails. -/
  bindListener : ℕ → Table Socket → Except OsError ℕ
  /-- The descriptor of a new listener is not in use. -/
  bindListener_unused : ∀ n table fd, bindListener n table = .ok fd → table fd = none
  send : ℕ → AgentRequest → Except String Unit
  recv : ℕ → AgentRequest → Except String AgentResponse

section

variable (api : HostApi) (hostCid : UInt32) (config : AgentConfig)

/-- Send a request over a stream and receive the response. The stream is dropped behind that, on
success and on failure. -/
def exchange (sending receiving : String) (req : AgentRequest) (stream : VsockStream) :
    DialM AgentResponse := do
  let n := (← get).trace.length
  let resp := do
    withContext sending (api.send n req)
    withContext receiving (api.recv n req)
  close .close stream.fd
  liftResult resp

/-- The loops of `run_agent` and `request_cert_on_demand` that bind the listener. -/
def bindLoop (message : String) (attempts : ℕ) : DialM ℕ := do
  match ← acquire .bind ⟨false, some ⟨vmaddrCidAny, config.clientPort⟩, none⟩ api.bindListener with
  | .ok fd => return fd
  | .error (_ : OsError) =>
    if h : attempts < 10 then
      bindLoop message (attempts + 1)
    else
      throw message
termination_by 10 - attempts
decreasing_by omega

/-- Ask the host for the workloads of the VM. -/
def performHandshake : DialM (HashMap WorkloadConfig) := do
  let stream ← performHandshakeDial api.toSocketApi hostCid config
  let resp ← exchange api "sending handshake request" "receiving handshake response"
    (.handshake protocolVersion config.vmName) stream
  match resp with
  | .handshakeOk workloads => return workloads
  | .error message => throw s!"Handshake rejected by server: {message}"
  | .certOk _ _ => throw "Unexpected handshake response from server"

/-- `run_agent` up to the Workload API: the descriptor of the persistent listener, and the state
that the connections share. -/
def runAgent : DialM (ℕ × AgentState) := do
  let workloads ← performHandshake api hostCid config
  let persistentListener ← bindLoop api config
    s!"binding persistent listener to client port {config.clientPort} to secure it" 0
  return (persistentListener, .boot ⟨config.clientPort⟩ workloads)

/-- The agent's process: its sockets, and the descriptor of the listener in its slot. -/
structure AgentProcess where
  sockets : Sockets
  listener : Option ℕ

/-- Computations of the agent on its sockets and its listener. -/
abbrev ProcessM := EStateM String AgentProcess

/-- A computation on the sockets. -/
def onSockets {α : Type} (x : DialM α) : ProcessM α := fun p =>
  match x p.sockets with
  | .ok a s => .ok a { p with sockets := s }
  | .error e s => .error e { p with sockets := s }

/-- `*state.listener.lock().await = None`. -/
def dropListener : ProcessM Unit := do
  match (← get).listener with
  | some fd => onSockets (close .close fd)
  | none => return ()
  modify fun p => { p with listener := none }

variable {KeyPair PublicKey : Type} (lib : X509Lib KeyPair PublicKey)

/-- `request_cert_on_demand`. -/
def requestOnDemand (key : Except String KeyPair) (seed : List UInt8) (identityName : String) :
    ProcessM X509Credentials := do
  let generated ← liftResult <| withContext s!"CSR generation for identity '{identityName}'" <|
    generateCsr lib key seed identityName
  dropListener
  let stream ← onSockets <| mapError (fun (_ : String) => "vsock connect on demand failed") <|
    connectWithLocalPort api.toSocketApi hostCid config.serverPort config.clientPort
  let resp ← onSockets <| exchange api "sending CertRequest" "receiving AgentResponse"
    (certRequest config identityName generated.csrPem) stream
  let newListener ← onSockets <|
    bindLoop api config "failed to re-bind port 901 listener after on-demand dial" 0
  modify fun p => { p with listener := some newListener }
  liftResult <| credentialsOfResponse identityName generated.keyPem resp

/-- What the key generation and the random bytes of a request give, and its identity. -/
structure OnDemand (KeyPair : Type) where
  key : Except String KeyPair
  seed : List UInt8
  identityName : String

/-- A list of requests, one after the other: what each of them gives, and the process behind. -/
def requestAll (p : AgentProcess) (requests : List (OnDemand KeyPair)) :
    List (Except String X509Credentials) × AgentProcess :=
  attemptAll (fun req => requestOnDemand api hostCid config lib req.key req.seed req.identityName)
    requests p

/-- Besides the descriptors of the table, the process has that of the listener in its slot, which is
bound to the port. -/
def AgentProcess.Owns (table : Table Socket) (port : UInt32) (p : AgentProcess) : Prop :=
  match p.listener with
  | none => p.sockets.table = table
  | some fd => ∃ socket, Adds table fd socket p.sockets.table ∧
      socket.localAddr = some ⟨vmaddrCidAny, port⟩

end

section

variable {api : HostApi} {hostCid : UInt32} {config : AgentConfig} {table : Table Socket}
  {s : Sockets}

/-! ## The parts of a request -/

/-- A dial ends with its stream, or with the table as it was. -/
theorem Leaves.ends {port localPort : UInt32} {n : ℕ}
    {result : EStateM.Result String Sockets VsockStream}
    (h : Leaves hostCid port localPort table n s result) :
    Ends table .bind n (fun stream table' => ∃ socket, Adds table stream.fd socket table') s
      result :=
  ⟨h.balanced, fun stream s' hok => (h.ok stream s' hok).imp fun _ h => h.1, h.error⟩

/-- An exchange gives its response, or the first error, without the stream. -/
theorem exchange_run {sending receiving : String} {req : AgentRequest} {stream : VsockStream}
    {s₁ : Sockets} (hclose : close .close stream.fd s = (.ok () s₁ : EStateM.Result String _ _)) :
    exchange api sending receiving req stream s = (liftResult (do
      withContext sending (api.send s.trace.length req)
      withContext receiving (api.recv s.trace.length req)) : DialM AgentResponse) s₁ := by
  rw [exchange, bind_of_ok (get_run s), bind_of_ok hclose]

/-- Behind an exchange the stream is gone. -/
theorem exchange_ends {sending receiving : String} {req : AgentRequest} {stream : VsockStream}
    {socket : Socket} (h : Adds table stream.fd socket s.table) :
    Ends table .bind 0 (fun resp table' => table' = table ∧ ∃ n, api.recv n req = .ok resp) s
      (exchange api sending receiving req stream s) := by
  obtain ⟨s₁, hclose, hbalanced, htable⟩ := close_of_adds (δ := String) SysCall.bind .close s h
  rw [exchange_run hclose]
  suffices hresp : Ends table .bind 0 (fun resp table' => table' = table ∧
      ∃ n, api.recv n req = .ok resp) s₁ (liftResult (do
        withContext sending (api.send s.trace.length req)
        withContext receiving (api.recv s.trace.length req)) s₁) from hresp.after hbalanced
  cases hsend : api.send s.trace.length req with
  | error e => exact Ends.throw htable sending
  | ok u =>
    cases hrecv : api.recv s.trace.length req with
    | error e => exact Ends.throw htable receiving
    | ok resp => exact Ends.pure ⟨htable, _, hrecv⟩

/-- A round of the loop binds once, and what may follow starts with the table as it was. -/
theorem bindLoop_round {message : String} {attempts n : ℕ} (htable : s.table = table)
    (hnext : attempts < 10 → ∀ s₁ : Sockets, s₁.table = table →
      Ends table .bind n (fun fd table' => ∃ socket, Adds table fd socket table' ∧
        socket.localAddr = some ⟨vmaddrCidAny, config.clientPort⟩) s₁
        (bindLoop api config message (attempts + 1) s₁)) :
    Ends table .bind (1 + n) (fun fd table' => ∃ socket, Adds table fd socket table' ∧
      socket.localAddr = some ⟨vmaddrCidAny, config.clientPort⟩) s
      (bindLoop api config message attempts s) := by
  obtain ⟨result, s₁, hbind, hbalanced, hcases⟩ := acquire_cases (δ := String) SysCall.bind .bind s
    ⟨false, some ⟨vmaddrCidAny, config.clientPort⟩, none⟩ api.bindListener_unused
  rw [htable] at hbalanced hcases
  rw [bindLoop, bind_of_ok hbind]
  refine Ends.after (m := 1) ?_ hbalanced
  rcases hcases with ⟨fd, rfl, hadds⟩ | ⟨e, rfl, htable₁⟩
  · exact (Ends.pure ⟨_, hadds, rfl⟩).mono (Nat.zero_le n)
  · simp only
    split
    · exact hnext ‹_› s₁ htable₁
    · exact (Ends.throw htable₁ message).mono (Nat.zero_le n)

/-- The listener is bound within eleven attempts, or not at all. -/
theorem bindLoop_ends {message : String} {attempts left : ℕ} (h : attempts + left = 10)
    (htable : s.table = table) :
    Ends table .bind (1 + left) (fun fd table' => ∃ socket, Adds table fd socket table' ∧
      socket.localAddr = some ⟨vmaddrCidAny, config.clientPort⟩) s
      (bindLoop api config message attempts s) := by
  -- induction on the rounds that are left
  induction left generalizing attempts s with
  | zero => exact bindLoop_round htable fun hlt => by omega
  | succ left ih =>
    have hround : Ends table .bind (1 + (1 + left)) _ s
        (bindLoop api config message attempts s) :=
      bindLoop_round htable fun _ s₁ hs₁ => ih (by omega) hs₁
    exact hround.mono (by omega)

/-! ## The start -/

/-- Behind a handshake the table is as it was. -/
theorem performHandshake_ends (s : Sockets) :
    Ends s.table .bind (11 * 16) (fun workloads table' => table' = s.table ∧
      ∃ n, api.recv n (.handshake protocolVersion config.vmName) = .ok (.handshakeOk workloads)) s
      (performHandshake api hostCid config s) := by
  rw [performHandshake]
  refine (Leaves.ends (retryLoop_leaves (rfl : 0 + 15 = 15) s)).bind (n := 0)
    fun stream s₁ hstream => ?_
  obtain ⟨socket, hadds⟩ := hstream
  refine (exchange_ends hadds).bind (n := 0) fun resp s₂ hresp => ?_
  obtain ⟨htable, hrecv⟩ := hresp
  cases resp with
  | handshakeOk workloads => exact Ends.pure ⟨htable, hrecv⟩
  | error message => exact Ends.throw htable _
  | certOk certPem caCertPem => exact Ends.throw htable _

/-- The start of the agent ends with its listener, or with the table as it was. -/
theorem runAgent_ends (s : Sockets) :
    Ends s.table .bind (11 * 17) (fun r table' =>
      (∃ socket, Adds s.table r.1 socket table' ∧
        socket.localAddr = some ⟨vmaddrCidAny, config.clientPort⟩) ∧
      ∃ n workloads, r.2 = .boot ⟨config.clientPort⟩ workloads ∧
        api.recv n (.handshake protocolVersion config.vmName) = .ok (.handshakeOk workloads)) s
      (runAgent api hostCid config s) := by
  rw [runAgent]
  refine (performHandshake_ends s).bind (n := 11) fun workloads s₁ hworkloads => ?_
  obtain ⟨htable, n, hrecv⟩ := hworkloads
  refine (bindLoop_ends (rfl : 0 + 10 = 10) htable).bind (n := 0) fun fd s₂ hfd => ?_
  exact Ends.pure ⟨hfd, n, workloads, rfl, hrecv⟩

/-! ## A request -/

variable {p : AgentProcess} {port : UInt32} {α β : Type}

/-- From the sockets on the calls are balanced, and the process that is left owns its listener. -/
structure EndsOwning (table : Table Socket) (port : UInt32) (n : ℕ) (s : Sockets)
    (result : EStateM.Result String AgentProcess α) : Prop where
  balanced : Balanced table .bind n s (finalState result).sockets
  owns : (finalState result).Owns table port

namespace EndsOwning

variable {m n : ℕ}

theorem mono {result : EStateM.Result String AgentProcess α}
    (h : EndsOwning table port m s result) (hle : m ≤ n) : EndsOwning table port n s result :=
  ⟨h.balanced.mono hle, h.owns⟩

theorem after {s₁ : Sockets} {result : EStateM.Result String AgentProcess α}
    (h : EndsOwning table port n s₁ result) (hbefore : Balanced table .bind m s s₁) :
    EndsOwning table port (m + n) s result :=
  ⟨hbefore.trans h.balanced, h.owns⟩

/-- A step that ends the request leaves the process. -/
theorem liftResult (hp : p.Owns table port) (r : Except String α) :
    EndsOwning table port 0 p.sockets ((Outcome.liftResult r : ProcessM α) p) := by
  cases r <;> exact ⟨.refl table _ _, hp⟩

/-- A step on the sockets of a process without a listener, and what follows when it succeeds. -/
theorem bind_onSockets {Q : α → Table Socket → Prop} {x : DialM α} {f : α → ProcessM β}
    (hx : Ends table .bind m Q s (x s))
    (hf : ∀ a s₁, Q a s₁.table → EndsOwning table port n s₁ (f a ⟨s₁, none⟩)) :
    EndsOwning table port (m + n) s ((onSockets x >>= f) ⟨s, none⟩) := by
  cases hrun : x s with
  | ok a s₁ =>
    have hstep : onSockets x ⟨s, none⟩ = .ok a ⟨s₁, none⟩ := by rw [onSockets, hrun]
    rw [hrun] at hx
    rw [bind_of_ok hstep]
    exact (hf a s₁ (hx.ok a s₁ rfl)).after hx.balanced
  | error e s₁ =>
    have hstep : onSockets x ⟨s, none⟩ = .error e ⟨s₁, none⟩ := by rw [onSockets, hrun]
    rw [hrun] at hx
    rw [bind_of_error hstep]
    -- the listener stays dropped, and the table is as it was
    exact ⟨hx.balanced.mono (Nat.le_add_right m n), hx.error e s₁ rfl⟩

end EndsOwning

/-- A process without its listener has the descriptors of the table. -/
theorem dropListener_run (hp : p.Owns table port) :
    ∃ s₁, dropListener p = .ok () ⟨s₁, none⟩ ∧ Balanced table .bind 0 p.sockets s₁ ∧
      s₁.table = table := by
  obtain ⟨sockets, listener⟩ := p
  cases listener with
  | none => exact ⟨sockets, rfl, .refl table _ _, hp⟩
  | some fd =>
    obtain ⟨socket, hadds, -⟩ := hp
    obtain ⟨s₁, hclose, hbalanced, htable⟩ :=
      close_of_adds (δ := String) SysCall.bind .close sockets hadds
    have hstep : onSockets (close .close fd) ⟨sockets, some fd⟩ = .ok () ⟨s₁, some fd⟩ := by
      rw [onSockets, hclose]
    refine ⟨s₁, ?_, hbalanced, htable⟩
    rw [dropListener, bind_of_ok (get_run _)]
    simp only
    rw [bind_of_ok hstep, modify_run]

variable {KeyPair PublicKey : Type} {lib : X509Lib KeyPair PublicKey}
  {key : Except String KeyPair} {seed : List UInt8} {identityName : String}

/-- A request binds in its dial and for the listener, and leaves a process that owns its
listener. -/
theorem requestOnDemand_owns (hp : p.Owns table config.clientPort) :
    EndsOwning table config.clientPort 22 p.sockets
      (requestOnDemand api hostCid config lib key seed identityName p) := by
  rw [requestOnDemand]
  rcases hgen : generateCsr lib key seed identityName with e | generated
  · rw [withContext_error, liftResult_error_bind]
    exact (EndsOwning.liftResult hp (.error _)).mono (Nat.zero_le 22)
  obtain ⟨s₁, hdrop, hbalanced, htable⟩ := dropListener_run hp
  rw [withContext_ok, liftResult_ok_bind, bind_of_ok hdrop]
  subst htable
  -- the dial, the exchange and the listener each start with the table as it was
  refine EndsOwning.after (m := 0) (n := 22) (EndsOwning.bind_onSockets (m := 11) (n := 11)
    (connectWithLocalPort_leaves s₁).ends.mapError fun stream s₂ hstream => ?_) hbalanced
  obtain ⟨socket, hadds⟩ := hstream
  refine EndsOwning.bind_onSockets (m := 0) (n := 11) (exchange_ends hadds) fun resp s₃ hresp => ?_
  refine EndsOwning.bind_onSockets (m := 11) (n := 0)
    (bindLoop_ends (rfl : 0 + 10 = 10) hresp.1) fun fd s₄ hfd => ?_
  rw [bind_of_ok (modify_run _ _)]
  have howns : AgentProcess.Owns s₁.table config.clientPort ⟨s₄, some fd⟩ := hfd
  exact EndsOwning.liftResult howns _

/-- The answer of the operating system to a bind, without the descriptor. -/
def bindAnswer (api : HostApi) (n : ℕ) (table : Table Socket) : Except String Unit :=
  ((api.bindListener n table).map fun _ => ()).mapError OsError.message

/-- The loop gives what `bindListener` does on the answers of the operating system. -/
theorem outcome_bindLoop {message : String} {attempts left : ℕ} (h : attempts + left = 10)
    (s : Sockets) {bind : ℕ → Except String Unit}
    (hbind : ∀ k, bind (attempts + k) = bindAnswer api (s.trace.length + k) s.table) :
    withContext message (bindListener bind config.clientPort left attempts) =
      (outcome (bindLoop api config message attempts s)).map fun _ => ⟨config.clientPort⟩ := by
  have hfirst : bind attempts = bindAnswer api s.trace.length s.table := hbind 0
  -- induction on the rounds that are left
  induction left generalizing attempts s with
  | zero =>
    rw [bindListener, hfirst, bindAnswer, bindLoop]
    cases hanswer : api.bindListener s.trace.length s.table with
    | ok fd =>
      rw [bind_of_ok (acquire_of_ok .bind s hanswer)]
      rfl
    | error e =>
      rw [bind_of_ok (acquire_of_error .bind s hanswer)]
      simp only
      rw [dif_neg (by omega)]
      rfl
  | succ left ih =>
    rw [bindListener, hfirst, bindAnswer, bindLoop]
    cases hanswer : api.bindListener s.trace.length s.table with
    | ok fd =>
      rw [bind_of_ok (acquire_of_ok .bind s hanswer)]
      rfl
    | error e =>
      rw [bind_of_ok (acquire_of_error .bind s hanswer)]
      simp only
      rw [dif_pos (by omega : attempts < 10)]
      -- the next attempt comes one call later, on the same table
      refine ih (by omega) (s.record .bind s.table) (fun k => ?_) ?_
      · rw [State.record_trace_length, State.record_table, Nat.add_right_comm,
          Nat.add_right_comm s.trace.length]
        exact hbind (k + 1)
      · rw [State.record_trace_length, State.record_table]
        exact hbind 1

/-- What the outside answers a request, where it starts with the given sockets: the dial, and then
the calls behind it. -/
def requestEnv (api : HostApi) (hostCid : UInt32) (config : AgentConfig) (s : Sockets)
    (req : OnDemand KeyPair) : FetchEnv KeyPair :=
  let dial := connectWithLocalPort api.toSocketApi hostCid config.serverPort config.clientPort s
  let n := (finalState dial).trace.length
  { generated := req.key
    csrSeed := req.seed
    hostCid := hostCid
    connect := fun hostCid port localPort =>
      (outcome (connectWithLocalPort api.toSocketApi hostCid port localPort s)).map fun _ => ()
    send := api.send n
    recv := api.recv n
    -- the stream is closed before the first attempt
    bind := fun k => bindAnswer api (n + 1 + k) s.table
    now := ⟨0⟩
    finished := ⟨0⟩ }

/-- A request on the sockets and one on the state give the same result or the same error, and the
listener is there after both or after none. -/
def Alike (port : UInt32) (r : EStateM.Result String AgentProcess α)
    (r' : EStateM.Result String AgentState α) : Prop :=
  outcome r' = outcome r ∧ (finalState r').listener = (finalState r).listener.map fun _ => ⟨port⟩

/-- The process owns its listener, which is the one of the state. -/
def AgentProcess.Shows (table : Table Socket) (port : UInt32) (p : AgentProcess) (st : AgentState) :
    Prop :=
  p.Owns table port ∧ st.listener = p.listener.map fun _ => ⟨port⟩

theorem onSockets_of_ok {x : DialM α} {a : α} {s s₁ : Sockets} (h : x s = .ok a s₁)
    (listener : Option ℕ) : onSockets x ⟨s, listener⟩ = .ok a ⟨s₁, listener⟩ := by
  rw [onSockets, h]

theorem onSockets_of_error {x : DialM α} {e : String} {s s₁ : Sockets} (h : x s = .error e s₁)
    (listener : Option ℕ) : onSockets x ⟨s, listener⟩ = .error e ⟨s₁, listener⟩ := by
  rw [onSockets, h]

/-- Behind an exchange that goes through, the listener is bound and the response counts. -/
theorem rebind_alike {bind : ℕ → Except String Unit} {message : String} {s : Sockets}
    (hbind : ∀ k, bind k = bindAnswer api (s.trace.length + k) s.table)
    {st : AgentState} (hst : st.listener = none) (r : Except String X509Credentials) :
    Alike config.clientPort
      ((do
        let newListener ← onSockets (bindLoop api config message 0)
        modify fun p => { p with listener := some newListener }
        liftResult r : ProcessM X509Credentials) ⟨s, none⟩)
      ((do
        let newListener ← liftResult
          (withContext message (bindListener bind config.clientPort 10 0))
        modify fun st => { st with listener := some newListener }
        liftResult r : AgentM X509Credentials) st) := by
  have houtcome : withContext message (bindListener bind config.clientPort 10 0) = _ :=
    outcome_bindLoop (rfl : 0 + 10 = 10) s fun k => by rw [Nat.zero_add]; exact hbind k
  rw [houtcome]
  cases hloop : bindLoop api config message 0 s with
  | error e s₁ =>
    rw [bind_of_error (onSockets_of_error hloop none)]
    exact ⟨rfl, hst⟩
  | ok fd s₁ =>
    rw [bind_of_ok (onSockets_of_ok hloop none)]
    cases r <;> exact ⟨rfl, rfl⟩

/-- Behind the dial, the exchange and the listener give what the answers of the outside do. -/
theorem dialled_alike {env : FetchEnv KeyPair} {stream : VsockStream} {socket : Socket}
    (hadds : Adds table stream.fd socket s.table) (hsend : env.send = api.send s.trace.length)
    (hrecv : env.recv = api.recv s.trace.length)
    (hbind : ∀ k, env.bind k = bindAnswer api (s.trace.length + 1 + k) table)
    {st : AgentState} (hst : st.listener = none) (req : AgentRequest) (message : String)
    (creds : AgentResponse → Except String X509Credentials) :
    Alike config.clientPort
      ((do
        let resp ← onSockets <| exchange api "sending CertRequest" "receiving AgentResponse" req
          stream
        let newListener ← onSockets (bindLoop api config message 0)
        modify fun p => { p with listener := some newListener }
        liftResult (creds resp) : ProcessM X509Credentials) ⟨s, none⟩)
      ((do
        liftResult <| withContext "sending CertRequest" <| env.send req
        let resp ← liftResult <| withContext "receiving AgentResponse" <| env.recv req
        let newListener ← liftResult <| withContext message <|
          bindListener env.bind config.clientPort 10 0
        modify fun st => { st with listener := some newListener }
        liftResult (creds resp) : AgentM X509Credentials) st) := by
  obtain ⟨s₁, hclose, -, htable⟩ := close_of_adds (δ := String) SysCall.bind .close s hadds
  have hlength : s₁.trace.length = s.trace.length + 1 := by
    cases hclose
    exact State.record_trace_length _ _ _
  have hexchange : exchange api "sending CertRequest" "receiving AgentResponse" req stream s = _ :=
    exchange_run hclose
  rw [hsend, hrecv]
  rcases hsent : api.send s.trace.length req with e | ⟨⟨⟩⟩
  · rw [hsent] at hexchange
    rw [bind_of_error (onSockets_of_error hexchange none)]
    exact ⟨rfl, hst⟩
  rcases hreceived : api.recv s.trace.length req with e | resp
  · rw [hsent, hreceived] at hexchange
    rw [bind_of_error (onSockets_of_error hexchange none)]
    exact ⟨rfl, hst⟩
  · rw [hsent, hreceived] at hexchange
    rw [bind_of_ok (onSockets_of_ok hexchange none)]
    refine rebind_alike (fun k => ?_) hst (creds resp)
    rw [hbind, hlength, htable]

/-- A request on the sockets is one of `requestCertOnDemand`, where the answers are the same. -/
theorem requestOnDemand_alike {env : FetchEnv KeyPair} {s₁ : Sockets} {st : AgentState}
    (hdrop : dropListener p = .ok () ⟨s₁, none⟩)
    (hst : st.listener = p.listener.map fun _ => ⟨config.clientPort⟩)
    (henv : env = requestEnv api hostCid config s₁ ⟨key, seed, identityName⟩) :
    Alike config.clientPort (requestOnDemand api hostCid config lib key seed identityName p)
      (requestCertOnDemand lib env config identityName st) := by
  have hkey : env.generated = key := by rw [henv]; rfl
  have hseed : env.csrSeed = seed := by rw [henv]; rfl
  have hconnect : env.connect env.hostCid config.serverPort config.clientPort =
      (outcome (connectWithLocalPort api.toSocketApi hostCid config.serverPort config.clientPort
        s₁)).map fun _ => () := by
    rw [henv]
    rfl
  rw [requestOnDemand, requestCertOnDemand, hkey, hseed]
  rcases hgen : generateCsr lib key seed identityName with e | generated
  · exact ⟨rfl, hst⟩
  rw [withContext_ok, liftResult_ok_bind, liftResult_ok_bind, bind_of_ok hdrop,
    bind_of_ok (modify_run _ _), hconnect]
  cases hdial : connectWithLocalPort api.toSocketApi hostCid config.serverPort config.clientPort
    s₁ with
  | error e s₂ =>
    have hfails : mapError (fun _ => "vsock connect on demand failed")
        (connectWithLocalPort api.toSocketApi hostCid config.serverPort config.clientPort) s₁ =
          .error "vsock connect on demand failed" s₂ := by rw [mapError, hdial]
    rw [bind_of_error (onSockets_of_error hfails none)]
    exact ⟨rfl, rfl⟩
  | ok stream s₂ =>
    have hdialled : mapError (fun _ => "vsock connect on demand failed")
        (connectWithLocalPort api.toSocketApi hostCid config.serverPort config.clientPort) s₁ =
          .ok stream s₂ := by rw [mapError, hdial]
    obtain ⟨socket, hadds, -⟩ := (connectWithLocalPort_leaves s₁).ok stream s₂ hdial
    rw [bind_of_ok (onSockets_of_ok hdialled none)]
    -- the calls of `requestEnv` come behind those of the dial
    refine dialled_alike hadds ?_ ?_ ?_ rfl _ _ _
    all_goals rw [henv, requestEnv, hdial]
    · rfl
    · rfl
    · exact fun _ => rfl

/-- The call is the request, and its messages are answered by the host. -/
def OnDemand.IsCall (api : HostApi) (req : OnDemand KeyPair) (call : FetchEnv KeyPair × String) :
    Prop :=
  call.1.generated = req.key ∧ call.1.csrSeed = req.seed ∧ call.2 = req.identityName ∧
    ∃ n, call.1.send = api.send n ∧ call.1.recv = api.recv n

/-- A request of a process that shows a state is a call on the state, and shows it behind. -/
theorem requestOnDemand_refines (req : OnDemand KeyPair) {st : AgentState}
    (h : p.Shows table config.clientPort st) :
    ∃ call : FetchEnv KeyPair × String, req.IsCall api call ∧
      outcome (requestCertOnDemand lib call.1 config call.2 st) = outcome
        (requestOnDemand api hostCid config lib req.key req.seed req.identityName p) ∧
      AgentProcess.Shows table config.clientPort
        (finalState (requestOnDemand api hostCid config lib req.key req.seed req.identityName p))
        (finalState (requestCertOnDemand lib call.1 config call.2 st)) := by
  obtain ⟨howns, hlistener⟩ := h
  obtain ⟨s₁, hdrop, -⟩ := dropListener_run howns
  have halike : Alike config.clientPort
      (requestOnDemand api hostCid config lib req.key req.seed req.identityName p)
      (requestCertOnDemand lib (requestEnv api hostCid config s₁ req) config req.identityName st) :=
    requestOnDemand_alike hdrop hlistener rfl
  exact ⟨(_, req.identityName), ⟨rfl, rfl, rfl, _, rfl, rfl⟩, halike.1,
    (requestOnDemand_owns howns).owns, halike.2⟩

/-- An agent that has started holds the workloads the host has given it and no credentials. Its
requests, one after the other, give the credentials and the errors that calls of
`requestCertOnDemand` give, with the same keys and with messages that the host has answered. The
listener is there behind the requests when it is behind the calls. -/
theorem agent_requests_refine (lib : X509Lib KeyPair PublicKey) (s s' : Sockets) (fd : ℕ)
    (st : AgentState) (hrun : runAgent api hostCid config s = .ok (fd, st) s')
    (requests : List (OnDemand KeyPair)) :
    (∃ n workloads, st = .boot ⟨config.clientPort⟩ workloads ∧
      api.recv n (.handshake protocolVersion config.vmName) = .ok (.handshakeOk workloads)) ∧
    ∃ calls : List (FetchEnv KeyPair × String),
      List.Forall₂ (OnDemand.IsCall api) requests calls ∧
      let behind := attemptAll (fun call => requestCertOnDemand lib call.1 config call.2) calls st
      let onSockets := requestAll api hostCid config lib ⟨s', some fd⟩ requests
      behind.1 = onSockets.1 ∧
        behind.2.listener = onSockets.2.listener.map fun _ => ⟨config.clientPort⟩ := by
  have hstart : Ends s.table .bind (11 * 17) _ s (runAgent api hostCid config s) := runAgent_ends s
  rw [hrun] at hstart
  obtain ⟨howns, n, workloads, rfl, hrecv⟩ := hstart.ok _ s' rfl
  refine ⟨⟨n, workloads, rfl, hrecv⟩, ?_⟩
  have hshows : AgentProcess.Shows s.table config.clientPort ⟨s', some fd⟩
      (.boot ⟨config.clientPort⟩ workloads) := ⟨howns, rfl⟩
  obtain ⟨calls, hcalls, hsame, hend⟩ := exists_attemptAll
    (fun req p st h => requestOnDemand_refines req h) requests hshows
  exact ⟨calls, hcalls, hsame, hend.2⟩

end

namespace Symbolic

/-- A host that grants every request, under an operating system whose calls succeed. -/
def hostApi : HostApi where
  toSocketApi := socketApi
  bindListener := socketApi.socket
  bindListener_unused := socketApi.socket_unused
  send _ _ := .ok ()
  recv
    | _, .handshake _ _ => .ok (.handshakeOk webWorkloads)
    | _, .certRequest _ _ _ _ => .ok (.certOk "cert" "ca")

/-- The start takes seven calls, of which the last one opens the listener. -/
theorem runAgent_hostApi : ∃ s', runAgent hostApi 2 agentConfig ⟨fun _ => none, []⟩ =
    .ok (9, .boot ⟨901⟩ webWorkloads) s' := by
  rw [runAgent, performHandshake, performHandshakeDial, retryLoop, connectWithLocalPort,
    connectLoop, bindLoop]
  exact ⟨_, rfl⟩

end Symbolic

theorem agent_requests_refine_web :
    ∃ s', runAgent Symbolic.hostApi 2 Symbolic.agentConfig ⟨fun _ => none, []⟩ =
        .ok (9, .boot ⟨901⟩ Symbolic.webWorkloads) s' ∧
      ∃ calls : List (FetchEnv ℕ × String),
        List.Forall₂ (OnDemand.IsCall Symbolic.hostApi) [⟨.ok 7, [], "web"⟩] calls ∧
        (attemptAll (fun call => requestCertOnDemand Symbolic.lib call.1 Symbolic.agentConfig
          call.2) calls (.boot ⟨901⟩ Symbolic.webWorkloads)).1 = (requestAll Symbolic.hostApi 2
            Symbolic.agentConfig Symbolic.lib ⟨s', some 9⟩ [⟨.ok 7, [], "web"⟩]).1 := by
  obtain ⟨s', hrun⟩ := Symbolic.runAgent_hostApi
  obtain ⟨-, calls, hcalls, hsame, -⟩ :=
    agent_requests_refine Symbolic.lib _ s' 9 _ hrun [⟨.ok 7, [], "web"⟩]
  exact ⟨s', hrun, calls, hcalls, hsame⟩

end AuthnScope
