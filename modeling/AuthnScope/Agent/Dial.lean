import AuthnScope.Agent.Credentials
import AuthnScope.Lib.Descriptors

/-!
# Dialling the host

`connect_with_local_port` of the agent and the retry loop of `perform_handshake`. The socket is a
raw descriptor that is closed by hand when `bind` or `connect` fails and is owned by the stream from
then on. What the operating system answers to each call is a parameter.

## Main definitions

* `SocketApi`: the answers of the operating system;
* `connectWithLocalPort`, `performHandshakeDial`;
* `Leaves`: the descriptors are as before but for the socket of the stream that is returned.

## Main results

* `connectLoop_round`, `retryLoop_round`: what a round of each loop leaves of the descriptors;
* `dialling_leaks_no_socket`: what a dial and the retries leave of them, and how often they bind.
-/

namespace AuthnScope

open Descriptors Outcome

/-- `std::io::ErrorKind`, as far as the agent looks at it. -/
inductive ErrorKind where
  | addrInUse
  | other
  deriving DecidableEq, Repr

/-- `std::io::Error::last_os_error()`. -/
structure OsError where
  errno : Int32
  message : String
  deriving DecidableEq, Repr

/-- `std::io::Error::kind`; `EADDRINUSE` is 98. -/
def OsError.kind (err : OsError) : ErrorKind := if err.errno = 98 then .addrInUse else .other

/-- The CID and the port of `sockaddr_vm`. -/
structure SockaddrVm where
  svmCid : UInt32
  svmPort : UInt32
  deriving DecidableEq, Repr

/-- `VMADDR_CID_ANY`. -/
def vmaddrCidAny : UInt32 := 0xFFFFFFFF

/-- A vsock socket: its option `SO_REUSEADDR`, and the addresses it is bound and connected to. -/
structure Socket where
  reuseAddr : Bool
  localAddr : Option SockaddrVm
  peerAddr : Option SockaddrVm
  deriving DecidableEq, Repr

/-- The system calls of a dial. -/
inductive SysCall where
  | socket
  | setsockopt
  | bind
  | connect
  | newStream
  | close
  deriving DecidableEq, Repr

/-- What the operating system answers to a call, by the number of calls before it. -/
structure SocketApi where
  /-- A new socket gets a descriptor, which may depend on those that are open. -/
  socket : ℕ → Table Socket → Except OsError ℕ
  /-- The descriptor of a new socket is not in use. -/
  socket_unused : ∀ n table fd, socket n table = .ok fd → table fd = none
  setsockopt : ℕ → Except OsError Unit
  bind : ℕ → Except OsError Unit
  connect : ℕ → Except OsError Unit
  /-- `tokio_vsock::VsockStream::new`: the calls that register the socket with the runtime. -/
  newStream : ℕ → Except OsError Unit

/-- A connected stream; it owns its descriptor. -/
structure VsockStream where
  fd : ℕ
  deriving DecidableEq, Repr

/-- The agent's process with its sockets. -/
abbrev Sockets := State SysCall Socket

/-- Computations on the sockets; errors are the texts `anyhow` displays. -/
abbrev DialM := EStateM String Sockets

variable (api : SocketApi) (hostCid port localPort : UInt32)

/-- `tokio_vsock::VsockStream::new` on a stream that was made from a raw descriptor. -/
def newStream (socket : ℕ) : DialM VsockStream := do
  match ← perform .newStream socket id api.newStream with
  | .ok () => return ⟨socket⟩
  | .error err =>
    -- the stream is moved into the call, which drops it when it fails
    close .close socket
    throw err.message

/-- What follows in `connect_with_local_port` when the socket is bound. -/
def connectBound (socket : ℕ) : DialM VsockStream := do
  match ← perform .connect socket ({ · with peerAddr := some ⟨hostCid, port⟩ }) api.connect with
  | .ok () => newStream api socket
  | .error connErr =>
    close .close socket
    throw s!"vsock connect failed: {connErr.message}"

/-- The loop of `connect_with_local_port`. -/
def connectLoop (attempts : ℕ) : DialM VsockStream := do
  match ← acquire .socket ⟨false, none, none⟩ api.socket with
  | .error err => throw err.message
  | .ok socket =>
    -- the answer to `setsockopt` is not looked at
    let _ ← (perform .setsockopt socket ({ · with reuseAddr := true }) api.setsockopt :
      DialM (Except OsError Unit))
    match ← perform .bind socket ({ · with localAddr := some ⟨vmaddrCidAny, localPort⟩ })
      api.bind with
    | .ok () => connectBound api hostCid port socket
    | .error err =>
      close .close socket
      if h : err.kind = .addrInUse ∧ attempts < 10 then
        connectLoop (attempts + 1)
      else
        throw s!"binding vsock client socket to local port {localPort}"
termination_by 10 - attempts
decreasing_by omega

/-- `connect_with_local_port`. -/
def connectWithLocalPort : DialM VsockStream := connectLoop api hostCid port localPort 0

/-- The retry loop of `perform_handshake`. -/
def retryLoop (config : AgentConfig) (attempts : ℕ) : DialM VsockStream := do
  match ← resultOf (connectWithLocalPort api hostCid config.serverPort config.clientPort) with
  | .ok stream => return stream
  | .error (_ : String) =>
    if h : attempts < 15 then
      retryLoop config (attempts + 1)
    else
      throw "handshake vsock connection failed"
termination_by 15 - attempts
decreasing_by omega

/-- `perform_handshake` up to the stream. -/
def performHandshakeDial (config : AgentConfig) : DialM VsockStream :=
  retryLoop api hostCid config 0

/-- A dial that starts with the open descriptors of the table leaves one more, a socket that is
bound to the local port and connected to the host, or when it fails those of the table; it binds at
most `n` times. -/
structure Leaves (table : Table Socket) (n : ℕ) (s : Sockets)
    (result : EStateM.Result String Sockets VsockStream) : Prop where
  balanced : Balanced table .bind n s (finalState result)
  ok : ∀ stream s', result = .ok stream s' → ∃ socket, Adds table stream.fd socket s'.table ∧
    socket.localAddr = some ⟨vmaddrCidAny, localPort⟩ ∧ socket.peerAddr = some ⟨hostCid, port⟩
  error : ∀ e s', result = .error e s' → s'.table = table

variable {api} {hostCid port localPort} {table : Table Socket} {m n : ℕ} {s s₁ : Sockets}

/-! ## One dial -/

namespace Leaves

variable {result : EStateM.Result String Sockets VsockStream}

/-- Calls before a dial count as well. -/
theorem after (h : Leaves hostCid port localPort table n s₁ result)
    (hbefore : Balanced table .bind m s s₁) :
    Leaves hostCid port localPort table (m + n) s result :=
  ⟨hbefore.trans h.balanced, h.ok, h.error⟩

theorem mono (h : Leaves hostCid port localPort table m s result) (hle : m ≤ n) :
    Leaves hostCid port localPort table n s result :=
  ⟨h.balanced.mono hle, h.ok, h.error⟩

/-- A failure with the table as it was leaves it. -/
theorem of_error (htable : s.table = table) (e : String) :
    Leaves hostCid port localPort table 0 s (.error e s) := by
  refine ⟨.refl table _ s, fun stream s' h => ?_, fun e' s' h => ?_⟩
  · cases h
  · cases h
    exact htable

end Leaves

/-- Closing the socket before a failure leaves the table. -/
theorem close_leaves {socket : ℕ} {r : Socket} (h : Adds table socket r s.table) (e : String) :
    Leaves hostCid port localPort table 0 s
      ((do close .close socket; throw e : DialM VsockStream) s) := by
  obtain ⟨s₁, hclose, hbalanced, htable⟩ := close_of_adds (δ := String) SysCall.bind .close s h
  rw [bind_of_ok hclose, throw_run]
  exact (Leaves.of_error htable e).after hbalanced

/-- A connected socket becomes a stream, or is closed. -/
theorem newStream_leaves {socket : ℕ} {r : Socket} (h : Adds table socket r s.table)
    (hlocal : r.localAddr = some ⟨vmaddrCidAny, localPort⟩)
    (hpeer : r.peerAddr = some ⟨hostCid, port⟩) :
    Leaves hostCid port localPort table 0 s (newStream api socket s) := by
  obtain ⟨result, s₁, hrun, hbalanced, hcases⟩ :=
    perform_cases (δ := String) SysCall.bind .newStream s h id api.newStream
  rw [newStream, bind_of_ok hrun]
  -- the stream owns the socket now; when the call fails the socket goes with it
  rcases hcases with ⟨⟨⟩, rfl, hadds⟩ | ⟨e, rfl, hadds⟩
  · refine ⟨hbalanced, fun stream s' hok => ?_, fun e s' herror => ?_⟩
    · cases hok
      exact ⟨r, hadds, hlocal, hpeer⟩
    · cases herror
  · exact (close_leaves hadds e.message).after hbalanced

/-- A bound socket is connected and becomes a stream, or is closed. -/
theorem connectBound_leaves {socket : ℕ} {r : Socket} (h : Adds table socket r s.table)
    (hlocal : r.localAddr = some ⟨vmaddrCidAny, localPort⟩) :
    Leaves hostCid port localPort table 0 s (connectBound api hostCid port socket s) := by
  obtain ⟨result, s₁, hrun, hbalanced, hcases⟩ := perform_cases (δ := String) SysCall.bind .connect
    s h ({ · with peerAddr := some ⟨hostCid, port⟩ }) api.connect
  rw [connectBound, bind_of_ok hrun]
  -- a failure to connect closes the socket by hand
  rcases hcases with ⟨⟨⟩, rfl, hadds⟩ | ⟨e, rfl, hadds⟩
  · exact (newStream_leaves hadds hlocal rfl).after hbalanced
  · exact (close_leaves hadds _).after hbalanced

/-- A round of the loop binds once, and what may follow starts with the table as it was. -/
theorem connectLoop_round {attempts : ℕ} (s : Sockets)
    (hnext : attempts < 10 → ∀ s₁ : Sockets, Leaves hostCid port localPort s₁.table n s₁
      (connectLoop api hostCid port localPort (attempts + 1) s₁)) :
    Leaves hostCid port localPort s.table (n + 1) s
      (connectLoop api hostCid port localPort attempts s) := by
  obtain ⟨result, s₁, hsocket, hbalanced, hcases⟩ := acquire_cases (δ := String) SysCall.bind
    .socket s ⟨false, none, none⟩ api.socket_unused
  rw [connectLoop, bind_of_ok hsocket]
  rcases hcases with ⟨socket, rfl, hadds⟩ | ⟨e, rfl, htable⟩
  · obtain ⟨result, s₂, hoption, hbalanced', hcases⟩ := perform_cases (δ := String) SysCall.bind
      .setsockopt s₁ hadds ({ · with reuseAddr := true }) api.setsockopt
    -- the option is set or not, the socket is there
    obtain ⟨r, hadds⟩ : ∃ r, Adds s.table socket r s₂.table :=
      hcases.elim (fun ⟨_, _, hadds⟩ => ⟨_, hadds⟩) fun ⟨_, _, hadds⟩ => ⟨_, hadds⟩
    obtain ⟨result, s₃, hbind, hbalanced'', hcases⟩ := perform_cases (δ := String) SysCall.bind
      .bind s₂ hadds ({ · with localAddr := some ⟨vmaddrCidAny, localPort⟩ }) api.bind
    -- the call to `bind` is the one that counts
    have hcalls : Balanced s.table .bind 1 s s₃ := (hbalanced.trans hbalanced').trans hbalanced''
    simp only
    rw [bind_of_ok hoption, bind_of_ok hbind]
    rcases hcases with ⟨⟨⟩, rfl, hadds⟩ | ⟨e, rfl, hadds⟩
    · exact ((connectBound_leaves hadds rfl).after hcalls).mono (Nat.le_add_left 1 n)
    · obtain ⟨s₄, hclose, hclosed, htable⟩ :=
        close_of_adds (δ := String) SysCall.bind .close s₃ hadds
      have hround : Balanced s.table .bind 1 s s₄ := hcalls.trans hclosed
      simp only
      rw [bind_of_ok hclose]
      -- a busy port starts another round, from the table of this one
      split
      · rename_i hretry
        have hrest := hnext hretry.2 s₄
        rw [htable] at hrest
        exact (hrest.after hround).mono (Nat.le_of_eq (Nat.add_comm 1 n))
      · exact ((Leaves.of_error htable _).after hround).mono (Nat.le_add_left 1 n)
  -- no socket was opened
  · exact ((Leaves.of_error htable e.message).after hbalanced).mono (Nat.zero_le _)

/-- The loop binds once in each round, and after ten failures there is one round left. -/
theorem connectLoop_leaves {attempts left : ℕ} (h : attempts + left = 10) (s : Sockets) :
    Leaves hostCid port localPort s.table (left + 1) s
      (connectLoop api hostCid port localPort attempts s) := by
  -- induction on the rounds that are left
  induction left generalizing attempts s with
  | zero => exact connectLoop_round s fun hlt => by omega
  | succ left ih => exact connectLoop_round s fun _ s₁ => ih (by omega) s₁

/-- A dial binds at most eleven times. -/
theorem connectWithLocalPort_leaves (s : Sockets) :
    Leaves hostCid port localPort s.table 11 s
      (connectWithLocalPort api hostCid port localPort s) :=
  connectLoop_leaves rfl s

/-! ## The retries -/

/-- A round of the retry loop is a dial, and what may follow starts with the table as it was. -/
theorem retryLoop_round {config : AgentConfig} {attempts : ℕ} (s : Sockets)
    (hnext : attempts < 15 → ∀ s₁ : Sockets, Leaves hostCid config.serverPort config.clientPort
      s₁.table n s₁ (retryLoop api hostCid config (attempts + 1) s₁)) :
    Leaves hostCid config.serverPort config.clientPort s.table (11 + n) s
      (retryLoop api hostCid config attempts s) := by
  have hdial : Leaves hostCid config.serverPort config.clientPort s.table 11 s
      (connectWithLocalPort api hostCid config.serverPort config.clientPort s) :=
    connectWithLocalPort_leaves s
  rw [retryLoop]
  cases hrun : connectWithLocalPort api hostCid config.serverPort config.clientPort s with
  | ok stream s₁ =>
    rw [hrun] at hdial
    rw [bind_of_ok (resultOf_of_ok hrun)]
    -- the stream of the dial is returned
    exact hdial.mono (Nat.le_add_right 11 n)
  | error e s₁ =>
    rw [hrun] at hdial
    rw [bind_of_ok (resultOf_of_error hrun)]
    have htable := hdial.error e s₁ rfl
    simp only
    -- a failed dial has left nothing, so the next one starts with the same table
    split
    · rename_i hretry
      have hrest := hnext hretry s₁
      rw [htable] at hrest
      exact hrest.after hdial.balanced
    · exact ((Leaves.of_error htable _).after hdial.balanced).mono (Nat.le_add_right 11 n)

/-- The retry loop dials once in each round, and after fifteen failures there is one round left. -/
theorem retryLoop_leaves {config : AgentConfig} {attempts left : ℕ} (h : attempts + left = 15)
    (s : Sockets) : Leaves hostCid config.serverPort config.clientPort s.table (11 * (left + 1)) s
      (retryLoop api hostCid config attempts s) := by
  -- induction on the rounds that are left
  induction left generalizing attempts s with
  | zero => exact retryLoop_round (n := 0) s fun hlt => by omega
  | succ left ih =>
    have hrest := retryLoop_round s fun _ s₁ => ih (by omega : attempts + 1 + left = 15) s₁
    exact hrest.mono (by omega)

/-- Whatever the operating system answers, a dial ends after at most eleven calls to `bind`, and the
retry loop after at most sixteen dials. At no time either has more than one socket of its own. When
it returns a stream, its socket is the one more that is open and is bound to the local port, and
when it fails there is none. -/
theorem dialling_leaks_no_socket (api : SocketApi) (hostCid port localPort : UInt32)
    (config : AgentConfig) (s : Sockets) :
    Leaves hostCid port localPort s.table 11 s
        (connectWithLocalPort api hostCid port localPort s) ∧
      Leaves hostCid config.serverPort config.clientPort s.table (11 * 16) s
        (performHandshakeDial api hostCid config s) :=
  ⟨connectWithLocalPort_leaves s, retryLoop_leaves rfl s⟩

/-- An operating system whose calls succeed; the descriptor of the `n`-th call is `n + 3`. -/
def Symbolic.socketApi : SocketApi where
  socket n table := if table (n + 3) = none then .ok (n + 3) else .error ⟨24, "Too many open files"⟩
  socket_unused n table fd h := by
    split at h
    · rename_i hfree
      cases h
      exact hfree
    · cases h
  setsockopt _ := .ok ()
  bind _ := .ok ()
  connect _ := .ok ()
  newStream _ := .ok ()

example : ∃ s', connectWithLocalPort Symbolic.socketApi 2 900 901 ⟨fun _ => none, []⟩ =
    .ok ⟨3⟩ s' := by
  rw [connectWithLocalPort, connectLoop]
  exact ⟨_, rfl⟩

end AuthnScope
