import AuthnScope.Agent.Attest
import AuthnScope.Agent.Credentials
import AuthnScope.Lib.Locks
import AuthnScope.Lib.Run
import AuthnScope.Proto.Json

/-!
# The Workload API

`handle_workload_conn` of `authn-scope-agent/src/client.rs`, run by any number of tasks at once. A
task is always at one of its await points; a step takes it from there to the next one, and what
the code does in between is done in the same step, as every value it touches is behind a lock that
the task holds. Only the first attempt to bind the listener, which follows the response without an
await point, is a step of its own.

The locks follow the scopes of their guards. `workloads` is held from attestation until the task
returns, `cache` during `get_or_fetch_credentials`, `dial_mutex` during the dial; `listener` is
locked for one assignment at a time, so no task holds it at an await point.

A client sends bytes, reads the response and ends its side whenever it likes. `read_line` waits for
a line or the end of the stream, and `write_all` until the client has room for the response. What
the operating system and the host answer at a step is the step's `StepEnv`.

## Main definitions

* `Pc`: the await points, with the values that are live there;
* `Pc.guards`, `Pc.awaits`: the guards in scope at an await point, and the lock it waits for;
* `Task.step`: the code of one task between two await points;
* `System.step`: the agent with its clients;
* `Pc.Leads`: the await points a step leads from and to.

## Main results

* `Task.Goes.leads`: the await points of a step;
* `System.step_accept_eq_some_iff`, `System.step_clientSends_eq_some_iff`,
  `System.step_clientReads_eq_some_iff`, `System.step_clientEnds_eq_some_iff`,
  `System.step_run_eq_some_iff`: what each action does;
* `System.task_step_cases`: where a task is after a step.
-/

namespace AuthnScope

open Locks

/-- A request of a workload, of which the code reads the type. -/
structure WorkloadRequest where
  reqType : String
  deriving DecidableEq, Repr

/-- The answer to a workload. -/
inductive WorkloadResponse where
  | success (certPem keyPem caCertPem : String)
  | error (message : String)
  deriving DecidableEq, Repr

/-- The encoding of a request. -/
def WorkloadRequest.toJson (req : WorkloadRequest) : Json := .obj [("type", .str req.reqType)]

/-- The encoding derived for `WorkloadResponse`. -/
def WorkloadResponse.toJson : WorkloadResponse → Json
  | .success certPem keyPem caCertPem =>
    .obj [("status", .str "success"), ("cert_pem", .str certPem), ("key_pem", .str keyPem),
      ("ca_cert_pem", .str caCertPem)]
  | .error message => .obj [("status", .str "error"), ("message", .str message)]

/-- What the Workload API runs with: the configuration, the two directions of its JSON messages,
and the `{:?}` of an optional string. -/
structure WorkloadApi (KeyPair PublicKey : Type) where
  lib : X509Lib KeyPair PublicKey
  config : AgentConfig
  reqSerde : Serde WorkloadRequest
  respSerde : Serde WorkloadResponse
  debug : Option String → String

/-- The answers to the operations of one step. `writeFault` is `none` when the response is written,
and else the number of bytes that were and the error. -/
structure StepEnv (KeyPair : Type) where
  db : UserDb
  generated : Except String KeyPair
  csrSeed : List UInt8
  hostCid : UInt32
  connect : UInt32 → UInt32 → UInt32 → Except String Unit
  send : AgentRequest → Except String Unit
  recv : AgentRequest → Except String AgentResponse
  bind : Except String Unit
  writeFault : Option (ℕ × String)

/-- The mutexes of the agent's state. -/
inductive Lock where
  | workloads
  | cache
  | dialMutex
  | listener
  deriving DecidableEq, Repr

/-- The await points of `handle_workload_conn` and the functions below it, in their order. -/
inductive Pc where
  | lockWorkloads (proc : Process)
  | readLine (identityName : String)
  | lockCache (identityName : String)
  | lockDialMutex (identityName : String) (generated : GeneratedCsr)
  | releaseListener (identityName : String) (generated : GeneratedCsr)
  | connect (identityName : String) (generated : GeneratedCsr)
  | sendRequest (identityName : String) (generated : GeneratedCsr)
  | receiveResponse (identityName : String) (generated : GeneratedCsr)
  | bindListener (identityName : String) (generated : GeneratedCsr) (resp : AgentResponse)
      (attempts : ℕ)
  | restoreListener (identityName : String) (generated : GeneratedCsr) (resp : AgentResponse)
      (newListener : VsockListener)
  | writeResponse (resp : WorkloadResponse) (bytes : List UInt8)
  | returned (result : Except String Unit)

namespace Pc

/-- The guards in scope at an await point. -/
def guards : Pc → List Lock
  | lockWorkloads _ => []
  -- the guard of `workloads` lives to the end of the function
  | readLine _ | lockCache _ | writeResponse _ _ => [.workloads]
  | lockDialMutex _ _ => [.workloads, .cache]
  | releaseListener _ _ | connect _ _ | sendRequest _ _ | receiveResponse _ _
  | bindListener _ _ _ _ | restoreListener _ _ _ _ => [.workloads, .cache, .dialMutex]
  | returned _ => []

/-- The lock an await point waits for. -/
def awaits : Pc → Option Lock
  | lockWorkloads _ => some .workloads
  | lockCache _ => some .cache
  | lockDialMutex _ _ => some .dialMutex
  | releaseListener _ _ | restoreListener _ _ _ _ => some .listener
  | _ => none

/-- Between the release of the client port and its protection. -/
def dialling : Pc → Bool
  | connect _ _ | sendRequest _ _ | receiveResponse _ _ | bindListener _ _ _ _
  | restoreListener _ _ _ _ => true
  | _ => false

/-- A bound on the steps a task has left. -/
def remaining : Pc → ℕ
  | lockWorkloads _ => 21
  | readLine _ => 20
  | lockCache _ => 19
  | lockDialMutex _ _ => 18
  | releaseListener _ _ => 17
  | connect _ _ => 16
  | sendRequest _ _ => 15
  | receiveResponse _ _ => 14
  -- binding is tried again ten times
  | bindListener _ _ _ attempts => 3 + (10 - attempts)
  | restoreListener _ _ _ _ => 2
  | writeResponse _ _ => 1
  | returned _ => 0

/-- `?` on a result: the function returns on an error. -/
def andThen {α : Type} (r : Except String α) (next : α → Pc) : Pc :=
  match r with
  | .ok a => next a
  | .error e => .returned (.error e)

end Pc

/-- A task: the attributes of the process behind its peer, the bytes the client has sent, how its
side ended, how many bytes it still takes, the bytes written to it, and the await point. -/
structure Task where
  peer : Except String Process
  inbox : List UInt8
  ending : Option (Except String Unit)
  room : ℕ
  output : List UInt8
  pc : Pc

/-- `read_line`: the bytes up to the first newline, or all of them at the end of the stream. It
waits while there is neither. -/
def readLine (inbox : List UInt8) (ending : Option (Except String Unit)) :
    Option (Except String (List UInt8)) :=
  if 10 ∈ inbox then some (.ok (inbox.takeWhile (· ≠ 10) ++ [10]))
  else ending.map fun result => result.map fun _ => inbox

section

variable {KeyPair PublicKey : Type} (api : WorkloadApi KeyPair PublicKey)

namespace WorkloadApi

/-- Serialise a response and start writing it. -/
def respond (resp : WorkloadResponse) : Pc :=
  .andThen (api.respSerde.toVec resp) fun json => .writeResponse resp (json ++ [10])

/-- The text a process without a workload is sent. -/
def attestationFailed (proc : Process) : String :=
  s!"Attestation failed: no workload selector matches UID '{proc.uid}', GID '{proc.gid}', " ++
    s!"bin_path '{api.debug proc.binPath}', systemd unit name '{api.debug proc.unitname}'"

/-- With the workloads locked: match the process. -/
def attest (db : UserDb) (proc : Process) (workloads : HashMap WorkloadConfig) : Pc :=
  match matchWorkload db proc workloads with
  | some name => .readLine name
  | none => api.respond (.error (api.attestationFailed proc))

/-- With a line of the client: check that it is a request for credentials. -/
def handleLine (identityName : String) (line : List UInt8) : Pc :=
  if (String.fromUTF8? ⟨line.toArray⟩).isNone then
    .returned (.error "stream did not contain valid UTF-8")
  else if line.isEmpty then .returned (.ok ())
  else .andThen (api.reqSerde.fromSlice line) fun req =>
    if req.reqType ≠ "fetch" then
      api.respond (.error s!"Unsupported request type: {req.reqType}")
    else .lockCache identityName

/-- With the cache locked: answer from it, or generate a CSR to ask for a certificate. -/
def lookUp (env : StepEnv KeyPair) (now : Instant) (identityName : String)
    (cache : HashMap CachedCredential) : Pc :=
  match cachedCredentials api.lib identityName cache now with
  | some creds => api.respond (.success creds.certPem creds.keyPem creds.caCertPem)
  | none =>
    .andThen (withContext s!"CSR generation for identity '{identityName}'" <|
      generateCsr api.lib env.generated env.csrSeed identityName) (.lockDialMutex identityName)

/-- With the listener in place again: the result of the request, which is stored when it gives
credentials. -/
def finish (now : Instant) (identityName : String) (generated : GeneratedCsr)
    (resp : AgentResponse) (st : AgentState) : AgentState × Pc :=
  match credentialsOfResponse identityName generated.keyPem resp with
  | .ok creds =>
    (st.store identityName creds now,
      api.respond (.success creds.certPem creds.keyPem creds.caCertPem))
  | .error e => (st, .returned (.error e))

end WorkloadApi

namespace Task

/-- A connection is accepted: a task whose peer is known waits for the workloads. -/
def accepted (peer : Except String Process) (room : ℕ) : Task where
  peer := peer
  inbox := []
  ending := none
  room := room
  output := []
  pc := .andThen peer .lockWorkloads

/-- The task at another await point. -/
def goto (task : Task) (pc : Pc) : Task := { task with pc := pc }

/-- `write_all`: it waits while the client has no room for the bytes, and fails when the client has
ended its side. -/
def write (task : Task) (bytes : List UInt8) : Option (ℕ × String) → Option Task
  | none =>
    if bytes.length ≤ task.room then
      some { task with
        output := task.output ++ bytes
        room := task.room - bytes.length
        pc := .returned (.ok ()) }
    else none
  -- the fault is a client that has gone, after some of the bytes
  | some (n, e) =>
    if task.ending.isSome then
      some { task with output := task.output ++ bytes.take n, pc := .returned (.error e) }
    else none

/-- The task goes on from its await point to the next one, if it can. -/
def step (env : StepEnv KeyPair) (now : Instant) (st : AgentState) (task : Task) :
    Option (AgentState × Task) :=
  match task.pc with
  | .lockWorkloads proc => some (st, task.goto (api.attest env.db proc st.workloads))
  -- without a line yet there is no step
  | .readLine name =>
    (readLine task.inbox task.ending).map fun line =>
      (st, task.goto (.andThen line (api.handleLine name)))
  | .lockCache name => some (st, task.goto (api.lookUp env now name st.cache))
  | .lockDialMutex name generated => some (st, task.goto (.releaseListener name generated))
  | .releaseListener name generated =>
    some ({ st with listener := none }, task.goto (.connect name generated))
  | .connect name generated =>
    let connectRes := env.connect env.hostCid api.config.serverPort api.config.clientPort
    some (st, task.goto (.andThen (withContext "vsock connect on demand failed" connectRes)
      fun _ => .sendRequest name generated))
  | .sendRequest name generated =>
    let req := certRequest api.config name generated.csrPem
    some (st, task.goto (.andThen (withContext "sending CertRequest" (env.send req))
      fun _ => .receiveResponse name generated))
  | .receiveResponse name generated =>
    let req := certRequest api.config name generated.csrPem
    some (st, task.goto (.andThen (withContext "receiving AgentResponse" (env.recv req))
      fun resp => .bindListener name generated resp 0))
  | .bindListener name generated resp attempts =>
    match env.bind with
    | .ok () =>
      some (st, task.goto (.restoreListener name generated resp ⟨api.config.clientPort⟩))
    | .error _ =>
      if attempts < 10 then
        some (st, task.goto (.bindListener name generated resp (attempts + 1)))
      else
        some (st, task.goto (.returned
          (.error "failed to re-bind port 901 listener after on-demand dial")))
  -- only with the port protected again is the response looked at
  | .restoreListener name generated resp newListener =>
    let (st, pc) := api.finish now name generated resp { st with listener := some newListener }
    some (st, task.goto pc)
  | .writeResponse _ bytes => (task.write bytes env.writeFault).map fun task => (st, task)
  | .returned _ => none

end Task

/-- The agent: the clock, the locks, what they protect, and the task of each connection. -/
structure System where
  now : Instant
  holder : Table Lock ℕ
  state : AgentState
  tasks : ℕ → Option Task

/-- What can happen: a connection is accepted, its client sends bytes, reads or ends its side, time
passes, or a task goes on. -/
inductive Action (KeyPair : Type) where
  | accept (id : ℕ) (peer : Except String Process) (room : ℕ)
  | clientSends (id : ℕ) (bytes : List UInt8)
  | clientReads (id count : ℕ)
  | clientEnds (id : ℕ) (result : Except String Unit)
  | tick (nanos : ℕ)
  | run (id : ℕ) (env : StepEnv KeyPair)

namespace System

/-- The agent after `run_agent` has bound its listener. -/
def start (now : Instant) (state : AgentState) : System := ⟨now, Table.free, state, fun _ => none⟩

/-- Replace a task. -/
def setTask (sys : System) (id : ℕ) (task : Task) : System :=
  { sys with tasks := Function.update sys.tasks id (some task) }

/-- A task has come to its next await point: it holds the locks whose guards are in scope there,
and no others. -/
def advance (sys : System) (id : ℕ) (state : AgentState) (task : Task) : System :=
  { sys with
    state := state
    holder := sys.holder.retain id task.pc.guards
    tasks := Function.update sys.tasks id (some task) }

/-- The next state. -/
def step (sys : System) : Action KeyPair → Option System
  | .accept id peer room =>
    if (sys.tasks id).isSome then none else some (sys.setTask id (.accepted peer room))
  | .clientSends id bytes =>
    (sys.tasks id).bind fun task =>
      if task.ending.isSome then none
      else some (sys.setTask id { task with inbox := task.inbox ++ bytes })
  | .clientReads id count =>
    (sys.tasks id).map fun task => sys.setTask id { task with room := task.room + count }
  | .clientEnds id result =>
    (sys.tasks id).bind fun task =>
      if task.ending.isSome then none
      else some (sys.setTask id { task with ending := some result })
  | .tick nanos => some { sys with now := ⟨sys.now.nanos + nanos⟩ }
  | .run id env =>
    (sys.tasks id).bind fun task =>
      -- a lock is taken when it is free
      if task.pc.awaits.all fun l => (sys.holder l).isNone then
        (task.step api env sys.now sys.state).map fun (state, task) => sys.advance id state task
      else none

end System

end

section

variable {KeyPair PublicKey : Type} {api : WorkloadApi KeyPair PublicKey}

/-! ## One task -/

namespace Task

/-- The ways a step of a task can go: one for each await point, and for binding and writing one for
each answer that the code distinguishes. -/
inductive Goes (api : WorkloadApi KeyPair PublicKey) (env : StepEnv KeyPair) (now : Instant)
    (st : AgentState) (task : Task) : AgentState → Task → Prop where
  | lockWorkloads {proc : Process} (hpc : task.pc = .lockWorkloads proc) :
      Goes api env now st task st (task.goto (api.attest env.db proc st.workloads))
  | readLine {name : String} {line : Except String (List UInt8)} (hpc : task.pc = .readLine name)
      (hline : AuthnScope.readLine task.inbox task.ending = some line) :
      Goes api env now st task st (task.goto (.andThen line (api.handleLine name)))
  | lockCache {name : String} (hpc : task.pc = .lockCache name) :
      Goes api env now st task st (task.goto (api.lookUp env now name st.cache))
  | lockDialMutex {name : String} {generated : GeneratedCsr}
      (hpc : task.pc = .lockDialMutex name generated) :
      Goes api env now st task st (task.goto (.releaseListener name generated))
  | releaseListener {name : String} {generated : GeneratedCsr}
      (hpc : task.pc = .releaseListener name generated) :
      Goes api env now st task { st with listener := none } (task.goto (.connect name generated))
  | connect {name : String} {generated : GeneratedCsr} (hpc : task.pc = .connect name generated) :
      Goes api env now st task st (task.goto (.andThen
        (withContext "vsock connect on demand failed"
          (env.connect env.hostCid api.config.serverPort api.config.clientPort))
        fun _ => .sendRequest name generated))
  | sendRequest {name : String} {generated : GeneratedCsr}
      (hpc : task.pc = .sendRequest name generated) :
      Goes api env now st task st (task.goto (.andThen
        (withContext "sending CertRequest"
          (env.send (certRequest api.config name generated.csrPem)))
        fun _ => .receiveResponse name generated))
  | receiveResponse {name : String} {generated : GeneratedCsr}
      (hpc : task.pc = .receiveResponse name generated) :
      Goes api env now st task st (task.goto (.andThen
        (withContext "receiving AgentResponse"
          (env.recv (certRequest api.config name generated.csrPem)))
        fun resp => .bindListener name generated resp 0))
  | bound {name : String} {generated : GeneratedCsr} {resp : AgentResponse} {attempts : ℕ}
      (hpc : task.pc = .bindListener name generated resp attempts) (hbind : env.bind = .ok ()) :
      Goes api env now st task st
        (task.goto (.restoreListener name generated resp ⟨api.config.clientPort⟩))
  | bindAgain {name e : String} {generated : GeneratedCsr} {resp : AgentResponse} {attempts : ℕ}
      (hpc : task.pc = .bindListener name generated resp attempts) (hbind : env.bind = .error e)
      (hattempts : attempts < 10) :
      Goes api env now st task st (task.goto (.bindListener name generated resp (attempts + 1)))
  | bindFailed {name e : String} {generated : GeneratedCsr} {resp : AgentResponse} {attempts : ℕ}
      (hpc : task.pc = .bindListener name generated resp attempts) (hbind : env.bind = .error e)
      (hattempts : ¬attempts < 10) :
      Goes api env now st task st (task.goto (.returned
        (.error "failed to re-bind port 901 listener after on-demand dial")))
  | restoreListener {name : String} {generated : GeneratedCsr} {resp : AgentResponse}
      {newListener : VsockListener}
      (hpc : task.pc = .restoreListener name generated resp newListener) :
      Goes api env now st task
        (api.finish now name generated resp { st with listener := some newListener }).1
        (task.goto (api.finish now name generated resp { st with listener := some newListener }).2)
  | writeResponse {resp : WorkloadResponse} {bytes : List UInt8}
      (hpc : task.pc = .writeResponse resp bytes) (hroom : bytes.length ≤ task.room)
      (hwrite : env.writeFault = none) :
      Goes api env now st task st
        { task with
          output := task.output ++ bytes
          room := task.room - bytes.length
          pc := .returned (.ok ()) }
  | writeFailed {resp : WorkloadResponse} {bytes : List UInt8} {n : ℕ} {e : String}
      (hpc : task.pc = .writeResponse resp bytes) (hended : task.ending.isSome)
      (hwrite : env.writeFault = some (n, e)) :
      Goes api env now st task st
        { task with output := task.output ++ bytes.take n, pc := .returned (.error e) }

variable {env : StepEnv KeyPair} {now : Instant} {st st' : AgentState} {task task' : Task}

theorem step_eq_some_iff :
    task.step api env now st = some (st', task') ↔ task.Goes api env now st st' task' := by
  constructor
  · intro h
    unfold step at h
    -- reading, binding and writing depend on the client or on the answer
    split at h
    case h_2 hpc =>
      obtain ⟨line, hline, h⟩ := Option.map_eq_some_iff.mp h
      cases h
      exact .readLine hpc hline
    case h_9 hpc =>
      rcases hbind : env.bind with e | ⟨⟨⟩⟩
      · simp only [hbind] at h
        split at h
        · rename_i hattempts
          cases h
          exact .bindAgain hpc hbind hattempts
        · rename_i hattempts
          cases h
          exact .bindFailed hpc hbind hattempts
      · simp only [hbind] at h
        cases h
        exact .bound hpc hbind
    case h_11 hpc =>
      obtain ⟨task'', hwrite, h⟩ := Option.map_eq_some_iff.mp h
      cases h
      unfold write at hwrite
      split at hwrite
      · rename_i hfault
        split at hwrite
        · rename_i hroom
          cases hwrite
          exact .writeResponse hpc hroom hfault
        · cases hwrite
      · rename_i hfault
        split at hwrite
        · rename_i hended
          cases hwrite
          exact .writeFailed hpc hended hfault
        · cases hwrite
    case h_12 => cases h
    -- the other await points have one step each
    all_goals
      cases h
      constructor
      assumption
  · intro h
    cases h with
    | readLine hpc hline => simp [step, hpc, hline]
    | bound hpc hbind => simp [step, hpc, hbind]
    | bindAgain hpc hbind hattempts => simp [step, hpc, hbind, hattempts]
    | bindFailed hpc hbind hattempts => simp [step, hpc, hbind, hattempts]
    | writeResponse hpc hroom hwrite => simp [step, write, hpc, hroom, hwrite]
    | writeFailed hpc hended hwrite => simp [step, write, hpc, hended, hwrite]
    | _ hpc => simp [step, hpc]

/-! ### Await points -/

end Task

/-- The await points that a step leads from and to. A step that ends the task with an error is
`fails`, wherever it comes from. -/
inductive Pc.Leads (api : WorkloadApi KeyPair PublicKey) (env : StepEnv KeyPair) (now : Instant)
    (st : AgentState) : Pc → Pc → Prop where
  | fails {pc : Pc} (hpc : ∀ result, pc ≠ .returned result) (e : String) :
      Leads api env now st pc (.returned (.error e))
  | matched {proc : Process} {name : String}
      (hmatch : matchWorkload env.db proc st.workloads = some name) :
      Leads api env now st (.lockWorkloads proc) (.readLine name)
  | unmatched {proc : Process} {json : List UInt8}
      (hmatch : matchWorkload env.db proc st.workloads = none)
      (hjson : api.respSerde.toVec (.error (api.attestationFailed proc)) = .ok json) :
      Leads api env now st (.lockWorkloads proc)
        (.writeResponse (.error (api.attestationFailed proc)) (json ++ [10]))
  | ended (name : String) : Leads api env now st (.readLine name) (.returned (.ok ()))
  | unsupported {name message : String} {json : List UInt8}
      (hjson : api.respSerde.toVec (.error message) = .ok json) :
      Leads api env now st (.readLine name) (.writeResponse (.error message) (json ++ [10]))
  | fetch (name : String) : Leads api env now st (.readLine name) (.lockCache name)
  | cached {name : String} {creds : X509Credentials} {json : List UInt8}
      (hcached : cachedCredentials api.lib name st.cache now = some creds)
      (hjson : api.respSerde.toVec (.success creds.certPem creds.keyPem creds.caCertPem) =
        .ok json) :
      Leads api env now st (.lockCache name)
        (.writeResponse (.success creds.certPem creds.keyPem creds.caCertPem) (json ++ [10]))
  | generated {name : String} {generated : GeneratedCsr}
      (hcached : cachedCredentials api.lib name st.cache now = none)
      (hgenerated : generateCsr api.lib env.generated env.csrSeed name = .ok generated) :
      Leads api env now st (.lockCache name) (.lockDialMutex name generated)
  | dials (name : String) (generated : GeneratedCsr) :
      Leads api env now st (.lockDialMutex name generated) (.releaseListener name generated)
  | released (name : String) (generated : GeneratedCsr) :
      Leads api env now st (.releaseListener name generated) (.connect name generated)
  | connected (name : String) (generated : GeneratedCsr) :
      Leads api env now st (.connect name generated) (.sendRequest name generated)
  | sent {name : String} {generated : GeneratedCsr}
      (hsend : env.send (certRequest api.config name generated.csrPem) = .ok ()) :
      Leads api env now st (.sendRequest name generated) (.receiveResponse name generated)
  | received {name : String} {generated : GeneratedCsr} {resp : AgentResponse}
      (hrecv : env.recv (certRequest api.config name generated.csrPem) = .ok resp) :
      Leads api env now st (.receiveResponse name generated) (.bindListener name generated resp 0)
  | bound (name : String) (generated : GeneratedCsr) (resp : AgentResponse) (attempts : ℕ) :
      Leads api env now st (.bindListener name generated resp attempts)
        (.restoreListener name generated resp ⟨api.config.clientPort⟩)
  | bindAgain {name : String} {generated : GeneratedCsr} {resp : AgentResponse} {attempts : ℕ}
      (hattempts : attempts < 10) :
      Leads api env now st (.bindListener name generated resp attempts)
        (.bindListener name generated resp (attempts + 1))
  | stored {name : String} {generated : GeneratedCsr} {resp : AgentResponse}
      {newListener : VsockListener} {creds : X509Credentials} {json : List UInt8}
      (hcreds : credentialsOfResponse name generated.keyPem resp = .ok creds)
      (hjson : api.respSerde.toVec (.success creds.certPem creds.keyPem creds.caCertPem) =
        .ok json) :
      Leads api env now st (.restoreListener name generated resp newListener)
        (.writeResponse (.success creds.certPem creds.keyPem creds.caCertPem) (json ++ [10]))
  | written (resp : WorkloadResponse) (bytes : List UInt8) :
      Leads api env now st (.writeResponse resp bytes) (.returned (.ok ()))

namespace Task

variable {env : StepEnv KeyPair} {now : Instant} {st st' : AgentState} {task task' : Task}

/-- A `?` leads to what is behind it, or ends the task. -/
theorem leads_andThen {α : Type} {r : Except String α} {next : α → Pc} {pc : Pc}
    (hpc : ∀ result, pc ≠ .returned result)
    (hnext : ∀ a, r = .ok a → Pc.Leads api env now st pc (next a)) :
    Pc.Leads api env now st pc (.andThen r next) := by
  cases r with
  | error e => exact .fails hpc e
  | ok a => exact hnext a rfl

/-- The await points of a step. -/
theorem Goes.leads (h : task.Goes api env now st st' task') :
    Pc.Leads api env now st task.pc task'.pc := by
  cases h with
  | @lockWorkloads proc hpc =>
    show Pc.Leads api env now st task.pc (api.attest env.db proc st.workloads)
    rw [hpc]
    unfold WorkloadApi.attest
    rcases hmatch : matchWorkload env.db proc st.workloads with _ | name
    -- the error has to be serialised before it is written
    · exact leads_andThen (by simp) fun json hjson => .unmatched hmatch hjson
    · exact .matched hmatch
  | readLine hpc hline =>
    rw [hpc]
    -- not text, the end of the stream, not a request, another request, a fetch
    refine leads_andThen (by simp) fun line _ => ?_
    unfold WorkloadApi.handleLine
    split
    · exact .fails (by simp) _
    split
    · exact .ended _
    refine leads_andThen (by simp) fun req _ => ?_
    split
    · exact leads_andThen (by simp) fun json hjson => .unsupported hjson
    · exact .fetch _
  | @lockCache name hpc =>
    show Pc.Leads api env now st task.pc (api.lookUp env now name st.cache)
    rw [hpc]
    unfold WorkloadApi.lookUp
    -- without an entry that is fresh a request begins
    rcases hcached : cachedCredentials api.lib name st.cache now with _ | creds
    · exact leads_andThen (by simp) fun generated hgenerated =>
        .generated hcached ((Outcome.except_mapError_eq_ok_iff _ _ _).mp hgenerated)
    · exact leads_andThen (by simp) fun json hjson => .cached hcached hjson
  | lockDialMutex hpc =>
    rw [hpc]
    exact .dials _ _
  | releaseListener hpc =>
    rw [hpc]
    exact .released _ _
  | connect hpc =>
    rw [hpc]
    exact leads_andThen (by simp) fun _ _ => .connected _ _
  | sendRequest hpc =>
    rw [hpc]
    exact leads_andThen (by simp) fun _ hsend =>
      .sent ((Outcome.except_mapError_eq_ok_iff _ _ _).mp hsend)
  | receiveResponse hpc =>
    rw [hpc]
    exact leads_andThen (by simp) fun resp hrecv =>
      .received ((Outcome.except_mapError_eq_ok_iff _ _ _).mp hrecv)
  | bound hpc hbind =>
    rw [hpc]
    exact .bound _ _ _ _
  | bindAgain hpc hbind hattempts =>
    rw [hpc]
    exact .bindAgain hattempts
  | bindFailed hpc hbind hattempts => exact .fails (by simp [hpc]) _
  | @restoreListener name generated resp newListener hpc =>
    show Pc.Leads api env now st task.pc (api.finish now name generated resp _).2
    rw [hpc]
    unfold WorkloadApi.finish
    rcases hcreds : credentialsOfResponse name generated.keyPem resp with e | creds
    · exact .fails (by simp) e
    · exact leads_andThen (by simp) fun json hjson => .stored hcreds hjson
  | writeResponse hpc hroom hwrite =>
    rw [hpc]
    exact .written _ _
  | writeFailed hpc hended hwrite => exact .fails (by simp [hpc]) _

/-- A task that cannot go on before its client does something: in `read_line` without a line, or in
`write_all` without room. -/
def waitsForClient (task : Task) : Bool :=
  match task.pc with
  | .readLine _ => (AuthnScope.readLine task.inbox task.ending).isNone
  | .writeResponse _ bytes => task.ending.isNone && task.room < bytes.length
  | _ => false

/-- What a client does leaves the await point of its task alone, and makes no task wait. -/
structure Hears (task task' : Task) : Prop where
  pc : task'.pc = task.pc
  peer : task'.peer = task.peer
  output : task'.output = task.output
  waits : task'.waitsForClient → task.waitsForClient

theorem Hears.refl (task : Task) : task.Hears task := ⟨rfl, rfl, rfl, id⟩

theorem hears_send (h : task.ending = none) (bytes : List UInt8) :
    task.Hears { task with inbox := task.inbox ++ bytes } := by
  refine ⟨rfl, rfl, rfl, fun hwaits => ?_⟩
  cases hpc : task.pc with
  | readLine name =>
    -- a newline that has come stays
    simp_all [waitsForClient, AuthnScope.readLine]
  | writeResponse resp bytes => simpa [waitsForClient, hpc] using hwaits
  | _ => simp [waitsForClient, hpc] at hwaits

theorem hears_read (task : Task) (count : ℕ) :
    task.Hears { task with room := task.room + count } := by
  refine ⟨rfl, rfl, rfl, fun hwaits => ?_⟩
  -- more room is enough for as much as before
  cases hpc : task.pc with
  | writeResponse resp bytes =>
    simp only [waitsForClient, hpc, Bool.and_eq_true, decide_eq_true_eq] at hwaits ⊢
    exact ⟨hwaits.1, by omega⟩
  | readLine name => simpa [waitsForClient, hpc] using hwaits
  | _ => simp [waitsForClient, hpc] at hwaits

theorem hears_end (task : Task) (result : Except String Unit) :
    task.Hears { task with ending := some result } := by
  refine ⟨rfl, rfl, rfl, fun hwaits => ?_⟩
  cases hpc : task.pc with
  | readLine name =>
    simp only [waitsForClient, hpc, AuthnScope.readLine] at hwaits
    -- with the stream ended there is a line, complete or not
    split at hwaits <;> cases hwaits
  | _ => simp [waitsForClient, hpc] at hwaits

end Task

/-! ## The system -/

namespace System

variable {sys sys' : System}

theorem ite_isSome_eq_some_iff {α β : Type} (o : Option α) (a b : β) :
    (if o.isSome then none else some a) = some b ↔ o = none ∧ b = a := by
  cases o <;> simp [eq_comm]

/-- A connection is accepted under an identifier that is not in use. -/
theorem step_accept_eq_some_iff (id : ℕ) (peer : Except String Process) (room : ℕ) :
    sys.step api (.accept id peer room) = some sys' ↔
      sys.tasks id = none ∧ sys' = sys.setTask id (.accepted peer room) :=
  ite_isSome_eq_some_iff _ _ _

/-- A client sends bytes as long as it has not ended its side. -/
theorem step_clientSends_eq_some_iff (id : ℕ) (bytes : List UInt8) :
    sys.step api (.clientSends id bytes) = some sys' ↔
      ∃ task, sys.tasks id = some task ∧ task.ending = none ∧
        sys' = sys.setTask id { task with inbox := task.inbox ++ bytes } := by
  simp only [step, Option.bind_eq_some_iff, ite_isSome_eq_some_iff]

/-- A client reads. -/
theorem step_clientReads_eq_some_iff (id count : ℕ) :
    sys.step api (.clientReads id count) = some sys' ↔
      ∃ task, sys.tasks id = some task ∧
        sys' = sys.setTask id { task with room := task.room + count } := by
  simp only [step, Option.map_eq_some_iff]
  exact exists_congr fun task => and_congr_right fun _ => eq_comm

/-- A client ends its side once. -/
theorem step_clientEnds_eq_some_iff (id : ℕ) (result : Except String Unit) :
    sys.step api (.clientEnds id result) = some sys' ↔
      ∃ task, sys.tasks id = some task ∧ task.ending = none ∧
        sys' = sys.setTask id { task with ending := some result } := by
  simp only [step, Option.bind_eq_some_iff, ite_isSome_eq_some_iff]

/-- A step of a task: the lock it waits for is free, and it goes on. -/
theorem step_run_eq_some_iff (id : ℕ) :
    sys.step api (.run id env) = some sys' ↔
      ∃ task st' task', sys.tasks id = some task ∧
        (∀ l, task.pc.awaits = some l → sys.holder l = none) ∧
        task.Goes api env sys.now sys.state st' task' ∧ sys' = sys.advance id st' task' := by
  simp only [step, Option.bind_eq_some_iff]
  refine exists_congr fun task => ?_
  constructor
  · rintro ⟨htask, h⟩
    split at h
    · rename_i hfree
      obtain ⟨⟨st', task'⟩, hstep, rfl⟩ := Option.map_eq_some_iff.mp h
      refine ⟨st', task', htask, fun l hl => ?_, Task.step_eq_some_iff.mp hstep, rfl⟩
      rw [hl] at hfree
      exact Option.isNone_iff_eq_none.mp hfree
    · cases h
  · rintro ⟨st', task', htask, hfree, hgoes, rfl⟩
    have hall : (task.pc.awaits.all fun l => (sys.holder l).isNone) = true := by
      cases hl : task.pc.awaits with
      | none => rfl
      | some l => simp [hfree l hl]
    exact ⟨htask, by rw [if_pos hall, Task.step_eq_some_iff.mpr hgoes]; rfl⟩

@[simp]
theorem setTask_tasks_self (sys : System) (id : ℕ) (task : Task) :
    (sys.setTask id task).tasks id = some task := Function.update_self _ _ _

theorem setTask_tasks_of_ne (sys : System) {id other : ℕ} (h : other ≠ id) (task : Task) :
    (sys.setTask id task).tasks other = sys.tasks other := Function.update_of_ne h _ _

@[simp]
theorem advance_tasks_self (sys : System) (id : ℕ) (st : AgentState) (task : Task) :
    (sys.advance id st task).tasks id = some task := Function.update_self _ _ _

theorem advance_tasks_of_ne (sys : System) {id other : ℕ} (h : other ≠ id) (st : AgentState)
    (task : Task) : (sys.advance id st task).tasks other = sys.tasks other :=
  Function.update_of_ne h _ _

/-- What happens outside the tasks: new connections wait for the workloads, clients are heard, and
the locks and what they protect stay as they are. -/
structure Outside (sys sys' : System) : Prop where
  holder : sys'.holder = sys.holder
  state : sys'.state = sys.state
  task : ∀ id, (sys.tasks id = none ∧ sys'.tasks id = none) ∨
    (∃ peer room, sys.tasks id = none ∧ sys'.tasks id = some (.accepted peer room)) ∨
    ∃ task task', sys.tasks id = some task ∧ sys'.tasks id = some task' ∧ task.Hears task'

/-- A replaced task is the only change. -/
theorem outside_setTask {id : ℕ} {task' : Task}
    (h : (∃ peer room, sys.tasks id = none ∧ task' = .accepted peer room) ∨
      ∃ task, sys.tasks id = some task ∧ task.Hears task') :
    sys.Outside (sys.setTask id task') := by
  refine ⟨rfl, rfl, fun other => ?_⟩
  -- the task of the client, then the others
  by_cases hother : other = id
  · subst hother
    rw [setTask_tasks_self]
    rcases h with ⟨peer, room, hnone, rfl⟩ | ⟨task, htask, hhears⟩
    · exact Or.inr (Or.inl ⟨peer, room, hnone, rfl⟩)
    · exact Or.inr (Or.inr ⟨task, task', htask, rfl, hhears⟩)
  · rw [setTask_tasks_of_ne sys hother]
    cases htask : sys.tasks other with
    | none => exact Or.inl ⟨rfl, rfl⟩
    | some task => exact Or.inr (Or.inr ⟨task, task, rfl, rfl, .refl task⟩)

/-- Every step is a step of a task or comes from outside. -/
theorem step_cases {a : Action KeyPair} (h : sys.step api a = some sys') :
    (∃ id env, a = .run id env) ∨ sys.Outside sys' := by
  cases a with
  | accept id peer room =>
    obtain ⟨hnone, rfl⟩ := (step_accept_eq_some_iff id peer room).mp h
    exact Or.inr (outside_setTask (Or.inl ⟨peer, room, hnone, rfl⟩))
  | clientSends id bytes =>
    obtain ⟨task, htask, hopen, rfl⟩ := (step_clientSends_eq_some_iff id bytes).mp h
    exact Or.inr (outside_setTask (Or.inr ⟨task, htask, Task.hears_send hopen bytes⟩))
  | clientReads id count =>
    obtain ⟨task, htask, rfl⟩ := (step_clientReads_eq_some_iff id count).mp h
    exact Or.inr (outside_setTask (Or.inr ⟨task, htask, Task.hears_read task count⟩))
  | clientEnds id result =>
    obtain ⟨task, htask, -, rfl⟩ := (step_clientEnds_eq_some_iff id result).mp h
    exact Or.inr (outside_setTask (Or.inr ⟨task, htask, Task.hears_end task result⟩))
  | tick nanos =>
    cases h
    refine Or.inr ⟨rfl, rfl, fun id => ?_⟩
    show (sys.tasks id = none ∧ sys.tasks id = none) ∨ _
    cases htask : sys.tasks id with
    | none => exact Or.inl ⟨rfl, rfl⟩
    | some task => exact Or.inr (Or.inr ⟨task, task, rfl, rfl, .refl task⟩)
  | run id env => exact Or.inl ⟨id, env, rfl⟩

/-- A step of a task that is known. -/
theorem goes_of_step_run {id : ℕ} {task : Task} (hstep : sys.step api (.run id env) = some sys')
    (htask : sys.tasks id = some task) :
    (∀ l, task.pc.awaits = some l → sys.holder l = none) ∧
      ∃ st' task', task.Goes api env sys.now sys.state st' task' ∧
        sys' = sys.advance id st' task' := by
  obtain ⟨task₀, st', task', htask₀, hfree, hgoes, hsys'⟩ := (step_run_eq_some_iff id).mp hstep
  rw [htask] at htask₀
  cases htask₀
  exact ⟨hfree, st', task', hgoes, hsys'⟩

/-- Where a task is after a step: it has taken the step, it is that of a new connection, or it has
at most heard of its client. -/
theorem task_step_cases {a : Action KeyPair} {id : ℕ} {task' : Task}
    (hstep : sys.step api a = some sys') (htask' : sys'.tasks id = some task') :
    (∃ env task st', a = .run id env ∧ sys.tasks id = some task ∧
        task.Goes api env sys.now sys.state st' task' ∧ sys' = sys.advance id st' task') ∨
      (∃ peer room, sys.tasks id = none ∧ task' = .accepted peer room) ∨
      ∃ task, sys.tasks id = some task ∧ task.Hears task' := by
  rcases step_cases hstep with ⟨moving, env, rfl⟩ | hout
  · obtain ⟨task, st', task₁, htask, -, hgoes, rfl⟩ := (step_run_eq_some_iff moving).mp hstep
    -- the task is the one that moves, or it stays where it is
    by_cases hid : id = moving
    · subst hid
      rw [advance_tasks_self] at htask'
      cases htask'
      exact Or.inl ⟨env, task, st', rfl, htask, hgoes, rfl⟩
    · rw [advance_tasks_of_ne sys hid] at htask'
      exact Or.inr (Or.inr ⟨task', htask', .refl task'⟩)
  · rcases hout.task id with ⟨-, hnone⟩ | ⟨peer, room, hnone, hnew⟩ |
      ⟨task, task₁, htask, htask₁, hhears⟩
    · rw [hnone] at htask'
      cases htask'
    · rw [hnew] at htask'
      cases htask'
      exact Or.inr (Or.inl ⟨peer, room, hnone, rfl⟩)
    · rw [htask₁] at htask'
      cases htask'
      exact Or.inr (Or.inr ⟨task, htask, hhears⟩)

end System

end

end AuthnScope
