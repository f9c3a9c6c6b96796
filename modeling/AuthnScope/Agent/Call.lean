import AuthnScope.Agent.Locking

/-!
# A call between its await points

A task that has taken the cache lock is inside a call of `get_or_fetch_credentials`. At each await
point there is a rest of the sequential code, and a step of the task is a step of that rest.

## Main definitions

* `Pc.rest`: what is left of a call at an await point inside it;
* `FetchEnv.answered`, `FetchEnv.FromSteps`: the answers of a call, which are those of the steps.

## Main results

* `Pc.follows_lookUp`: taking the cache starts a call;
* `Task.Goes.follows`: a step of a task inside a call is a step of the call.
-/

namespace AuthnScope

open Locks Outcome

section

variable {KeyPair PublicKey : Type} (api : WorkloadApi KeyPair PublicKey) (env : FetchEnv KeyPair)
  (name : String) (generated : GeneratedCsr)

/-! ## What is left of a call -/

namespace FetchEnv

/-- The rest of `request_cert_on_demand` with a new listener. -/
def fromRestore (resp : AgentResponse) (newListener : VsockListener) : AgentM X509Credentials := do
  modify fun st => { st with listener := some newListener }
  liftResult <| credentialsOfResponse name generated.keyPem resp

/-- The rest of `request_cert_on_demand` after `attempts` attempts to bind. -/
def fromBind (resp : AgentResponse) (attempts : ℕ) : AgentM X509Credentials := do
  let newListener ← liftResult <|
    withContext "failed to re-bind port 901 listener after on-demand dial" <|
      bindListener env.bind api.config.clientPort (10 - attempts) attempts
  fromRestore name generated resp newListener

/-- The rest of `request_cert_on_demand` once the request is sent. -/
def fromReceive : AgentM X509Credentials := do
  let resp ← liftResult <| withContext "receiving AgentResponse" <|
    env.recv (certRequest api.config name generated.csrPem)
  env.fromBind api name generated resp 0

/-- The rest of `request_cert_on_demand` on a connection. -/
def fromSend : AgentM X509Credentials := do
  liftResult <| withContext "sending CertRequest" <|
    env.send (certRequest api.config name generated.csrPem)
  env.fromReceive api name generated

/-- The rest of `request_cert_on_demand` with the port released. -/
def fromConnect : AgentM X509Credentials := do
  liftResult <| withContext "vsock connect on demand failed" <|
    env.connect env.hostCid api.config.serverPort api.config.clientPort
  env.fromSend api name generated

/-- The rest of `request_cert_on_demand` with a CSR. -/
def fromRelease : AgentM X509Credentials := do
  modify fun st => { st with listener := none }
  env.fromConnect api name generated

/-- The rest of `get_or_fetch_credentials` behind a request: the credentials are stored. -/
def stored (request : AgentM X509Credentials) : AgentM X509Credentials := do
  let creds ← request
  modify fun st => st.store name creds env.finished
  return creds

end FetchEnv

/-- What is left of a call of `get_or_fetch_credentials` at an await point, if it is in one and has
the cache. -/
def Pc.rest : Pc → Option (AgentM X509Credentials)
  | .lockDialMutex name generated | .releaseListener name generated =>
    some (env.stored name (env.fromRelease api name generated))
  | .connect name generated => some (env.stored name (env.fromConnect api name generated))
  | .sendRequest name generated => some (env.stored name (env.fromSend api name generated))
  | .receiveResponse name generated => some (env.stored name (env.fromReceive api name generated))
  | .bindListener name generated resp attempts =>
    some (env.stored name (env.fromBind api name generated resp attempts))
  | .restoreListener name generated resp newListener =>
    some (env.stored name (FetchEnv.fromRestore name generated resp newListener))
  | .lockWorkloads _ | .readLine _ | .lockCache _ | .writeResponse _ _ | .returned _ => none

/-- The identity a task asks for, once it is known. -/
def Pc.identityName : Pc → Option String
  | .readLine name | .lockCache name | .lockDialMutex name _ | .releaseListener name _
  | .connect name _ | .sendRequest name _ | .receiveResponse name _ | .bindListener name _ _ _
  | .restoreListener name _ _ _ => some name
  | .lockWorkloads _ | .writeResponse _ _ | .returned _ => none

/-- The answers of a call, of which those of one step are given. -/
def FetchEnv.answered (stepEnv : StepEnv KeyPair) (now : Instant) : Pc → FetchEnv KeyPair
  | .lockCache _ =>
    { env with generated := stepEnv.generated, csrSeed := stepEnv.csrSeed, now := now }
  | .connect _ _ => { env with hostCid := stepEnv.hostCid, connect := stepEnv.connect }
  | .sendRequest _ _ => { env with send := stepEnv.send }
  | .receiveResponse _ _ => { env with recv := stepEnv.recv }
  | .bindListener _ _ _ attempts =>
    { env with bind := Function.update env.bind attempts stepEnv.bind }
  | .restoreListener _ _ _ _ => { env with finished := now }
  | _ => env

/-- The task turns the result of a call into its answer: it responds with the credentials, or
returns the error. -/
def Pc.Answers (result : EStateM.Result String AgentState X509Credentials) (st : AgentState)
    (pc : Pc) : Prop :=
  (∃ creds, result = .ok creds st ∧
    pc = api.respond (.success creds.certPem creds.keyPem creds.caCertPem)) ∨
  ∃ e, result = .error e st ∧ pc = .returned (.error e)

/-- Every answer of a call was given to one of the steps. -/
structure FetchEnv.FromSteps (steps : Set (StepEnv KeyPair)) (env : FetchEnv KeyPair) : Prop where
  generated : ∃ e ∈ steps, env.generated = e.generated ∧ env.csrSeed = e.csrSeed
  connect : ∃ e ∈ steps, env.hostCid = e.hostCid ∧ env.connect = e.connect
  send : ∃ e ∈ steps, env.send = e.send
  recv : ∃ e ∈ steps, env.recv = e.recv
  bind : ∀ n, ∃ e ∈ steps, env.bind n = e.bind

/-- The answers of a call that ends with a step; those of the steps before are still to be added. -/
def FetchEnv.ofStep (stepEnv : StepEnv KeyPair) (now : Instant) : FetchEnv KeyPair where
  generated := stepEnv.generated
  csrSeed := stepEnv.csrSeed
  hostCid := stepEnv.hostCid
  connect := stepEnv.connect
  send := stepEnv.send
  recv := stepEnv.recv
  bind := fun _ => stepEnv.bind
  now := now
  finished := now

/-- A call that gives `result` comes to the await point: what is left of it gives `result` as
well, or it is over. -/
def Pc.Follows (result : EStateM.Result String AgentState X509Credentials) (st : AgentState)
    (pc : Pc) : Prop :=
  match pc.rest api env with
  | some rest => result = rest st
  | none => pc.Answers api result st

end

section

variable {KeyPair PublicKey : Type} {api : WorkloadApi KeyPair PublicKey} {env : FetchEnv KeyPair}
  {stepEnv : StepEnv KeyPair} {now : Instant} {name : String} {generated : GeneratedCsr}
  {st st' : AgentState} {task task' : Task}

/-! ## One step -/

namespace FetchEnv

theorem fromSteps_ofStep {steps : Set (StepEnv KeyPair)} (h : stepEnv ∈ steps) (now : Instant) :
    (ofStep stepEnv now).FromSteps steps where
  generated := ⟨stepEnv, h, rfl, rfl⟩
  connect := ⟨stepEnv, h, rfl, rfl⟩
  send := ⟨stepEnv, h, rfl⟩
  recv := ⟨stepEnv, h, rfl⟩
  bind _ := ⟨stepEnv, h, rfl⟩

theorem FromSteps.answered {steps : Set (StepEnv KeyPair)} (henv : env.FromSteps steps)
    (h : stepEnv ∈ steps) (now : Instant) (pc : Pc) :
    (env.answered stepEnv now pc).FromSteps steps := by
  cases pc with
  | lockCache name => exact { henv with generated := ⟨stepEnv, h, rfl, rfl⟩ }
  | connect name generated => exact { henv with connect := ⟨stepEnv, h, rfl, rfl⟩ }
  | sendRequest name generated => exact { henv with send := ⟨stepEnv, h, rfl⟩ }
  | receiveResponse name generated => exact { henv with recv := ⟨stepEnv, h, rfl⟩ }
  | bindListener name generated resp attempts =>
    refine { henv with bind := fun n => ?_ }
    by_cases hn : n = attempts
    · subst hn
      exact ⟨stepEnv, h, Function.update_self _ _ _⟩
    · obtain ⟨e, he, hbind⟩ := henv.bind n
      exact ⟨e, he, (Function.update_of_ne hn _ _).trans hbind⟩
  | _ => exact { henv with }

theorem FromSteps.mono {steps steps' : Set (StepEnv KeyPair)} (henv : env.FromSteps steps)
    (h : steps ⊆ steps') : env.FromSteps steps' where
  generated := henv.generated.imp fun _ he => ⟨h he.1, he.2⟩
  connect := henv.connect.imp fun _ he => ⟨h he.1, he.2⟩
  send := henv.send.imp fun _ he => ⟨h he.1, he.2⟩
  recv := henv.recv.imp fun _ he => ⟨h he.1, he.2⟩
  bind n := (henv.bind n).imp fun _ he => ⟨h he.1, he.2⟩

/-- A request is the generation of a CSR and the rest. -/
theorem requestCertOnDemand_eq (api : WorkloadApi KeyPair PublicKey) (env : FetchEnv KeyPair)
    (name : String) :
    requestCertOnDemand api.lib env api.config name =
      liftResult (withContext s!"CSR generation for identity '{name}'" <|
        generateCsr api.lib env.generated env.csrSeed name) >>= env.fromRelease api name := rfl

/-- Without fresh cached credentials, a call is a request whose credentials are stored. -/
theorem getOrFetchCredentials_eq_stored
    (h : cachedCredentials api.lib name st.cache env.now = none) :
    getOrFetchCredentials api.lib env api.config name st =
      env.stored name (requestCertOnDemand api.lib env api.config name) st := by
  rw [getOrFetchCredentials, bind_of_ok (get_run st)]
  simp only [h]
  rfl

/-- Attempts that were made before do not matter to the rest of the attempts. -/
theorem bindListener_update (bind : ℕ → Except String Unit) (result : Except String Unit)
    (port : UInt32) {n attempt : ℕ} (h : n < attempt) (retries : ℕ) :
    bindListener (Function.update bind n result) port retries attempt =
      bindListener bind port retries attempt := by
  induction retries generalizing attempt with
  | zero => rw [bindListener, bindListener, Function.update_of_ne (by omega)]
  | succ retries ih =>
    rw [bindListener, bindListener, Function.update_of_ne (by omega), ih (by omega)]

/-- An attempt that succeeds ends the attempts. -/
theorem bindListener_update_ok (bind : ℕ → Except String Unit) (port : UInt32)
    (retries attempt : ℕ) :
    bindListener (Function.update bind attempt (.ok ())) port retries attempt = .ok ⟨port⟩ := by
  cases retries with
  | zero =>
    rw [bindListener, Function.update_self]
    rfl
  | succ retries => rw [bindListener, Function.update_self]

/-- An attempt that fails is followed by the attempts that are left. -/
theorem bindListener_update_error (bind : ℕ → Except String Unit) (port : UInt32) (e : String)
    (retries attempt : ℕ) :
    bindListener (Function.update bind attempt (.error e)) port (retries + 1) attempt =
      bindListener bind port retries (attempt + 1) := by
  rw [bindListener, Function.update_self]
  exact bindListener_update bind _ port (Nat.lt_succ_self attempt) retries

end FetchEnv

namespace Pc

theorem rest_respond (env : FetchEnv KeyPair) (resp : WorkloadResponse) :
    (api.respond resp).rest api env = none := by
  unfold WorkloadApi.respond andThen
  split <;> rfl

/-- A call that hands out credentials ends in a response with them. -/
theorem follows_success (env : FetchEnv KeyPair) (creds : X509Credentials) (st : AgentState) :
    Follows api env (.ok creds st) st
      (api.respond (.success creds.certPem creds.keyPem creds.caCertPem)) := by
  rw [Follows, rest_respond]
  exact Or.inl ⟨creds, rfl, rfl⟩

/-- A `?` of the call is a `?` of the task. -/
theorem follows_andThen {α : Type} (r : Except String α) {f : α → AgentM X509Credentials}
    {next : α → Pc} (hnext : ∀ a, (next a).rest api env = some (env.stored name (f a))) :
    Follows api env (env.stored name (liftResult r >>= f) st) st (andThen r next) := by
  cases r with
  | error e => exact Or.inr ⟨e, rfl, rfl⟩
  | ok a =>
    rw [andThen, Follows, hnext]
    rfl

end Pc

/-- A task that takes the cache starts a call. -/
theorem Pc.follows_lookUp (env : FetchEnv KeyPair) (stepEnv : StepEnv KeyPair) (now : Instant)
    (name : String) (st : AgentState) :
    Follows api env (getOrFetchCredentials api.lib (env.answered stepEnv now (.lockCache name))
      api.config name st) st (api.lookUp stepEnv now name st.cache) := by
  unfold WorkloadApi.lookUp
  split
  · rename_i creds hcached
    rw [getOrFetchCredentials_of_cached hcached]
    exact follows_success env creds st
  · rename_i hcached
    rw [FetchEnv.getOrFetchCredentials_eq_stored hcached, FetchEnv.requestCertOnDemand_eq]
    exact follows_andThen _ fun generated => rfl

/-- A step of a task with a rest of its call is a step of that rest. -/
theorem Task.Goes.follows_of_rest (h : task.Goes api stepEnv now st st' task')
    {rest : AgentM X509Credentials}
    (hrest : task.pc.rest api (env.answered stepEnv now task.pc) = some rest) :
    Pc.Follows api env (rest st) st' task'.pc := by
  -- at each await point the rest begins with the operation of the step
  cases h with
  | lockDialMutex hpc =>
    rw [hpc] at hrest
    cases hrest
    rfl
  | releaseListener hpc =>
    rw [hpc] at hrest
    cases hrest
    rfl
  | connect hpc =>
    rw [hpc] at hrest
    cases hrest
    exact Pc.follows_andThen _ fun _ => rfl
  | sendRequest hpc =>
    rw [hpc] at hrest
    cases hrest
    exact Pc.follows_andThen _ fun _ => rfl
  | receiveResponse hpc =>
    rw [hpc] at hrest
    cases hrest
    exact Pc.follows_andThen _ fun resp => rfl
  | @bound name generated resp attempts hpc hbind =>
    rw [hpc] at hrest
    cases hrest
    simp only [FetchEnv.answered, FetchEnv.fromBind, hbind, FetchEnv.bindListener_update_ok]
    rfl
  | @bindAgain name e generated resp attempts hpc hbind hattempts =>
    rw [hpc] at hrest
    cases hrest
    -- one of the attempts that are left is used up
    have hleft : 10 - attempts = 10 - (attempts + 1) + 1 := by omega
    simp only [FetchEnv.answered, FetchEnv.fromBind, hbind, hleft,
      FetchEnv.bindListener_update_error]
    rfl
  | @bindFailed name e generated resp attempts hpc hbind hattempts =>
    rw [hpc] at hrest
    cases hrest
    -- that was the last attempt
    have hleft : 10 - attempts = 0 := by omega
    simp only [FetchEnv.answered, FetchEnv.fromBind, hbind, hleft, bindListener,
      Function.update_self]
    exact Or.inr ⟨_, rfl, rfl⟩
  | @restoreListener name generated resp newListener hpc =>
    rw [hpc] at hrest
    cases hrest
    unfold WorkloadApi.finish
    -- the call ends as the response says
    rcases hcreds : credentialsOfResponse name generated.keyPem resp with e | creds
    · simp only [FetchEnv.stored, FetchEnv.fromRestore, hcreds]
      exact Or.inr ⟨e, rfl, rfl⟩
    · simp only [FetchEnv.stored, FetchEnv.fromRestore, hcreds]
      exact Pc.follows_success env creds _
  | lockWorkloads hpc | readLine hpc | lockCache hpc | writeResponse hpc | writeFailed hpc =>
    rw [hpc] at hrest
    cases hrest

/-- A task inside a call stays with its identity. -/
theorem Pc.Leads.identityName_eq {pc pc' : Pc} (h : Leads api stepEnv now st pc pc')
    (hcall : .cache ∈ pc'.guards) : pc'.identityName = pc.identityName := by
  cases h with
  | fails | matched | unmatched | ended | unsupported | fetch | cached | stored | written =>
    simp [Pc.guards] at hcall
  | _ => rfl

theorem Task.Goes.identityName_eq (h : task.Goes api stepEnv now st st' task')
    (hcall : .cache ∈ task'.pc.guards) : task'.pc.identityName = task.pc.identityName :=
  h.leads.identityName_eq hcall

/-- A call ends when the listener is in place again. -/
theorem Pc.Leads.not_mem_guards_of_restoreListener {resp : AgentResponse}
    {newListener : VsockListener} {pc' : Pc}
    (h : Leads api stepEnv now st (.restoreListener name generated resp newListener) pc') :
    .cache ∉ pc'.guards := by
  cases h <;> simp [Pc.guards]

/-- A task that has the cache is inside a call. -/
theorem Pc.rest_isSome_iff (env : FetchEnv KeyPair) (pc : Pc) :
    (pc.rest api env).isSome ↔ .cache ∈ pc.guards := by
  cases pc <;> simp [rest, guards]

theorem Pc.awaits_cache_iff (pc : Pc) : pc.awaits = some .cache ↔ ∃ name, pc = .lockCache name := by
  cases pc <;> simp [awaits]

/-- A step of a task inside a call is a step of the call. -/
theorem Task.Goes.follows (h : task.Goes api stepEnv now st st' task')
    (hcall : .cache ∈ task.pc.guards) {result : EStateM.Result String AgentState X509Credentials}
    (hresult : task.pc.Follows api (env.answered stepEnv now task.pc) result st) :
    task'.pc.Follows api env result st' := by
  obtain ⟨rest, hrest⟩ := Option.isSome_iff_exists.mp
    ((Pc.rest_isSome_iff (env.answered stepEnv now task.pc) task.pc).mpr hcall)
  rw [Pc.Follows, hrest] at hresult
  rw [hresult]
  exact h.follows_of_rest hrest

/-- A call is over when its task has left the cache. -/
theorem Pc.Follows.answers {result : EStateM.Result String AgentState X509Credentials} {pc : Pc}
    (h : pc.Follows api env result st) (hover : .cache ∉ pc.guards) :
    pc.Answers api result st := by
  have hrest : pc.rest api env = none := by
    rw [← Option.not_isSome_iff_eq_none, Pc.rest_isSome_iff]
    exact hover
  rw [Pc.Follows, hrest] at h
  exact h

/-- A task that is not inside a call changes nothing that is shared. -/
theorem Task.Goes.state_eq (h : task.Goes api stepEnv now st st' task')
    (hcall : .cache ∉ task.pc.guards) : st' = st := by
  cases h with
  | releaseListener hpc | restoreListener hpc => simp [hpc, Pc.guards] at hcall
  | _ => rfl

/-- The end of a call is not known before it comes. -/
theorem Task.Goes.finished_answered (h : task.Goes api stepEnv now st st' task')
    (env : FetchEnv KeyPair) (hend : .cache ∈ task'.pc.guards ∨ env.finished = now) :
    (env.answered stepEnv now task.pc).finished = env.finished := by
  have hleads := h.leads
  cases h with
  | restoreListener hpc =>
    rw [hpc] at hleads ⊢
    rcases hend with hcall | hnow
    · exact absurd hcall hleads.not_mem_guards_of_restoreListener
    · exact hnow.symm
  | _ hpc => rw [hpc]; rfl

end

end AuthnScope
