import AuthnScope.Agent.Serial

/-!
# Where credentials come from

The credentials a run of the Workload API hands out are traced to the steps that made them: the key
was generated with the CSR of a request, the request was sent to the host, and the certificate is
the host's reply to it. The history is that of the run since a state in which no call is under way,
so that what is issued after that state is told from what the cache held there.

## Main definitions

* `System.Moved`: a step of a task in the history of a run;
* `System.Issued`: credentials that a request in the history gave;
* `System.Matched`: the process of a task was matched to an identity;
* `Task.Receives`: what a step adds to the bytes a task has been sent.

## Main results

* `System.tasks_induction`: what every step of a task preserves, for all tasks of a run;
* `System.identified_of_run`: the identity of a task is the one its process was matched to;
* `System.requested_of_run`: a task inside a call has made the request it is in;
* `System.cache_of_run`: an entry of the cache was there before the run or is issued in it.
-/

namespace AuthnScope

open Locks Outcome Transition

section

variable {KeyPair PublicKey : Type} (api : WorkloadApi KeyPair PublicKey)

/-- What `run_agent` sets up after the handshake: no credentials yet. -/
def AgentState.boot (listener : VsockListener) (workloads : HashMap WorkloadConfig) : AgentState :=
  ⟨∅, some listener, workloads⟩

namespace System

variable (origin : System) (as : List (Action KeyPair))

/-! ## The history of a run -/

/-- In the run, the task goes from an await point to another one, with the answers `env`. -/
def Moved (id : ℕ) (env : StepEnv KeyPair) (pc pc' : Pc) : Prop :=
  ∃ sys sys' task task', Takes (System.step api) origin as sys (.run id env) sys' ∧
    sys.tasks id = some task ∧ sys'.tasks id = some task' ∧ task.pc = pc ∧ task'.pc = pc'

/-- In the run, `match_workload` gives the identity for the process of the task. -/
def Matched (id : ℕ) (proc : Process) (name : String) : Prop :=
  ∃ env sys sys', Takes (System.step api) origin as sys (.run id env) sys' ∧
    (∃ task, sys.tasks id = some task ∧ task.peer = .ok proc ∧ task.pc = .lockWorkloads proc) ∧
    matchWorkload env.db proc sys.state.workloads = some name

/-- In the run, the task generates a key and its CSR for the identity. -/
def Generated (id : ℕ) (name : String) (generated : GeneratedCsr) : Prop :=
  ∃ env, Moved api origin as id env (.lockCache name) (.lockDialMutex name generated) ∧
    generateCsr api.lib env.generated env.csrSeed name = .ok generated

/-- In the run, the task sends the request with the CSR. -/
def Sent (id : ℕ) (name : String) (generated : GeneratedCsr) : Prop :=
  ∃ env, Moved api origin as id env (.sendRequest name generated)
      (.receiveResponse name generated) ∧
    env.send (certRequest api.config name generated.csrPem) = .ok ()

/-- In the run, the task receives the response to the request with the CSR. -/
def Received (id : ℕ) (name : String) (generated : GeneratedCsr) (resp : AgentResponse) : Prop :=
  ∃ env, Moved api origin as id env (.receiveResponse name generated)
      (.bindListener name generated resp 0) ∧
    env.recv (certRequest api.config name generated.csrPem) = .ok resp

/-- In the run, the credentials are issued: the key was generated with the CSR of a request for the
identity, and the certificates are the reply to it. -/
def Issued (name : String) (creds : X509Credentials) : Prop :=
  ∃ id generated, Generated api origin as id name generated ∧
    Sent api origin as id name generated ∧
    Received api origin as id name generated (.certOk creds.certPem creds.caCertPem) ∧
    creds.keyPem = generated.keyPem

/-- The request that the task is in, as far as it has come. -/
def Requested (id : ℕ) : Pc → Prop
  | .lockDialMutex name generated | .releaseListener name generated | .connect name generated
  | .sendRequest name generated => Generated api origin as id name generated
  | .receiveResponse name generated =>
    Generated api origin as id name generated ∧ Sent api origin as id name generated
  | .bindListener name generated resp _ | .restoreListener name generated resp _ =>
    Generated api origin as id name generated ∧ Sent api origin as id name generated ∧
      Received api origin as id name generated resp
  | .lockWorkloads _ | .readLine _ | .lockCache _ | .writeResponse _ _ | .returned _ => True

end System

end

section

variable {KeyPair PublicKey : Type} {api : WorkloadApi KeyPair PublicKey} {env : StepEnv KeyPair}
  {now : Instant} {st st' : AgentState} {task task' : Task}

/-- The response that grants credentials. -/
theorem credentialsOfResponse_eq_ok_iff (name keyPem : String) (resp : AgentResponse)
    (creds : X509Credentials) :
    credentialsOfResponse name keyPem resp = .ok creds ↔
      resp = .certOk creds.certPem creds.caCertPem ∧ creds.keyPem = keyPem := by
  constructor
  · intro h
    cases resp with
    | certOk certPem caCertPem =>
      cases h
      exact ⟨rfl, rfl⟩
    | handshakeOk workloads => cases h
    | error message => cases h
  · rintro ⟨rfl, rfl⟩
    rfl

/-- A step leaves the cache as it is, or it is the last of a call that stores the credentials it
hands out. -/
theorem Task.Goes.cache (h : task.Goes api env now st st' task') :
    st'.cache = st.cache ∨ ∃ name generated resp newListener creds,
      task.pc = .restoreListener name generated resp newListener ∧
      credentialsOfResponse name generated.keyPem resp = .ok creds ∧
      st'.cache =
        st.cache.insert name ⟨creds.certPem, creds.keyPem, creds.caCertPem, now⟩ ∧
      task'.pc = api.respond (.success creds.certPem creds.keyPem creds.caCertPem) := by
  cases h with
  | @restoreListener name generated resp newListener hpc =>
    unfold WorkloadApi.finish
    rcases hcreds : credentialsOfResponse name generated.keyPem resp with e | creds
    · exact Or.inl rfl
    · exact Or.inr ⟨name, generated, resp, newListener, creds, hpc, hcreds, rfl, rfl⟩
  | _ => exact Or.inl rfl

namespace Pc

variable {pc pc' : Pc}

/-- A step after which a response is written: the response is an error, or it has the credentials
of the cache, or those of the host's reply. -/
theorem Leads.responds {resp : WorkloadResponse} {bytes : List UInt8}
    (h : Leads api env now st pc (.writeResponse resp bytes)) :
    (∃ json, api.respSerde.toVec resp = .ok json ∧ bytes = json ++ [10]) ∧
      ((∃ message, resp = .error message) ∨ ∃ name creds,
        resp = .success creds.certPem creds.keyPem creds.caCertPem ∧
        (pc = .lockCache name ∧ cachedCredentials api.lib name st.cache now = some creds ∨
          ∃ generated reply newListener, pc = .restoreListener name generated reply newListener ∧
            credentialsOfResponse name generated.keyPem reply = .ok creds)) := by
  -- the four places where a response is serialised
  cases h with
  | unmatched hmatch hjson => exact ⟨⟨_, hjson, rfl⟩, Or.inl ⟨_, rfl⟩⟩
  | unsupported hjson => exact ⟨⟨_, hjson, rfl⟩, Or.inl ⟨_, rfl⟩⟩
  | cached hcached hjson =>
    exact ⟨⟨_, hjson, rfl⟩, Or.inr ⟨_, _, rfl, Or.inl ⟨rfl, hcached⟩⟩⟩
  | stored hcreds hjson =>
    exact ⟨⟨_, hjson, rfl⟩, Or.inr ⟨_, _, rfl, Or.inr ⟨_, _, _, rfl, hcreds⟩⟩⟩

/-- The identity of a task is the one its process was matched to. -/
theorem Leads.identityName_cases (h : Leads api env now st pc pc') {name : String}
    (hname : pc'.identityName = some name) :
    pc.identityName = some name ∨ ∃ proc, pc = .lockWorkloads proc ∧
      matchWorkload env.db proc st.workloads = some name := by
  cases h with
  | matched hmatch =>
    cases hname
    exact Or.inr ⟨_, rfl, hmatch⟩
  | fails | unmatched | ended | unsupported | cached | stored | written => cases hname
  -- a call keeps the identity it began with
  | _ => exact Or.inl hname

/-- No step leads back to the start. -/
theorem Leads.ne_lockWorkloads (h : Leads api env now st pc pc') (proc : Process) :
    pc' ≠ .lockWorkloads proc := by
  cases h <;> simp

end Pc

/-- A task keeps its peer. -/
theorem Task.Goes.peer_eq (h : task.Goes api env now st st' task') : task'.peer = task.peer := by
  cases h <;> rfl

/-- Only a step that writes a response writes to the client, and nothing else. -/
theorem Task.Goes.output (h : task.Goes api env now st st' task') :
    task'.output = task.output ∨ ∃ resp bytes, task.pc = .writeResponse resp bytes ∧
      task'.output <+: task.output ++ bytes := by
  cases h with
  | @writeResponse resp bytes hpc hroom hwrite =>
    exact Or.inr ⟨resp, bytes, hpc, List.prefix_refl _⟩
  -- a write that fails has written a beginning
  | @writeFailed resp bytes n e hpc hended hwrite =>
    exact Or.inr ⟨resp, bytes, hpc, (List.prefix_append_right_inj _).mpr (List.take_prefix _ _)⟩
  | _ => exact Or.inl rfl

/-- What a client has sent stays, and a side that has ended stays ended. -/
structure Task.Receives (task task' : Task) : Prop where
  inbox : task.inbox <+: task'.inbox
  ending : task'.ending = none → task.ending = none

theorem Task.Receives.refl (task : Task) : task.Receives task := ⟨List.prefix_refl _, id⟩

/-- A step of a task reads what its client has sent, and leaves it there. -/
theorem Task.Goes.stream_eq (h : task.Goes api env now st st' task') :
    task'.inbox = task.inbox ∧ task'.ending = task.ending := by
  cases h <;> exact ⟨rfl, rfl⟩

namespace System

variable {origin sys sys' : System} {as bs : List (Action KeyPair)} {id : ℕ} {name : String}
  {generated : GeneratedCsr} {pc pc' : Pc}

/-! ## Longer histories -/

theorem Moved.mono (h : Moved api origin as id env pc pc') (hpre : as <+: bs) :
    Moved api origin bs id env pc pc' := by
  obtain ⟨sys, sys', task, task', htakes, hmoved⟩ := h
  exact ⟨sys, sys', task, task', htakes.mono hpre, hmoved⟩

theorem Matched.mono {proc : Process} (h : Matched api origin as id proc name)
    (hpre : as <+: bs) : Matched api origin bs id proc name := by
  obtain ⟨env, sys, sys', htakes, hmatched⟩ := h
  exact ⟨env, sys, sys', htakes.mono hpre, hmatched⟩

theorem Generated.mono (h : Generated api origin as id name generated) (hpre : as <+: bs) :
    Generated api origin bs id name generated :=
  h.imp fun _ h => ⟨h.1.mono hpre, h.2⟩

theorem Sent.mono (h : Sent api origin as id name generated) (hpre : as <+: bs) :
    Sent api origin bs id name generated :=
  h.imp fun _ h => ⟨h.1.mono hpre, h.2⟩

theorem Received.mono {resp : AgentResponse} (h : Received api origin as id name generated resp)
    (hpre : as <+: bs) : Received api origin bs id name generated resp :=
  h.imp fun _ h => ⟨h.1.mono hpre, h.2⟩

theorem Issued.mono {creds : X509Credentials} (h : Issued api origin as name creds)
    (hpre : as <+: bs) : Issued api origin bs name creds := by
  obtain ⟨id, generated, hgenerated, hsent, hreceived, hkey⟩ := h
  exact ⟨id, generated, hgenerated.mono hpre, hsent.mono hpre, hreceived.mono hpre, hkey⟩

theorem Requested.mono (h : Requested api origin as id pc) (hpre : as <+: bs) :
    Requested api origin bs id pc := by
  cases pc with
  | lockDialMutex name generated | releaseListener name generated | connect name generated
  | sendRequest name generated => exact Generated.mono h hpre
  | receiveResponse name generated => exact ⟨h.1.mono hpre, h.2.mono hpre⟩
  | bindListener name generated resp attempts | restoreListener name generated resp newListener =>
    exact ⟨h.1.mono hpre, h.2.1.mono hpre, h.2.2.mono hpre⟩
  | _ => trivial

/-! ## The tasks of a run -/

/-- A replaced task receives what its own replacement does. -/
theorem receives_setTask {moving : ℕ} (hmoving : sys.tasks moving = some task)
    {task₀ task₁ : Task} (htask₀ : sys.tasks id = some task₀)
    (htask₁ : (sys.setTask moving task').tasks id = some task₁)
    (hreceives : task.Receives task') : task₀.Receives task₁ := by
  by_cases hid : id = moving
  · subst hid
    rw [setTask_tasks_self] at htask₁
    cases htask₁
    rw [hmoving] at htask₀
    cases htask₀
    exact hreceives
  · rw [setTask_tasks_of_ne sys hid, htask₀] at htask₁
    cases htask₁
    exact .refl _

theorem receives_of_step {a : Action KeyPair} (hstep : sys.step api a = some sys')
    (htask : sys.tasks id = some task) (htask' : sys'.tasks id = some task') :
    task.Receives task' := by
  cases a with
  | accept moving peer room =>
    obtain ⟨hnone, rfl⟩ := (step_accept_eq_some_iff moving peer room).mp hstep
    -- the identifier of a new task is not in use
    have hne : id ≠ moving := by
      rintro rfl
      rw [htask] at hnone
      cases hnone
    rw [setTask_tasks_of_ne sys hne, htask] at htask'
    cases htask'
    exact .refl _
  | clientSends moving bytes =>
    -- a client adds to what it has sent, reads, or ends its side
    obtain ⟨task₀, htask₀, -, rfl⟩ := (step_clientSends_eq_some_iff moving bytes).mp hstep
    exact receives_setTask htask₀ htask htask' ⟨List.prefix_append _ _, fun h => h⟩
  | clientReads moving count =>
    obtain ⟨task₀, htask₀, rfl⟩ := (step_clientReads_eq_some_iff moving count).mp hstep
    exact receives_setTask htask₀ htask htask' ⟨List.prefix_refl _, fun h => h⟩
  | clientEnds moving result =>
    obtain ⟨task₀, htask₀, -, rfl⟩ := (step_clientEnds_eq_some_iff moving result).mp hstep
    exact receives_setTask htask₀ htask htask' ⟨List.prefix_refl _, fun h => by cases h⟩
  | tick nanos =>
    cases hstep
    change sys.tasks id = some task' at htask'
    rw [htask] at htask'
    cases htask'
    exact .refl _
  | run moving env =>
    obtain ⟨task₀, st', task₀', htask₀, -, hgoes, rfl⟩ := (step_run_eq_some_iff moving).mp hstep
    rcases tasks_advance htask' with ⟨rfl, rfl⟩ | ⟨-, hother⟩
    · rw [htask] at htask₀
      cases htask₀
      obtain ⟨hinbox, hending⟩ := hgoes.stream_eq
      exact ⟨hinbox ▸ List.prefix_refl _, fun h => hending ▸ h⟩
    · rw [htask] at hother
      cases hother
      exact .refl _

/-- What holds of the tasks at the start of a run and of new tasks, and survives what clients do,
the steps of the task and longer histories, holds of every task of the run. -/
theorem tasks_induction {P : List (Action KeyPair) → ℕ → Task → Prop}
    (hstart : ∀ id task, origin.tasks id = some task → P [] id task)
    (haccepted : ∀ as id peer room, P as id (.accepted peer room))
    (hmono : ∀ as a id task, P as id task → P (as ++ [a]) id task)
    (hhears : ∀ as id task task', task.Hears task' → task.Receives task' → P as id task →
      P as id task')
    (hgoes : ∀ as sys id env task st' task', run (System.step api) origin as = some sys →
      sys.step api (.run id env) = some (sys.advance id st' task') → sys.tasks id = some task →
      task.Goes api env sys.now sys.state st' task' → P as id task →
      P (as ++ [.run id env]) id task')
    (hrun : run (System.step api) origin as = some sys) (htask : sys.tasks id = some task) :
    P as id task := by
  refine run_induction (P := fun as sys => ∀ id task, sys.tasks id = some task → P as id task)
    hstart ?_ as sys hrun id task htask
  intro as sys a sys' hrun hstep hall id task htask
  -- the task has moved, is new, or has at most heard of its client
  rcases task_step_cases hstep htask with ⟨env, task₀, st', rfl, htask₀, hgoes₀, rfl⟩ |
    ⟨peer, room, -, rfl⟩ | ⟨task₀, htask₀, hhears₀⟩
  · exact hgoes as sys id env task₀ st' task hrun hstep htask₀ hgoes₀ (hall id task₀ htask₀)
  · exact haccepted _ id peer room
  · exact hhears _ id task₀ task hhears₀ (receives_of_step hstep htask₀ htask)
      (hmono as a id task₀ (hall id task₀ htask₀))

/-- The step after a run is in the history of the longer run. -/
theorem moved_concat (hrun : run (System.step api) origin as = some sys)
    (hstep : sys.step api (.run id env) = some (sys.advance id st' task'))
    (htask : sys.tasks id = some task) :
    Moved api origin (as ++ [.run id env]) id env task.pc task'.pc :=
  ⟨sys, _, task, task', takes_concat hrun hstep, htask, advance_tasks_self _ _ _ _, rfl, rfl⟩

/-- A task that waits for the workloads has the process of its peer, and the identity of a task is
the one this process was matched to. -/
def Identified (api : WorkloadApi KeyPair PublicKey) (origin : System) (as : List (Action KeyPair))
    (id : ℕ) (task : Task) : Prop :=
  (∀ proc, task.pc = .lockWorkloads proc → task.peer = .ok proc) ∧
    ∀ name, task.pc.identityName = some name →
      ∃ proc, task.peer = .ok proc ∧ Matched api origin as id proc name

theorem Identified.mono (h : Identified api origin as id task) (hpre : as <+: bs) :
    Identified api origin bs id task :=
  h.imp_right fun h name hname => (h name hname).imp fun _ hproc => hproc.imp_right (·.mono hpre)

theorem identified_of_run (hstart : ∀ id, origin.tasks id = none)
    (hrun : run (System.step api) origin as = some sys) (htask : sys.tasks id = some task) :
    Identified api origin as id task := by
  refine tasks_induction (P := fun as id task => Identified api origin as id task) ?_ ?_ ?_ ?_ ?_
    hrun htask
  · intro id task htask
    rw [hstart] at htask
    cases htask
  · intro as id peer room
    refine ⟨fun proc hpc => ?_, fun name hname => ?_⟩
    · cases peer <;> cases hpc
      rfl
    · cases peer <;> cases hname
  · exact fun as a id task h => h.mono (List.prefix_append _ _)
  · intro as id task task' hhears _ h
    rw [Identified, hhears.pc, hhears.peer]
    exact h
  · intro as sys id env task st' task' hrun hstep htask hgoes h
    -- no step leads to the match again, so the identity stays once it is there
    refine ⟨fun proc hpc => absurd hpc (hgoes.leads.ne_lockWorkloads proc), fun name hname => ?_⟩
    rw [hgoes.peer_eq]
    rcases hgoes.leads.identityName_cases hname with hname | ⟨proc, hpc, hmatch⟩
    · exact (h.mono (List.prefix_append _ _)).2 name hname
    · -- the process is matched with this step
      have hpeer := h.1 proc hpc
      exact ⟨proc, hpeer, env, sys, _, takes_concat hrun hstep, ⟨task, htask, hpeer, hpc⟩, hmatch⟩

/-- Outside a call there is no request. -/
theorem requested_of_not_mem (h : .cache ∉ pc.guards) : Requested api origin as id pc := by
  cases pc <;> simp_all [Pc.guards, Requested]

/-- A step brings the request of a task further, or begins or ends it. -/
theorem requested_of_leads (h : Pc.Leads api env now st pc pc')
    (hmoved : Moved api origin bs id env pc pc') (hreq : Requested api origin bs id pc) :
    Requested api origin bs id pc' := by
  -- three of the steps of a call enter the history of its request
  cases h with
  | generated hcached hgenerated => exact ⟨env, hmoved, hgenerated⟩
  | dials | released | connected | bound | bindAgain => exact hreq
  | sent hsend => exact ⟨hreq, env, hmoved, hsend⟩
  | received hrecv => exact ⟨hreq.1, hreq.2, env, hmoved, hrecv⟩
  | _ => trivial

/-- A task inside a call has made the request it is in, if no call was under way at the start. -/
theorem requested_of_run (hidle : ∀ id, .cache ∉ origin.guards id)
    (hrun : run (System.step api) origin as = some sys) (htask : sys.tasks id = some task) :
    Requested api origin as id task.pc := by
  refine tasks_induction (P := fun as id task => Requested api origin as id task.pc)
    ?_ ?_ ?_ ?_ ?_ hrun htask
  -- a task of the start is in no call
  · intro id task htask
    have hcall := hidle id
    rw [guards_of_tasks htask] at hcall
    exact requested_of_not_mem hcall
  · intro as id peer room
    cases peer <;> trivial
  · exact fun as a id task hreq => hreq.mono (List.prefix_append _ _)
  · intro as id task task' hhears _ hreq
    rw [hhears.pc]
    exact hreq
  · intro as sys id env task st' task' hrun hstep htask hgoes hreq
    exact requested_of_leads hgoes.leads (moved_concat hrun hstep htask)
      (hreq.mono (List.prefix_append _ _))

/-- The credentials a call stores are issued in the run. -/
theorem issued_of_requested {resp : AgentResponse} {newListener : VsockListener}
    {creds : X509Credentials}
    (hreq : Requested api origin as id (.restoreListener name generated resp newListener))
    (hcreds : credentialsOfResponse name generated.keyPem resp = .ok creds) :
    Issued api origin as name creds := by
  obtain ⟨rfl, hkey⟩ := (credentialsOfResponse_eq_ok_iff _ _ _ _).mp hcreds
  exact ⟨id, generated, hreq.1, hreq.2.1, hreq.2.2, hkey⟩

/-! ## The cache of a run -/

/-- An entry of the cache was there at the start or is issued in the run. -/
theorem cache_of_run (hidle : ∀ id, .cache ∉ origin.guards id)
    (hrun : run (System.step api) origin as = some sys) {cached : CachedCredential}
    (hcached : sys.state.cache.lookup name = some cached) :
    origin.state.cache.lookup name = some cached ∨
      Issued api origin as name cached.credentials := by
  refine run_induction (P := fun as sys => ∀ name cached,
    sys.state.cache.lookup name = some cached →
    origin.state.cache.lookup name = some cached ∨ Issued api origin as name cached.credentials)
    (fun name cached h => Or.inl h) ?_ as sys hrun name cached hcached
  intro as sys a sys' hrun hstep hall name cached hcached
  have hpre : as <+: as ++ [a] := List.prefix_append _ _
  rcases step_cases hstep with ⟨id, env, rfl⟩ | hout
  · obtain ⟨task, st', task', htask, -, hgoes, rfl⟩ := (step_run_eq_some_iff id).mp hstep
    change st'.cache.lookup name = some cached at hcached
    rcases hgoes.cache with hsame | ⟨stored, generated, resp, newListener, creds, hpc, hcreds,
      hinsert, -⟩
    · rw [hsame] at hcached
      exact (hall name cached hcached).imp_right fun h => h.mono hpre
    · rw [hinsert] at hcached
      by_cases hname : name = stored
      · -- the entry is the one that the call stores
        subst hname
        rw [AList.lookup_insert] at hcached
        cases hcached
        have hreq := requested_of_run hidle hrun htask
        rw [hpc] at hreq
        exact Or.inr ((issued_of_requested hreq hcreds).mono hpre)
      · rw [AList.lookup_insert_ne hname] at hcached
        exact (hall name cached hcached).imp_right fun h => h.mono hpre
  -- clients do not touch the cache
  · rw [hout.state] at hcached
    exact (hall name cached hcached).imp_right fun h => h.mono hpre

end System

end

end AuthnScope
