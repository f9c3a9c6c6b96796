import AuthnScope.Agent.Origin
import AuthnScope.Agent.Symbolic

/-!
# Integrity of credentials

Whatever the tasks of the Workload API write in a run of the agent, a success response has
credentials of the identity that the connection's process was matched to: the certificates are the
host's reply to a request for that identity, and the key is the one whose CSR the request carried.
The cache changes only where a call stores what it hands out, and there in its own entry.

## Main definitions

* `System.Backed`: what the history says of a task at its await point.

## Main results

* `System.backed_of_run`: every task of a run is backed by its history;
* `credential_integrity`: the responses of a run, and the changes of the cache.
-/

namespace AuthnScope

open Outcome Transition

variable {KeyPair PublicKey : Type} {api : WorkloadApi KeyPair PublicKey} {env : StepEnv KeyPair}
  {st st' : AgentState} {task task' : Task}

namespace System

variable {origin sys : System} {as bs : List (Action KeyPair)} {id : ℕ}

/-! ## What a task is backed by -/

variable (api) (origin) (as) in
/-- In the run, the process behind the task was matched to an identity, and the credentials are
issued for it. -/
def Attributed (id : ℕ) (task : Task) (creds : X509Credentials) : Prop :=
  ∃ proc name, task.peer = .ok proc ∧ Matched api origin as id proc name ∧
    Issued api origin as name creds

variable (api) (origin) (as) in
/-- What the history says of a task: what it is writing is an error or has credentials that are
attributed to it. -/
def Backed (id : ℕ) (task : Task) : Prop :=
  ∀ resp bytes, task.pc = .writeResponse resp bytes →
    (∃ json, api.respSerde.toVec resp = .ok json ∧ bytes = json ++ [10]) ∧
      ∀ creds : X509Credentials,
        resp = .success creds.certPem creds.keyPem creds.caCertPem →
        Attributed api origin as id task creds

theorem Attributed.mono {creds : X509Credentials} (h : Attributed api origin as id task creds)
    (hpre : as <+: bs) : Attributed api origin bs id task creds := by
  obtain ⟨proc, name, hpeer, hmatched, hissued⟩ := h
  exact ⟨proc, name, hpeer, hmatched.mono hpre, hissued.mono hpre⟩

theorem Backed.mono (h : Backed api origin as id task) (hpre : as <+: bs) :
    Backed api origin bs id task :=
  fun resp bytes hpc =>
    (h resp bytes hpc).imp_right fun hcreds creds hresp => (hcreds creds hresp).mono hpre

theorem Backed.of_hears (h : Backed api origin as id task) (hhears : task.Hears task') :
    Backed api origin as id task' := by
  intro resp bytes hpc
  obtain ⟨hjson, hcreds⟩ := h resp bytes (hhears.pc ▸ hpc)
  refine ⟨hjson, fun creds hresp => ?_⟩
  obtain ⟨proc, name, hpeer, hattributed⟩ := hcreds creds hresp
  exact ⟨proc, name, hhears.peer.trans hpeer, hattributed⟩

/-- A step of a task in a run is backed by the longer history. -/
theorem backed_of_step (hstart : ∀ id, origin.tasks id = none)
    (hempty : origin.state.cache = ∅) (hrun : run (System.step api) origin as = some sys)
    (htask : sys.tasks id = some task)
    (hgoes : task.Goes api env sys.now sys.state st' task') :
    Backed api origin (as ++ [.run id env]) id task' := by
  have hpre : as <+: as ++ [.run id env] := List.prefix_append _ _
  have hidle : ∀ id, .cache ∉ origin.guards id := by
    intro id
    rw [guards, hstart]
    exact List.not_mem_nil
  intro resp bytes hpc
  have hleads := hgoes.leads
  rw [hpc] at hleads
  obtain ⟨hjson, hresp⟩ := hleads.responds
  refine ⟨hjson, fun creds hcreds => ?_⟩
  have hattributed : ∀ name, task.pc.identityName = some name →
      Issued api origin as name creds →
      Attributed api origin (as ++ [.run id env]) id task' creds := by
    intro name hname hissued
    obtain ⟨proc, hpeer, hmatched⟩ := (identified_of_run hstart hrun htask).2 name hname
    exact ⟨proc, name, hgoes.peer_eq.trans hpeer, hmatched.mono hpre, hissued.mono hpre⟩
  rcases hresp with ⟨message, rfl⟩ | ⟨name, creds', rfl, hfrom⟩
  · cases hcreds
  · cases creds
    cases hcreds
    -- a success comes from the cache or from the reply to the task's own request
    rcases hfrom with ⟨hlock, hcached⟩ | ⟨generated, reply, newListener, hrestore, hreply⟩
    · -- credentials of the cache were issued for the identity of their entry
      obtain ⟨cached, hlookup, hcreds, -⟩ := cachedCredentials_eq_some_iff.mp hcached
      rw [hcreds] at hattributed ⊢
      rcases cache_of_run hidle hrun hlookup with horigin | hissued
      · rw [hempty] at horigin
        cases horigin
      · exact hattributed name (by rw [hlock]; rfl) hissued
    · -- the history of the call has its request and the reply
      have hreq := requested_of_run hidle hrun htask
      rw [hrestore] at hreq
      exact hattributed name (by rw [hrestore]; rfl) (issued_of_requested hreq hreply)

/-- Every task of a run is backed by its history. -/
theorem backed_of_run (hstart : ∀ id, origin.tasks id = none) (hempty : origin.state.cache = ∅)
    (hrun : run (System.step api) origin as = some sys) (htask : sys.tasks id = some task) :
    Backed api origin as id task := by
  refine tasks_induction (P := fun as id task => Backed api origin as id task) ?_ ?_ ?_ ?_ ?_
    hrun htask
  · intro id task htask
    rw [hstart] at htask
    cases htask
  · intro as id peer room resp bytes hpc
    cases peer <;> cases hpc
  · exact fun as a id task h => h.mono (List.prefix_append _ _)
  · exact fun as id task task' hhears _ h => h.of_hears hhears
  · exact fun as sys id env task st' task' hrun hstep htask hgoes h =>
      backed_of_step hstart hempty hrun htask hgoes

end System

namespace System

/-- A write of a run: the task has come to its response, and writes it or the beginning of it. -/
theorem output_of_step {sys sys' : System} {a : Action KeyPair} {id : ℕ}
    (hstep : sys.step api a = some sys') (htask : sys.tasks id = some task)
    (htask' : sys'.tasks id = some task') (hwrites : task'.output ≠ task.output) :
    ∃ resp bytes, task.pc = .writeResponse resp bytes ∧ task'.output <+: task.output ++ bytes := by
  rcases task_step_cases hstep htask' with ⟨env, task₀, st', -, htask₀, hgoes, -⟩ |
    ⟨peer, room, hnone, -⟩ | ⟨task₀, htask₀, hhears⟩
  · rw [htask] at htask₀
    cases htask₀
    exact hgoes.output.resolve_left hwrites
  · rw [htask] at hnone
    cases hnone
  · rw [htask] at htask₀
    cases htask₀
    exact absurd hhears.output hwrites

end System

/-- Credential integrity. In every run of the agent, what is written on a connection is a response,
and a success response has a certificate that the host gave in reply to a request for the identity
that the connection's process was matched to, with the key of that request's CSR. A step changes
the cache only by storing the credentials a call hands out, under the call's identity. And a call
that fails leaves the cache as it was, while one that succeeds keeps all other entries. -/
theorem credential_integrity (api : WorkloadApi KeyPair PublicKey) (now : Instant)
    (listener : VsockListener) (workloads : HashMap WorkloadConfig) :
    let origin := System.start now (.boot listener workloads)
    (∀ as sys a sys' id task task', run (System.step api) origin as = some sys →
      sys.step api a = some sys' → sys.tasks id = some task → sys'.tasks id = some task' →
      task'.output ≠ task.output →
      ∃ resp json, task.pc = .writeResponse resp (json ++ [10]) ∧
        api.respSerde.toVec resp = .ok json ∧ task'.output <+: task.output ++ (json ++ [10]) ∧
        ∀ creds : X509Credentials, resp = .success creds.certPem creds.keyPem creds.caCertPem →
          ∃ proc name, task.peer = .ok proc ∧ System.Matched api origin as id proc name ∧
            System.Issued api origin as name creds) ∧
    (∀ as sys a sys', run (System.step api) origin as = some sys →
      sys.step api a = some sys' → sys'.state.cache = sys.state.cache ∨
        ∃ id env task task' name creds, a = .run id env ∧ sys.tasks id = some task ∧
          sys'.tasks id = some task' ∧ task.pc.identityName = some name ∧
          task'.pc = api.respond (.success creds.certPem creds.keyPem creds.caCertPem) ∧
          System.Issued api origin as name creds ∧
          sys'.state.cache = sys.state.cache.insert name
            ⟨creds.certPem, creds.keyPem, creds.caCertPem, sys.now⟩) ∧
    ∀ (env : FetchEnv KeyPair) (name : String) (st : AgentState),
      match getOrFetchCredentials api.lib env api.config name st with
      | .error _ st' => st'.cache = st.cache
      | .ok _ st' => ∀ other, other ≠ name → st'.cache.lookup other = st.cache.lookup other := by
  intro origin
  have hidle : ∀ id, .cache ∉ origin.guards id := fun id => List.not_mem_nil
  refine ⟨?_, ?_, ?_⟩
  · intro as sys a sys' id task task' hrun hstep htask htask' hwrites
    obtain ⟨resp, bytes, hpc, hprefix⟩ := System.output_of_step hstep htask htask' hwrites
    -- the response was backed when the task came to it
    have hbacked := System.backed_of_run (fun _ => rfl) rfl hrun htask
    obtain ⟨⟨json, hjson, rfl⟩, hcreds⟩ := hbacked resp bytes hpc
    exact ⟨resp, json, hpc, hjson, hprefix, hcreds⟩
  · intro as sys a sys' hrun hstep
    rcases System.step_cases hstep with ⟨id, env, rfl⟩ | hout
    · obtain ⟨task, st', task', htask, -, hgoes, rfl⟩ :=
        (System.step_run_eq_some_iff id).mp hstep
      rcases hgoes.cache with hsame | ⟨name, generated, resp, newListener, creds, hpc, hcreds,
        hinsert, hanswer⟩
      · exact Or.inl hsame
      · -- the step is the last of a call, whose request is in the history
        have hreq := System.requested_of_run hidle hrun htask
        rw [hpc] at hreq
        exact Or.inr ⟨id, env, task, task', name, creds, rfl, htask,
          System.advance_tasks_self _ _ _ _, by rw [hpc]; rfl, hanswer,
          System.issued_of_requested hreq hcreds, hinsert⟩
    · exact Or.inl (congrArg AgentState.cache hout.state)
  · intro env name st
    split
    · rename_i hrun
      exact cache_of_getOrFetchCredentials_error hrun
    · rename_i hrun
      exact fun other hother => lookup_of_getOrFetchCredentials_ok hrun hother

end AuthnScope
