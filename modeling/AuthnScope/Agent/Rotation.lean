import AuthnScope.Agent.Origin
import AuthnScope.Agent.Serial
import AuthnScope.Agent.Symbolic

/-!
# Rotation at half-life

Credentials that are stored are handed out until half of the lifetime of their certificate has
passed, and no request for their identity is made before that. From then on they are not handed out
any more: a call gives credentials that are issued after they were stored, or fails. All of this
holds whatever the tasks do side by side, as the calls hold the cache.

## Main definitions

* `System.Stores`: a step that stores credentials;
* `Task.Requests`: a task is in a request for an identity;
* `System.Holds`: the stored credentials are still there and no request is under way.

## Main results

* `System.holds_or_rotates_of_run`: until half of the lifetime has passed nothing replaces them;
* `single_flight_and_rotation`: the calls of a run before that time and after it.
-/

namespace AuthnScope

open Locks Outcome Transition

variable {KeyPair PublicKey : Type} {api : WorkloadApi KeyPair PublicKey} {env : StepEnv KeyPair}
  {now : Instant} {st st' : AgentState} {task task' : Task} {name : String}
  {cached : CachedCredential}

/-! ## One step -/

/-- The task is in a request for the identity. -/
def Task.Requests (task : Task) (name : String) : Prop :=
  .cache ∈ task.pc.guards ∧ task.pc.identityName = some name

/-- A step into a request starts it, when the cache has no credentials to hand out, or goes on in
it. -/
theorem Task.Goes.requests (h : task.Goes api env now st st' task')
    (hrequests : task'.Requests name) :
    task.Requests name ∨
      task.pc = .lockCache name ∧ cachedCredentials api.lib name st.cache now = none := by
  obtain ⟨hcall, hname⟩ := hrequests
  have hname' : task.pc.identityName = some name := (h.identityName_eq hcall) ▸ hname
  rcases h.guards hcall with hcall' | hawaits
  · exact Or.inl ⟨hcall', hname'⟩
  · obtain ⟨name', hpc⟩ := (Pc.awaits_cache_iff _).mp hawaits
    rw [hpc] at hname'
    cases hname'
    have hleads := h.leads
    rw [hpc] at hleads
    generalize task'.pc = pc' at hleads hcall
    cases hleads with
    | generated hcached _ => exact Or.inr ⟨hpc, hcached⟩
    | fails | cached => simp [Pc.guards] at hcall

/-- Taking the cache changes nothing that is shared. -/
theorem Task.Goes.lookUp (h : task.Goes api env now st st' task')
    (hpc : task.pc = .lockCache name) :
    st' = st ∧ task'.pc = api.lookUp env now name st.cache := by
  have hstep := Task.step_eq_some_iff.mpr h
  simp only [Task.step, hpc, Option.some.injEq, Prod.mk.injEq] at hstep
  obtain ⟨rfl, rfl⟩ := hstep
  exact ⟨rfl, rfl⟩

namespace System

variable {before origin sys sys' : System} {as : List (Action KeyPair)} {a : Action KeyPair}
  {id : ℕ}

/-- The step stores credentials for the identity: those of the host's reply to a request. -/
def Stores (sys : System) (a : Action KeyPair) (name : String) (cached : CachedCredential) : Prop :=
  ∃ id env task generated resp newListener creds, a = .run id env ∧ sys.tasks id = some task ∧
    task.pc = .restoreListener name generated resp newListener ∧
    credentialsOfResponse name generated.keyPem resp = .ok creds ∧
    cached = ⟨creds.certPem, creds.keyPem, creds.caCertPem, sys.now⟩

/-- After the step the entry is in the cache and no call is under way. -/
theorem Stores.step (h : before.Stores a name cached) (hsys : before.Consistent)
    (hstep : before.step api a = some origin) :
    origin.state.cache.lookup name = some cached ∧ origin.now = cached.fetchedAt ∧
      ∀ id, .cache ∉ origin.guards id := by
  obtain ⟨id, env, task, generated, resp, newListener, creds, rfl, htask, hpc, hcreds, rfl⟩ := h
  obtain ⟨-, st', task', hgoes, rfl⟩ := goes_of_step_run hstep htask
  have hover : .cache ∉ task'.pc.guards := by
    have hleads := hgoes.leads
    rw [hpc] at hleads
    exact hleads.not_mem_guards_of_restoreListener
  refine ⟨?_, rfl, fun other => ?_⟩
  · -- the response grants credentials, so the step inserts them
    have hstep' := Task.step_eq_some_iff.mpr hgoes
    simp only [Task.step, WorkloadApi.finish, hpc, hcreds, Option.some.injEq, Prod.mk.injEq]
      at hstep'
    show st'.cache.lookup name = _
    rw [← hstep'.1, AgentState.store]
    exact AList.lookup_insert _
  · -- the task that stored them was the one inside a call
    rw [guards_advance]
    by_cases hother : other = id
    · rw [hother, Function.update_self]
      exact hover
    · rw [Function.update_of_ne hother]
      intro hmem
      refine hother (hsys.unique hmem ?_)
      rw [guards_of_tasks htask, hpc]
      simp [Pc.guards]

/-! ## Runs -/

/-- The entry is in the cache, and no task is in a request for its identity. -/
def Holds (sys : System) (name : String) (cached : CachedCredential) : Prop :=
  sys.state.cache.lookup name = some cached ∧
    ∀ id task, sys.tasks id = some task → ¬task.Requests name

/-- A step before half of the lifetime has passed keeps the entry, and starts no request. -/
theorem Holds.step (h : sys.Holds name cached) (hstored : cached.fetchedAt.nanos ≤ sys.now.nanos)
    (hstep : sys.step api a = some sys')
    (hnow : sys'.now.nanos < (cached.rotatesAt api.lib).nanos) : sys'.Holds name cached := by
  obtain ⟨hcached, hnone⟩ := h
  refine ⟨?_, fun id task' htask' hrequests => ?_⟩
  · rcases step_cases hstep with ⟨id, env, rfl⟩ | hout
    · obtain ⟨task, st', task', htask, -, hgoes, rfl⟩ := (step_run_eq_some_iff id).mp hstep
      show st'.cache.lookup name = some cached
      rcases hgoes.cache with hsame | ⟨stored, generated, resp, newListener, creds, hpc, -,
        hinsert, -⟩
      · rw [hsame, hcached]
      · -- only a request for the identity would store another entry
        have hne : name ≠ stored := by
          rintro rfl
          exact hnone id task htask ⟨by simp [hpc, Pc.guards], by rw [hpc]; rfl⟩
        rw [hinsert, AList.lookup_insert_ne hne, hcached]
    · rw [hout.state, hcached]
  · rcases task_step_cases hstep htask' with ⟨env, task, st', rfl, htask, hgoes, rfl⟩ |
      ⟨peer, room, -, rfl⟩ | ⟨task, htask, hhears⟩
    · -- the entry is handed out, so a task that comes to the cache makes no request
      rcases hgoes.requests hrequests with hrequests | ⟨-, hmissing⟩
      · exact hnone id task htask hrequests
      · rw [cachedCredentials_of_lt hcached hstored hnow] at hmissing
        cases hmissing
    · obtain ⟨hcall, -⟩ := hrequests
      cases peer <;> cases hcall
    · rw [Task.Requests, hhears.pc] at hrequests
      exact hnone id task htask hrequests

/-- Time does not go back in a run. -/
theorem now_le_of_run (hrun : run (System.step api) origin as = some sys) :
    origin.now.nanos ≤ sys.now.nanos :=
  run_induction (P := fun _ sys => origin.now.nanos ≤ sys.now.nanos) le_rfl
    (fun _ _ _ _ _ hstep h => h.trans (now_le_of_step hstep)) as sys hrun

/-- After credentials are stored they are held until half of the lifetime has passed. -/
theorem holds_or_rotates_of_run (hcached : origin.state.cache.lookup name = some cached)
    (hnow : origin.now = cached.fetchedAt) (hidle : ∀ id, .cache ∉ origin.guards id)
    (hrun : run (System.step api) origin as = some sys) :
    sys.Holds name cached ∨ (cached.rotatesAt api.lib).nanos ≤ sys.now.nanos := by
  have hstart : origin.Holds name cached := by
    refine ⟨hcached, fun id task htask hrequests => hidle id ?_⟩
    rw [guards_of_tasks htask]
    exact hrequests.1
  refine run_induction
    (P := fun _ sys => sys.Holds name cached ∨ (cached.rotatesAt api.lib).nanos ≤ sys.now.nanos)
    (Or.inl hstart) ?_ as sys hrun
  intro as sys a sys' hrun hstep h
  -- a step that ends before half of the lifetime has begun before it
  rcases lt_or_ge sys'.now.nanos (cached.rotatesAt api.lib).nanos with hlt | hge
  · have hle := now_le_of_step hstep
    have hholds := h.resolve_right (not_le.mpr (lt_of_le_of_lt hle hlt))
    exact Or.inl (hholds.step (hnow ▸ now_le_of_run hrun) hstep hlt)
  · exact Or.inr hge

end System

/-- A step of a call: it goes on, hands out credentials of the cache or those of a reply, or
fails. -/
theorem Pc.Leads.call_cases {pc pc' : Pc} (h : Leads api env now st pc pc')
    (hcall : .cache ∈ pc.guards ∨ pc.awaits = some .cache) :
    .cache ∈ pc'.guards ∨
      (∃ creds : X509Credentials,
        pc' = api.respond (.success creds.certPem creds.keyPem creds.caCertPem) ∧
        ((∃ name, pc = .lockCache name ∧
            cachedCredentials api.lib name st.cache now = some creds) ∨
          ∃ name generated reply newListener,
            pc = .restoreListener name generated reply newListener ∧
            credentialsOfResponse name generated.keyPem reply = .ok creds)) ∨
      ∃ e, pc' = .returned (.error e) := by
  cases h with
  | fails hpc e => exact Or.inr (Or.inr ⟨e, rfl⟩)
  | @cached name creds json hcached hjson =>
    refine Or.inr (Or.inl ⟨creds, ?_, Or.inl ⟨name, rfl, hcached⟩⟩)
    rw [WorkloadApi.respond, hjson]
    rfl
  | @stored name generated resp newListener creds json hcreds hjson =>
    refine Or.inr (Or.inl ⟨creds, ?_, Or.inr ⟨name, generated, resp, newListener, rfl, hcreds⟩⟩)
    rw [WorkloadApi.respond, hjson]
    rfl
  | matched | unmatched | ended | unsupported | fetch | written =>
    simp [Pc.guards, Pc.awaits] at hcall
  | _ => exact Or.inl (by simp [Pc.guards])

/-- Single flight and rotation at half-life. After a step that stores credentials, a request for
their identity is made only when half of the lifetime has passed, and only by one task at a time.
A call that comes to the cache before that hands them out as they are, without a request. A call
that does later hands out credentials issued since they were stored, or fails. -/
theorem single_flight_and_rotation {as : List (Action KeyPair)} {before origin : System}
    {a : Action KeyPair} (hrun : run (System.step api) (.start now st) as = some before)
    (hstep : before.step api a = some origin) (hstores : before.Stores a name cached)
    {bs : List (Action KeyPair)} {sys : System}
    (hlater : run (System.step api) origin bs = some sys) :
    (∀ id task, sys.tasks id = some task → task.Requests name →
      (cached.rotatesAt api.lib).nanos ≤ sys.now.nanos ∧
        ∀ other task', sys.tasks other = some task' → task'.Requests name → other = id) ∧
    ∀ id env sys' task task', sys.step api (.run id env) = some sys' →
      sys.tasks id = some task → sys'.tasks id = some task' → task.AtCall →
      task.pc.identityName = some name →
      (sys.now.nanos < (cached.rotatesAt api.lib).nanos →
        task'.pc = api.respond (.success cached.certPem cached.keyPem cached.caCertPem) ∧
          sys'.state = sys.state) ∧
      ((cached.rotatesAt api.lib).nanos ≤ sys.now.nanos →
        .cache ∈ task'.pc.guards ∨
          (∃ creds : X509Credentials,
            task'.pc = api.respond (.success creds.certPem creds.keyPem creds.caCertPem) ∧
            System.Issued api origin (bs ++ [.run id env]) name creds) ∨
          ∃ e, task'.pc = .returned (.error e)) := by
  have hbefore := System.consistent_of_visits (visits_end hrun)
  obtain ⟨hcached, hnow, hidle⟩ := hstores.step hbefore hstep
  have hsys : sys.Consistent := visits_induction (hbefore.step hstep)
    (fun _ _ _ htakes h => h.step htakes.step_eq) sys (visits_end hlater)
  have hholds := System.holds_or_rotates_of_run hcached hnow hidle hlater
  refine ⟨fun id task htask hrequests => ⟨?_, fun other task' htask' hrequests' => ?_⟩, ?_⟩
  · -- while the entry is held there is no request
    exact hholds.resolve_left fun h => h.2 id task htask hrequests
  · -- both tasks have the cache
    refine hsys.unique (l := .cache) ?_ ?_
    · rw [System.guards_of_tasks htask']
      exact hrequests'.1
    · rw [System.guards_of_tasks htask]
      exact hrequests.1
  · intro id env sys' task task' hstep' htask htask' hcall hname
    obtain ⟨-, st', task₀', hgoes, rfl⟩ := System.goes_of_step_run hstep' htask
    rw [System.advance_tasks_self] at htask'
    cases htask'
    constructor
    · intro hyoung
      obtain ⟨hlookup, hnone⟩ := hholds.resolve_right (not_le.mpr hyoung)
      -- no request is under way, so the call begins with this step
      rcases hcall with hcall | hawaits
      · exact absurd ⟨hcall, hname⟩ (hnone id task htask)
      · obtain ⟨name', hpc⟩ := (Pc.awaits_cache_iff _).mp hawaits
        rw [hpc] at hname
        cases hname
        obtain ⟨rfl, hpc'⟩ := hgoes.lookUp hpc
        have hfresh := cachedCredentials_of_lt hlookup (hnow ▸ System.now_le_of_run hlater) hyoung
        refine ⟨?_, rfl⟩
        rw [hpc', WorkloadApi.lookUp, hfresh]
        rfl
    · intro hold
      -- only the credentials that the step hands out are left to be traced
      refine (hgoes.leads.call_cases hcall).imp_right (Or.imp_left ?_)
      rintro ⟨creds, hpc', hfrom⟩
      refine ⟨creds, hpc', System.Issued.mono ?_ (List.prefix_append _ _)⟩
      rcases hfrom with ⟨name', hpc, hfresh⟩ | ⟨name', generated, reply, newListener, hpc, hreply⟩
      · rw [hpc] at hname
        cases hname
        obtain ⟨cached', hlookup, rfl, -⟩ := cachedCredentials_eq_some_iff.mp hfresh
        refine (System.cache_of_run hidle hlater hlookup).resolve_left fun hsame => ?_
        -- the entry that was stored is too old by now
        rw [hcached] at hsame
        cases hsame
        exact absurd (lt_rotatesAt_of_cachedCredentials hlookup hfresh) (not_lt.mpr hold)
      · rw [hpc] at hname
        cases hname
        have hreq := System.requested_of_run hidle hlater htask
        rw [hpc] at hreq
        exact System.issued_of_requested hreq hreply

/-- A second connection is handed a certificate for an hour that the first has stored, a second
before half of the hour has passed. -/
theorem single_flight_and_rotation_reuses :
    let as := Symbolic.connects 0 ++ List.replicate 9 (.run 0 Symbolic.grantedHour) ++
      Symbolic.connects 1 ++ [.tick (1799 * 1000000000)]
    ∃ sys sys' task', run (System.step Symbolic.fetchApi)
        (.start ⟨0⟩ (.boot ⟨901⟩ Symbolic.webWorkloads)) as = some sys ∧
      sys.step Symbolic.fetchApi (.run 1 Symbolic.grantedHour) = some sys' ∧
      sys'.tasks 1 = some task' ∧
      task'.pc = Symbolic.fetchApi.respond
        (.success Symbolic.hourPem (Symbolic.lib.serializePem 7) "ca") := by
  let first := Symbolic.connects 0 ++ List.replicate 7 (.run 0 Symbolic.grantedHour)
  have h := @single_flight_and_rotation _ _ Symbolic.fetchApi ⟨0⟩
    (.boot ⟨901⟩ Symbolic.webWorkloads) "web"
    ⟨Symbolic.hourPem, Symbolic.lib.serializePem 7, "ca", ⟨0⟩⟩ first _ _
    (.run 0 Symbolic.grantedHour) rfl rfl ⟨0, _, _, _, _, _, _, rfl, rfl, rfl, rfl, rfl⟩
    (.run 0 Symbolic.grantedHour :: Symbolic.connects 1 ++ [.tick (1799 * 1000000000)]) _ rfl
  have hrotates : ∀ key, (CachedCredential.rotatesAt Symbolic.lib
      ⟨Symbolic.hourPem, key, "ca", ⟨0⟩⟩).nanos = 1800 * 1000000000 := by
    intro key
    rw [CachedCredential.nanos_rotatesAt, Symbolic.certLifetime_hourPem]
    rfl
  exact ⟨_, _, _, rfl, rfl, rfl, ((h.2 1 Symbolic.grantedHour _ _ _ rfl rfl rfl (Or.inr rfl) rfl).1
    (lt_of_lt_of_eq (by decide : (1799 * 1000000000 : ℤ) < 1800 * 1000000000)
      (hrotates _).symm)).1⟩

end AuthnScope
