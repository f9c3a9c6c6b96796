import AuthnScope.Agent.Rotation
import AuthnScope.EndToEnd
import AuthnScope.Expiry

/-!
# Unexpired credentials on every connection

The tasks of the Workload API share one cache, and a credential that one of them stores is handed
out by the others. None of them is sent a credential whose certificate has ended, if certificates
come in while half of their lifetime is still to come.

## Main definitions

* `InFirstHalf`: a time in the first half of a certificate.

## Main results

* `cache_of_visits`: what is true of everything that is stored is true of the cache;
* `responses_unexpired`: what the tasks respond with.
-/

namespace AuthnScope

open Locks Outcome Transition

section

variable {KeyPair PublicKey : Type}

/-- The certificate lasts at least two seconds, and the time is no later than half of its
lifetime. -/
def InFirstHalf (lib : X509Lib KeyPair PublicKey) (certPem : String) (t : Instant) : Prop :=
  ∃ x lifetime, lib.parseX509 certPem = .ok x ∧ x.notAfter - x.notBefore = (lifetime : ℕ) ∧
    2 ≤ lifetime ∧ t.nanos ≤ (x.notBefore + (lifetime / 2 : ℕ)) * 1000000000

variable {lib : X509Lib KeyPair PublicKey} {api : WorkloadApi KeyPair PublicKey}
  {origin sys : System} {as : List (Action KeyPair)}

theorem InFirstHalf.rotates {entry : CachedCredential}
    (h : InFirstHalf lib entry.certPem entry.fetchedAt) : Rotates lib entry := by
  obtain ⟨x, lifetime, hx, hlife, -, htime⟩ := h
  refine ⟨x, lifetime, hx, hlife, ?_⟩
  -- the two halves are at most the lifetime
  have hhalves : (lifetime / 2 : ℕ) + (lifetime / 2 : ℕ) ≤ lifetime := by omega
  omega

theorem InFirstHalf.unexpired {creds : X509Credentials} {t : Instant}
    (h : InFirstHalf lib creds.certPem t) : Unexpired lib creds t := by
  obtain ⟨x, lifetime, hx, hlife, hlong, htime⟩ := h
  refine ⟨x, hx, ?_⟩
  have hhalf : (lifetime / 2 : ℕ) < lifetime := by omega
  omega

/-- What is true of everything that is stored is true of the cache. -/
theorem cache_of_visits {P : CachedCredential → Prop}
    (hcache : ∀ name entry, origin.state.cache.lookup name = some entry → P entry)
    (hstored : ∀ sys a sys' name cached, Takes (System.step api) origin as sys a sys' →
      sys.Stores a name cached → P cached)
    (h : Visits (System.step api) origin as sys) :
    ∀ name entry, sys.state.cache.lookup name = some entry → P entry := by
  refine visits_induction
    (P := fun sys => ∀ name entry, sys.state.cache.lookup name = some entry → P entry) hcache
    (fun sys a sys' htakes hcache => ?_) sys h
  rcases System.step_cases htakes.step_eq with ⟨id, env, rfl⟩ | hout
  · obtain ⟨task, st', task', htask, -, hgoes, rfl⟩ :=
      (System.step_run_eq_some_iff id).mp htakes.step_eq
    intro name entry hentry
    change st'.cache.lookup name = some entry at hentry
    rcases hgoes.cache with hsame | ⟨stored, generated, resp, newListener, creds, hpc, hcreds,
      hinsert, -⟩
    · rw [hsame] at hentry
      exact hcache name entry hentry
    · rw [hinsert] at hentry
      by_cases hname : name = stored
      · subst hname
        rw [AList.lookup_insert] at hentry
        cases hentry
        exact hstored sys _ _ name _ htakes ⟨id, env, task, generated, resp, newListener, creds,
          rfl, htask, hpc, hcreds, rfl⟩
      · rw [AList.lookup_insert_ne hname] at hentry
        exact hcache name entry hentry
  · rw [hout.state]
    exact hcache

/-- The credentials that a task comes to respond with are in the cache, or they are stored with this
step. -/
theorem cached_or_stores_of_response {sys' : System} {id : ℕ} {env : StepEnv KeyPair}
    {task' : Task} {creds : X509Credentials} {bytes : List UInt8}
    (hstep : sys.step api (.run id env) = some sys') (htask' : sys'.tasks id = some task')
    (hpc : task'.pc =
      .writeResponse (.success creds.certPem creds.keyPem creds.caCertPem) bytes) :
    (∃ name, cachedCredentials api.lib name sys.state.cache sys.now = some creds) ∨
      ∃ name, sys.Stores (.run id env) name
        ⟨creds.certPem, creds.keyPem, creds.caCertPem, sys.now⟩ := by
  obtain ⟨task, st', task₁, htask, -, hgoes, rfl⟩ := (System.step_run_eq_some_iff id).mp hstep
  rw [System.advance_tasks_self] at htask'
  cases htask'
  have hleads := hgoes.leads
  rw [hpc] at hleads
  rcases hleads.responds.2 with ⟨message, hmessage⟩ | ⟨name, creds', hsuccess, hfrom⟩
  · cases hmessage
  obtain rfl : creds = creds' := by
    cases creds
    cases creds'
    simpa using hsuccess
  rcases hfrom with ⟨-, hcached⟩ | ⟨generated, reply, newListener, hrestore, hcreds⟩
  · exact Or.inl ⟨name, hcached⟩
  · exact Or.inr ⟨name, id, env, task, generated, reply, newListener, creds, rfl, htask, hrestore,
      hcreds, rfl⟩

/-- In a run of the agent with any number of connections, let every certificate that is stored be in
the first half of its lifetime. Then the credentials that a task responds with, whoever stored
them, have not expired when it does. -/
theorem responses_unexpired (api : WorkloadApi KeyPair PublicKey) (now : Instant)
    (listener : VsockListener) (workloads : HashMap WorkloadConfig) (as : List (Action KeyPair))
    (hstored : ∀ sys a sys' name cached,
      Takes (System.step api) (.start now (.boot listener workloads)) as sys a sys' →
        sys.Stores a name cached → InFirstHalf api.lib cached.certPem cached.fetchedAt)
    (sys sys' : System) (id : ℕ) (env : StepEnv KeyPair) (task' : Task) (creds : X509Credentials)
    (bytes : List UInt8)
    (htakes : Takes (System.step api) (.start now (.boot listener workloads)) as sys
      (.run id env) sys')
    (htask' : sys'.tasks id = some task')
    (hpc : task'.pc =
      .writeResponse (.success creds.certPem creds.keyPem creds.caCertPem) bytes) :
    Unexpired api.lib creds sys.now := by
  rcases cached_or_stores_of_response htakes.step_eq htask' hpc with ⟨name, hcached⟩ |
    ⟨name, hstores⟩
  · have hrotates : CacheRotates api.lib sys.state := cache_of_visits (by rintro name entry ⟨⟩)
      (fun sys a sys' name cached htakes hstores =>
        (hstored sys a sys' name cached htakes hstores).rotates) htakes.visits
    exact unexpired_of_cached hrotates hcached
  · exact (hstored sys _ _ name _ htakes hstores).unexpired

end

namespace Symbolic

/-- A certificate that the host signs for `vm-a` is valid for an hour. -/
theorem lifetime_of_answer {certPem caCertPem : String}
    (h : answer lib signing (hostConfig 60) (authority 1 1) 3 webRequest =
      .certOk certPem caCertPem) :
    ∃ x, lib.parseX509 certPem = .ok x ∧ x.notBefore = signing.now.unixTimestamp ∧
      x.notAfter - x.notBefore = (3600 : ℕ) := by
  rw [answer_eq_iff (by simp), respond_certOk_iff] at h
  obtain ⟨_, _, _, vm, policy, hreq, hreg, -, hsign, -⟩ := h
  cases hreq
  obtain ⟨-, rfl⟩ := hreg.unique (registers_single "vm-a" 3 "web" ⟨"unix:user:www", 60⟩)
  obtain ⟨x, hx, hbefore, hlife, -⟩ := issued_lifetime lib_lawful hsign
  exact ⟨x, hx, hbefore, hlife⟩

/-- A certificate that the host has just signed is in the first half of its hour. -/
theorem inFirstHalf_of_answer {certPem caCertPem : String} {t : Instant}
    (ht : t.nanos ≤ signing.now.unixTimestamp * 1000000000)
    (h : answer lib signing (hostConfig 60) (authority 1 1) 3 webRequest =
      .certOk certPem caCertPem) : InFirstHalf lib certPem t := by
  obtain ⟨x, hx, hbefore, hlife⟩ := lifetime_of_answer h
  refine ⟨x, 3600, hx, hlife, by decide, ?_⟩
  rw [hbefore]
  omega

/-- Without a tick no time passes. -/
theorem now_of_visits {as : List (Action ℕ)} (hticks : ∀ nanos, .tick nanos ∉ as)
    {origin sys : System} (h : Visits (System.step lineApi) origin as sys) :
    sys.now = origin.now := by
  refine visits_induction (P := fun sys => sys.now = origin.now) rfl
    (fun sys a sys' htakes hnow => ?_) sys h
  rw [← hnow]
  cases a with
  | tick nanos => exact absurd htakes.mem (hticks nanos)
  | run id env =>
    obtain ⟨task, st', task', -, -, -, rfl⟩ := (System.step_run_eq_some_iff id).mp htakes.step_eq
    rfl
  | accept id peer room =>
    obtain ⟨-, rfl⟩ := (System.step_accept_eq_some_iff id peer room).mp htakes.step_eq
    rfl
  | clientReads id count =>
    obtain ⟨task, -, rfl⟩ := (System.step_clientReads_eq_some_iff id count).mp htakes.step_eq
    rfl
  | clientSends id bytes =>
    obtain ⟨task, -, -, rfl⟩ := (System.step_clientSends_eq_some_iff id bytes).mp htakes.step_eq
    rfl
  | clientEnds id result =>
    obtain ⟨task, -, -, rfl⟩ := (System.step_clientEnds_eq_some_iff id result).mp htakes.step_eq
    rfl

/-- Without a tick, and with a host that answers the request of `vm-a`, what is stored is the answer
at the time of the start. -/
theorem stored_answer {as : List (Action ℕ)}
    (henvs : ∀ id env, .run id env ∈ as → env = answering) (hticks : ∀ nanos, .tick nanos ∉ as)
    {certPem caCertPem : String}
    (hrecv : answering.recv webRequest = .ok (.certOk certPem caCertPem)) {sys sys' : System}
    {a : Action ℕ} {name : String} {cached : CachedCredential}
    (htakes : Takes (System.step lineApi) (.start ⟨0⟩ (.boot ⟨901⟩ webWorkloads)) as sys a sys')
    (hstores : sys.Stores a name cached) : cached.certPem = certPem ∧ cached.fetchedAt = ⟨0⟩ := by
  obtain ⟨id, env, task, generated, resp, newListener, creds, rfl, htask, hpc, hcreds, rfl⟩ :=
    hstores
  have htakes₀ := htakes
  obtain ⟨bs, hpre, hrun, -⟩ := htakes₀
  have hreq := System.requested_of_run (fun _ => List.not_mem_nil) hrun htask
  rw [hpc] at hreq
  obtain ⟨-, -, env', ⟨_, _, _, _, htakes', -⟩, hreply⟩ := hreq
  obtain rfl := henvs _ env' (((List.prefix_append bs [.run id env]).trans hpre).subset htakes'.mem)
  obtain ⟨rfl, -⟩ := (credentialsOfResponse_eq_ok_iff _ _ _ _).mp hcreds
  by_cases hsame : certRequest lineApi.config name generated.csrPem = webRequest
  · rw [hsame, hrecv, Except.ok.injEq, AgentResponse.certOk.injEq] at hreply
    exact ⟨hreply.1.symm, now_of_visits hticks htakes.visits⟩
  · rw [show answering.recv _ = _ from if_neg hsame] at hreply
    cases hreply

end Symbolic

/-- A process of the user `www` is sent a certificate that has just been signed. -/
theorem responses_unexpired_web :
    ∃ certPem, Unexpired Symbolic.lib ⟨certPem, Symbolic.lib.serializePem 7,
      (Symbolic.authority 1 1).certPem⟩ ⟨0⟩ := by
  obtain ⟨certPem, -, hanswer⟩ := Symbolic.exists_serves_webRequest
  have hrecv : Symbolic.answering.recv Symbolic.webRequest =
      .ok (.certOk certPem (Symbolic.authority 1 1).certPem) := by
    show (if _ then _ else _) = _
    rw [if_pos rfl, hanswer]
  obtain ⟨sys, task, hrun, htask, hpc⟩ := Symbolic.exists_run_answering hrecv
  obtain ⟨sys₀, hrun₀, hstep⟩ := (run_concat_eq_some_iff _ _ _ _).mp hrun
  have hticks : ∀ nanos, .tick nanos ∉ Symbolic.requests ++ [.run 0 Symbolic.answering] ++
      [.run 0 Symbolic.answering] ++ [.run 0 Symbolic.answering] := by
    simp [Symbolic.requests]
  have hfresh := responses_unexpired Symbolic.lineApi ⟨0⟩ ⟨901⟩ Symbolic.webWorkloads _ ?_ sys₀ sys
    0 Symbolic.answering task ⟨certPem, _, _⟩ _ (takes_concat hrun₀ hstep) htask hpc
  · rw [Symbolic.now_of_visits hticks (takes_concat hrun₀ hstep).visits] at hfresh
    exact ⟨certPem, hfresh⟩
  · intro sys₁ a sys₂ name cached htakes hstores
    obtain ⟨hcert, hat⟩ := Symbolic.stored_answer (fun _ _ => Symbolic.env_eq_answering) hticks
      hrecv htakes hstores
    rw [hcert, hat]
    have hstart : (0 : ℤ) ≤ Symbolic.signing.now.unixTimestamp * 1000000000 := by decide
    exact Symbolic.inFirstHalf_of_answer hstart hanswer

end AuthnScope
