import AuthnScope.Freshness
import AuthnScope.Lib.Refinement
import AuthnScope.Workload.Delivery

/-!
# Renewal in time

How long the credentials of a rotation loop last. The agent hands a certificate out until half of
its lifetime has passed since it stored it, so what a fetch returns has about the other half still
to come. A loop whose fetches succeed in shorter intervals than that never holds an expired
certificate, whichever connections of whichever processes have made the agent renew it.

## Main definitions

* `StoredWithin`: how long after its beginning a certificate is stored;
* `Lasts`: how long after a time a certificate is valid.

## Main results

* `lasts_of_response`: what the tasks respond with lasts for half of its lifetime;
* `loops_hold_unexpired`: so does what a loop has fetched, counted from before its last fetch.
-/

namespace AuthnScope

open Outcome Transition

section

variable {KeyPair PublicKey : Type}

/-- The entry is stored no later than the delay, in seconds, after the beginning of its
certificate. -/
def StoredWithin (lib : X509Lib KeyPair PublicKey) (delay : ℕ) (entry : CachedCredential) : Prop :=
  ∃ x lifetime, lib.parseX509 entry.certPem = .ok x ∧ x.notAfter - x.notBefore = (lifetime : ℕ) ∧
    entry.fetchedAt.nanos ≤ (x.notBefore + delay) * 1000000000

/-- The certificate is valid for half of its lifetime after the time, less the delay. -/
def Lasts (lib : X509Lib KeyPair PublicKey) (delay : ℕ) (creds : X509Credentials)
    (since : Instant) : Prop :=
  ∃ x lifetime, lib.parseX509 creds.certPem = .ok x ∧ x.notAfter - x.notBefore = (lifetime : ℕ) ∧
    ∀ t : Instant, t.nanos + delay * 1000000000 <
      since.nanos + (lifetime / 2 : ℕ) * 1000000000 → Unexpired lib creds t

variable {lib : X509Lib KeyPair PublicKey} {api : WorkloadApi KeyPair PublicKey} {delay : ℕ}
  {creds : X509Credentials} {origin sys sys' : System} {as bs : List (Action KeyPair)} {id : ℕ}
  {task task' : Task}

theorem Lasts.of_le {since since' : Instant} (h : Lasts lib delay creds since)
    (hle : since'.nanos ≤ since.nanos) : Lasts lib delay creds since' := by
  obtain ⟨x, lifetime, hx, hlife, hvalid⟩ := h
  exact ⟨x, lifetime, hx, hlife, fun t ht => hvalid t (by omega)⟩

/-- What is stored lasts for half of its lifetime. -/
theorem StoredWithin.lasts {now : Instant}
    (h : StoredWithin lib delay ⟨creds.certPem, creds.keyPem, creds.caCertPem, now⟩) :
    Lasts lib delay creds now := by
  obtain ⟨x, lifetime, hx, hlife, hstored⟩ := h
  refine ⟨x, lifetime, hx, hlife, fun t ht => ⟨x, hx, ?_⟩⟩
  have hhalf : (lifetime / 2 : ℕ) ≤ lifetime := Nat.div_le_self _ _
  simp only at hstored
  omega

/-- What the cache hands out has half of its lifetime still to come. -/
theorem lasts_of_cached {cache : HashMap CachedCredential} {name : String} {now : Instant}
    (hcache : ∀ entry, cache.lookup name = some entry → StoredWithin lib delay entry)
    (h : cachedCredentials lib name cache now = some creds) : Lasts lib delay creds now := by
  obtain ⟨entry, hentry, rfl, -⟩ := cachedCredentials_eq_some_iff.mp h
  have hyoung := lt_rotatesAt_of_cachedCredentials hentry h
  obtain ⟨x, lifetime, hx, hlife, hstored⟩ := hcache entry hentry
  rw [CachedCredential.nanos_rotatesAt, certLifetime_of_parseX509 hx, hlife, Int.toNat_natCast]
    at hyoung
  refine ⟨x, lifetime, hx, hlife, fun t ht => ⟨x, hx, ?_⟩⟩
  have hhalves : (lifetime / 2 : ℕ) + (lifetime / 2 : ℕ) ≤ lifetime := by omega
  omega

/-- What the tasks respond with lasts for half of its lifetime. -/
theorem lasts_of_response (hempty : origin.state.cache = ∅)
    (hstored : ∀ sys a sys' name cached, Takes (System.step api) origin as sys a sys' →
      sys.Stores a name cached → StoredWithin api.lib delay cached) {env : StepEnv KeyPair}
    {bytes : List UInt8} (htakes : Takes (System.step api) origin as sys (.run id env) sys')
    (htask' : sys'.tasks id = some task')
    (hpc : task'.pc =
      .writeResponse (.success creds.certPem creds.keyPem creds.caCertPem) bytes) :
    Lasts api.lib delay creds sys.now := by
  rcases cached_or_stores_of_response htakes.step_eq htask' hpc with ⟨name, hcached⟩ |
    ⟨name, hstores⟩
  · refine lasts_of_cached (fun entry hentry => ?_) hcached
    refine cache_of_visits (fun name entry hentry => ?_) hstored htakes.visits name entry hentry
    rw [hempty] at hentry
    cases hentry
  · exact (hstored sys _ _ name _ htakes hstores).lasts

/-! ## When a response was decided -/

namespace System

/-- A task that has come to a response has come to it in a step of the run. -/
theorem moved_of_response (hstart : ∀ id, origin.tasks id = none)
    (hrun : run (System.step api) origin as = some sys) (htask : sys.tasks id = some task)
    {resp : WorkloadResponse} {bytes : List UInt8} (hpc : task.pc = .writeResponse resp bytes) :
    ∃ env pc, Moved api origin as id env pc (.writeResponse resp bytes) := by
  refine tasks_induction (P := fun as id task => ∀ resp bytes, task.pc = .writeResponse resp bytes →
    ∃ env pc, Moved api origin as id env pc (.writeResponse resp bytes)) ?_ ?_ ?_ ?_ ?_
    hrun htask resp bytes hpc
  · intro id task htask
    rw [hstart] at htask
    cases htask
  · intro as id peer room resp bytes hpc
    cases peer <;> cases hpc
  · intro as a id task h resp bytes hpc
    obtain ⟨env, pc, hmoved⟩ := h resp bytes hpc
    exact ⟨env, pc, hmoved.mono (List.prefix_append _ _)⟩
  · intro as id task task' hhears _ h resp bytes hpc
    exact h resp bytes (hhears.pc ▸ hpc)
  · intro as sys id env task st' task' hrun hstep htask _ _ resp bytes hpc
    exact ⟨env, task.pc, hpc ▸ moved_concat hrun hstep htask⟩

/-- A connection that is there stays there. -/
theorem tasks_ne_none_of_run (h : origin.tasks id ≠ none)
    (hrun : run (System.step api) origin as = some sys) : sys.tasks id ≠ none := by
  refine run_induction (P := fun _ sys => sys.tasks id ≠ none) h
    (fun as sys a sys' _ hstep h => ?_) as sys hrun
  rcases step_cases hstep with ⟨moving, env, rfl⟩ | hout
  · obtain ⟨task, st', task', -, -, -, rfl⟩ := (step_run_eq_some_iff moving).mp hstep
    by_cases hid : id = moving
    · subst hid
      rw [advance_tasks_self]
      exact Option.some_ne_none task'
    · rwa [advance_tasks_of_ne sys hid]
  · rcases hout.task id with ⟨hnone, -⟩ | ⟨peer, room, -, hnew⟩ | ⟨task, task', -, hsome, -⟩
    · exact absurd hnone h
    · rw [hnew]
      exact Option.some_ne_none _
    · rw [hsome]
      exact Option.some_ne_none _

/-- The steps of a task are later than any time at which its connection is not there. -/
theorem now_le_of_takes {before : System} {env : StepEnv KeyPair}
    (htakes : Takes (System.step api) origin as sys (.run id env) sys') (hbs : bs <+: as)
    (hbefore : run (System.step api) origin bs = some before) (hnone : before.tasks id = none) :
    before.now.nanos ≤ sys.now.nanos := by
  obtain ⟨cs, hcs, hrun, hstep⟩ := htakes
  have hcs' : cs <+: as := (List.prefix_append cs [_]).trans hcs
  rcases List.prefix_or_prefix_of_prefix hbs hcs' with hpre | hpre
  · obtain ⟨ds, rfl⟩ := hpre
    rw [run_append, hbefore, Option.bind_some] at hrun
    exact now_le_of_run hrun
  · -- the connection would have been there already
    obtain ⟨ds, rfl⟩ := hpre
    rw [run_append, hrun, Option.bind_some] at hbefore
    obtain ⟨task, -, -, htask, -⟩ := (step_run_eq_some_iff id).mp hstep
    have hthere : sys.tasks id ≠ none := by
      rw [htask]
      exact Option.some_ne_none task
    exact absurd hnone (tasks_ne_none_of_run hthere hbefore)

end System

/-- The rotation loop of a client, in Rust or in Go, over any of its connections to the agent, in
any run of the agent in which every certificate is stored within the delay. What the loop holds is
from its last fetch that succeeded, and it lasts for half of its lifetime, less the delay, counted
from any time before the connection of that fetch. -/
theorem loops_hold_unexpired {fromStr parse : List UInt8 → Except String Json}
    (hwrite : ∀ resp, api.respSerde.toVec resp = .ok resp.toJson.toVec)
    (hread : Json.ReadsStrings fromStr) (hparse : Json.ReadsStrings parse) (delay : ℕ)
    (now : Instant) (listener : VsockListener) (workloads : HashMap WorkloadConfig)
    (hrun : run (System.step api) (.start now (.boot listener workloads)) as = some sys)
    (hstored : ∀ sys a sys' name cached,
      Takes (System.step api) (.start now (.boot listener workloads)) as sys a sys' →
        sys.Stores a name cached → StoredWithin api.lib delay cached)
    (client : WorkloadClient) (goClient : GoWorkloadClient) (ids : Set ℕ) (exs : List Exchange)
    (hexs : ∀ ex ∈ exs, ex.reply = [] ∨ ∃ id ∈ ids, sys.Delivers id ex)
    (fetch : Exchange → Except String X509Credentials)
    (hfetch : fetch = client.fetchCredentials fromStr ∨ fetch = goClient.fetchCredentials parse)
    (hholds : rotationLoop fetch exs = some creds) :
    ∃ ex, LastFetch fetch exs ex creds ∧ ∃ id ∈ ids, sys.Delivers id ex ∧
      ∀ bs before, bs <+: as →
        run (System.step api) (.start now (.boot listener workloads)) bs = some before →
          before.tasks id = none → Lasts api.lib delay creds before.now := by
  obtain ⟨ex, id, hlast, hid, hdelivers, task, cs, sys', task', bytes, -, hcs, hrun', htask', -,
    hpc⟩ := response_of_loop hwrite hread hparse (fun _ => rfl) rfl hrun hexs hfetch hholds
  refine ⟨ex, hlast, id, hid, hdelivers, fun bs before hbs hbefore hnone => ?_⟩
  obtain ⟨env, pc, sys₁, sys₂, task₁, task₂, htakes, -, htask₂, -, hpc₂⟩ :=
    System.moved_of_response (fun _ => rfl) hrun' htask' hpc
  have htakes := htakes.mono hcs
  exact (lasts_of_response rfl hstored htakes htask₂ hpc₂).of_le
    (System.now_le_of_takes htakes hbs hbefore hnone)

end

/-- The loop of a client of the user `www` holds a certificate for half an hour at least. -/
theorem loops_hold_unexpired_web :
    ∃ certPem, Lasts Symbolic.lib 0 ⟨certPem, Symbolic.lib.serializePem 7,
      (Symbolic.authority 1 1).certPem⟩ ⟨0⟩ := by
  obtain ⟨certPem, -, hanswer⟩ := Symbolic.exists_serves_webRequest
  have hrecv : Symbolic.answering.recv Symbolic.webRequest =
      .ok (.certOk certPem (Symbolic.authority 1 1).certPem) := by
    show (if _ then _ else _) = _
    rw [if_pos rfl, hanswer]
  obtain ⟨as, sys, reply, hrun, henvs, hticks, hdelivers, hholds⟩ := Symbolic.exists_run_loop hrecv
  have hstored : ∀ sys a sys' name cached, Takes (System.step Symbolic.lineApi)
      (.start ⟨0⟩ (.boot ⟨901⟩ Symbolic.webWorkloads)) as sys a sys' →
        sys.Stores a name cached → StoredWithin Symbolic.lineApi.lib 0 cached := by
    intro sys₁ a sys₂ name cached htakes hstores
    obtain ⟨hcert, hat⟩ := Symbolic.stored_answer henvs hticks hrecv htakes hstores
    obtain ⟨x, hx, hbefore, hlife⟩ := Symbolic.lifetime_of_answer hanswer
    refine ⟨x, 3600, hcert ▸ hx, hlife, ?_⟩
    rw [hat, hbefore]
    decide
  obtain ⟨_, -, id, -, -, hlasts⟩ := loops_hold_unexpired (fun _ => rfl)
    Json.readsStrings_readStrings Json.readsStrings_readStrings 0 ⟨0⟩ ⟨901⟩ Symbolic.webWorkloads
    hrun hstored ⟨"/run/wl.sock"⟩ ⟨"/run/wl.sock"⟩ Set.univ _
    (by simpa using Or.inr ⟨0, hdelivers⟩) _ (Or.inl rfl) hholds
  exact ⟨certPem, hlasts [] _ List.nil_prefix rfl rfl⟩

end AuthnScope
