import AuthnScope.Agent.Symbolic
import AuthnScope.Lib.Run
import AuthnScope.Lifetime

/-!
# When credentials are handed out

A run of fetches on one agent, against a host that answers each request with what its handler
decides. The agent counts the age of a credential from the moment it is stored, the lifetime of
the certificate runs from the moment it is signed, and the agent looks at the first only. A
credential is handed out expired exactly when the two moments are too far apart.

A credential that is not expired can be withheld: from half of the lifetime on the agent asks the
host for a new one, and does not go back to the old one when the request fails.

## Main definitions

* `Fetch`, `Fetch.run`: a call of `get_or_fetch_credentials` with what the outside answers;
* `Unexpired`, `Expired`: a time before and after the end of a certificate;
* `Fetch.OnTime`: a newly issued certificate arrives while half of its lifetime is left.

## Main results

* `fetches_unexpired`: in a run whose fetches are on time, nothing is handed out expired; a fetch
  that is not on time hands out an expired credential, itself or through the cache;
* `fetch_expired_on_arrival`: a reply that takes longer than the lifetime;
* `cached_credentials_withheld_iff`: what a call makes of an entry of the cache, before and after
  half of its lifetime.
-/

namespace AuthnScope

open Outcome Transition

/-- A call of `get_or_fetch_credentials`: what the outside answers the agent, and the environment
of the host while it signs. -/
structure Fetch (KeyPair : Type) where
  identity : String
  env : FetchEnv KeyPair
  signing : SigningEnv

section

variable {KeyPair PublicKey : Type} (lib : X509Lib KeyPair PublicKey) (config : AgentConfig)
  (hostConfig : HostConfig) (ca : CertificateAuthority) (peerCid : UInt32)

/-- The time is before the end of the certificate. -/
def Unexpired (creds : X509Credentials) (t : Instant) : Prop :=
  ∃ x, lib.parseX509 creds.certPem = .ok x ∧ t.nanos < x.notAfter * 1000000000

/-- The certificate has ended. -/
def Expired (creds : X509Credentials) (t : Instant) : Prop :=
  ∃ x, lib.parseX509 creds.certPem = .ok x ∧ x.notAfter * 1000000000 ≤ t.nanos

namespace Fetch

variable (f : Fetch KeyPair) (st : AgentState)

/-- The call. -/
def run : AgentM X509Credentials := getOrFetchCredentials lib f.env config f.identity

/-- The state after the call. -/
def step (st : AgentState) (f : Fetch KeyPair) : Option AgentState :=
  some (finalState (f.run lib config st))

/-- The cached credentials the call finds. -/
def cached : Option X509Credentials := cachedCredentials lib f.identity st.cache f.env.now

/-- When the call hands out credentials: at once if they are cached, else when they are stored. -/
def returnedAt : Instant := if (f.cached lib st).isSome then f.env.now else f.env.finished

/-- What the agent receives is what the host's handler answers. -/
def AnsweredBy : Prop :=
  ∀ req resp, f.env.recv req = .ok resp → resp = answer lib f.signing hostConfig ca peerCid req

/-- The certificate of the identity has a lifetime, and it arrives no later than half of the
lifetime after it was signed. -/
def InTime : Prop :=
  ∀ vm policy, hostConfig.Registers config.vmName f.identity vm policy →
    0 < (policy.ttlMinutes * 60).toNat ∧
      f.env.finished.nanos ≤
        (f.signing.now.unixTimestamp + ((policy.ttlMinutes * 60).toNat / 2 : ℕ)) * 1000000000

/-- A call that has to ask the host and is sent a certificate is in time. -/
def OnTime : Prop :=
  f.cached lib st = none →
    (∃ req certPem caCertPem, f.env.recv req = .ok (.certOk certPem caCertPem)) →
      f.InTime config hostConfig

end Fetch

/-- A cache entry is given up before its certificate ends. -/
def Rotates (entry : CachedCredential) : Prop :=
  ∃ x lifetime, lib.parseX509 entry.certPem = .ok x ∧ x.notAfter - x.notBefore = (lifetime : ℕ) ∧
    entry.fetchedAt.nanos + (lifetime / 2 : ℕ) * 1000000000 ≤ x.notAfter * 1000000000

/-- Every cache entry is given up before its certificate ends. -/
def CacheRotates (st : AgentState) : Prop :=
  ∀ identity entry, st.cache.lookup identity = some entry → Rotates lib entry

variable {lib} {config} {hostConfig} {ca} {peerCid}

/-! ## One call -/

/-- Lifetimes are multiples of four seconds, also when the product of minutes and 60 wraps. -/
theorem four_dvd_lifetime (ttlMinutes : UInt32) : 4 ∣ (ttlMinutes * 60).toNat := by
  rw [toNat_ttlMinutes_mul]
  omega

/-- Credentials from a cache that rotates are not expired. -/
theorem unexpired_of_cached {st : AgentState} (hst : CacheRotates lib st) {identity : String}
    {now : Instant} {creds : X509Credentials}
    (h : cachedCredentials lib identity st.cache now = some creds) :
    Unexpired lib creds now := by
  obtain ⟨entry, hentry, rfl, -⟩ := cachedCredentials_eq_some_iff.mp h
  have hyoung := lt_rotatesAt_of_cachedCredentials hentry h
  obtain ⟨x, lifetime, hx, hlife, hrotates⟩ := hst identity entry hentry
  -- the age is below half the lifetime, and the entry was stored early enough
  rw [CachedCredential.nanos_rotatesAt, certLifetime_of_parseX509 hx, hlife, Int.toNat_natCast]
    at hyoung
  exact ⟨x, hx, lt_of_lt_of_le hyoung hrotates⟩

/-- A call that does not find cached credentials and succeeds was granted a certificate by the
host, signed for the lifetime of the identity's policy, and stores it. -/
theorem issued_of_run {f : Fetch KeyPair} {st st' : AgentState} {creds : X509Credentials}
    (hlib : lib.Lawful) (hans : f.AnsweredBy lib hostConfig ca peerCid)
    (hcached : f.cached lib st = none) (h : f.run lib config st = .ok creds st') :
    (∃ req certPem caCertPem, f.env.recv req = .ok (.certOk certPem caCertPem)) ∧
      st'.cache = st.cache.insert f.identity
        ⟨creds.certPem, creds.keyPem, creds.caCertPem, f.env.finished⟩ ∧
      ∃ vm policy x, hostConfig.Registers config.vmName f.identity vm policy ∧
        lib.parseX509 creds.certPem = .ok x ∧ x.notBefore = f.signing.now.unixTimestamp ∧
        x.notAfter - x.notBefore = (policy.ttlMinutes * 60).toNat := by
  obtain ⟨st₁, hreq, rfl⟩ := (getOrFetchCredentials_of_not_cached hcached creds st').mp h
  obtain ⟨generated, resp, newListener, -, ⟨-, -, hrecv⟩, -, hcreds, rfl⟩ :=
    (requestCertOnDemand_eq_ok_iff _ _ _).mp hreq
  -- only a granted certificate gives credentials
  rcases resp with workloads | ⟨certPem, caCertPem⟩ | message
  · cases hcreds
  · cases hcreds
    have hgranted := (hans _ _ hrecv).symm
    rw [answer_eq_iff (by simp), respond_certOk_iff] at hgranted
    obtain ⟨_, _, _, vm, policy, hreq', hreg, -, hsign, -⟩ := hgranted
    cases hreq'
    obtain ⟨x, hx, hbefore, hlife, -⟩ := issued_lifetime hlib hsign
    exact ⟨⟨_, _, _, hrecv⟩, rfl, vm, policy, x, hreg, hx, hbefore, hlife⟩
  · cases hcreds

/-- A call on time keeps the cache rotating. -/
theorem cacheRotates_step {f : Fetch KeyPair} {st : AgentState} (hlib : lib.Lawful)
    (hans : f.AnsweredBy lib hostConfig ca peerCid) (htime : f.OnTime lib config hostConfig st)
    (hst : CacheRotates lib st) : CacheRotates lib (finalState (f.run lib config st)) := by
  -- a call from the cache changes nothing, and so does a call that fails
  rcases hcached : f.cached lib st with _ | creds
  · rcases hrun : f.run lib config st with ⟨creds, st'⟩ | ⟨e, st'⟩
    · obtain ⟨hgranted, hcache, vm, policy, x, hreg, hx, hbefore, hlife⟩ :=
        issued_of_run hlib hans hcached hrun
      obtain ⟨-, hfinished⟩ := htime hcached hgranted vm policy hreg
      have hfour := four_dvd_lifetime policy.ttlMinutes
      intro identity entry hentry
      rw [finalState_ok, hcache] at hentry
      -- the entry of this identity is new, the others are as they were
      by_cases hidentity : identity = f.identity
      · subst hidentity
        rw [AList.lookup_insert, Option.some.injEq] at hentry
        subst hentry
        refine ⟨x, _, hx, hlife, ?_⟩
        show f.env.finished.nanos + _ ≤ _
        omega
      · rw [AList.lookup_insert_ne hidentity] at hentry
        exact hst identity entry hentry
    · have hcache := cache_of_getOrFetchCredentials_error hrun
      intro identity entry hentry
      rw [finalState_error, hcache] at hentry
      exact hst identity entry hentry
  · have hrun : f.run lib config st = .ok creds st := getOrFetchCredentials_of_cached hcached
    rw [hrun]
    exact hst

/-- A call on time hands out nothing expired. -/
theorem unexpired_of_run {f : Fetch KeyPair} {st st' : AgentState} {creds : X509Credentials}
    (hlib : lib.Lawful) (hans : f.AnsweredBy lib hostConfig ca peerCid)
    (htime : f.OnTime lib config hostConfig st) (hst : CacheRotates lib st)
    (hrun : f.run lib config st = .ok creds st') :
    Unexpired lib creds (f.returnedAt lib st) := by
  rcases hcached : f.cached lib st with _ | creds'
  · obtain ⟨hgranted, -, vm, policy, x, hreg, hx, hbefore, hlife⟩ :=
      issued_of_run hlib hans hcached hrun
    obtain ⟨hpos, hfinished⟩ := htime hcached hgranted vm policy hreg
    have hfour := four_dvd_lifetime policy.ttlMinutes
    refine ⟨x, hx, ?_⟩
    rw [Fetch.returnedAt, hcached]
    show f.env.finished.nanos < _
    omega
  · have hrun' : f.run lib config st = .ok creds' st := getOrFetchCredentials_of_cached hcached
    rw [hrun'] at hrun
    cases hrun
    rw [Fetch.returnedAt, hcached]
    exact unexpired_of_cached hst hcached

/-- A call that is not in time hands out an expired credential, or leaves one in the cache that a
later call hands out expired. -/
theorem exists_expired_of_run {f : Fetch KeyPair} {st st' : AgentState} {creds : X509Credentials}
    (hlib : lib.Lawful) (hans : f.AnsweredBy lib hostConfig ca peerCid)
    (hcached : f.cached lib st = none) (hrun : f.run lib config st = .ok creds st')
    (hclock : f.signing.now.nanos ≤ f.env.finished.nanos) (hlate : ¬f.InTime config hostConfig) :
    ∃ t, f.env.finished.nanos ≤ t.nanos ∧ Expired lib creds t ∧
      (t = f.env.finished ∨
        ({ f with env := { f.env with now := t } } : Fetch KeyPair).run lib config st' =
          .ok creds st') := by
  obtain ⟨-, hcache, vm, policy, x, hreg, hx, hbefore, hlife⟩ :=
    issued_of_run hlib hans hcached hrun
  -- the policy that makes the call late is the one the certificate was signed for
  have hpolicy : ¬(0 < (policy.ttlMinutes * 60).toNat ∧ f.env.finished.nanos ≤
      (f.signing.now.unixTimestamp + ((policy.ttlMinutes * 60).toNat / 2 : ℕ)) * 1000000000) := by
    intro hintime
    refine hlate fun vm' policy' hreg' => ?_
    obtain ⟨-, rfl⟩ := hreg.unique hreg'
    exact hintime
  have hfour := four_dvd_lifetime policy.ttlMinutes
  have hstart : f.signing.now.unixTimestamp * 1000000000 ≤ f.signing.now.nanos := by
    rw [OffsetDateTime.unixTimestamp]
    omega
  generalize (policy.ttlMinutes * 60).toNat = lifetime at hlife hpolicy hfour
  by_cases hended : x.notAfter * 1000000000 ≤ f.env.finished.nanos
  · exact ⟨f.env.finished, le_refl _, ⟨x, hx, hended⟩, Or.inl rfl⟩
  · -- the last moment at which the entry still counts as young
    refine ⟨⟨f.env.finished.nanos + (lifetime / 2 : ℕ) * 1000000000 - 1⟩, ?_, ⟨x, hx, ?_⟩,
      Or.inr (getOrFetchCredentials_of_cached ?_)⟩
    · show f.env.finished.nanos ≤ f.env.finished.nanos + _ - 1
      omega
    · show x.notAfter * 1000000000 ≤ f.env.finished.nanos + _ - 1
      omega
    · rw [hcache]
      refine cachedCredentials_of_lt (AList.lookup_insert _) ?_ ?_
      · show f.env.finished.nanos ≤ f.env.finished.nanos + _ - 1
        omega
      · rw [CachedCredential.nanos_rotatesAt, certLifetime_of_parseX509 hx, hlife,
          Int.toNat_natCast]
        show f.env.finished.nanos + _ - 1 < f.env.finished.nanos + _
        omega

/-! ## Runs -/

variable (config hostConfig ca peerCid) in
/-- In a run that starts with an empty cache and whose calls are on time, nothing is handed out
expired. A call that is granted a certificate but is not in time hands it out expired, or a later
call does. -/
theorem fetches_unexpired (hlib : lib.Lawful) :
    (∀ (st₀ : AgentState) (fetches : List (Fetch KeyPair)), st₀.cache = ∅ →
      (∀ st f st', Takes (Fetch.step lib config) st₀ fetches st f st' →
        f.AnsweredBy lib hostConfig ca peerCid ∧ f.OnTime lib config hostConfig st) →
      ∀ st f st' creds, Takes (Fetch.step lib config) st₀ fetches st f st' →
        f.run lib config st = .ok creds st' → Unexpired lib creds (f.returnedAt lib st)) ∧
    ∀ (f : Fetch KeyPair) (st st' : AgentState) (creds : X509Credentials),
      f.AnsweredBy lib hostConfig ca peerCid → f.cached lib st = none →
      f.run lib config st = .ok creds st' → f.signing.now.nanos ≤ f.env.finished.nanos →
      ¬f.InTime config hostConfig →
        ∃ t, f.env.finished.nanos ≤ t.nanos ∧ Expired lib creds t ∧
          (t = f.env.finished ∨
            ({ f with env := { f.env with now := t } } : Fetch KeyPair).run lib config st' =
              .ok creds st') := by
  constructor
  · intro st₀ fetches hempty hfetches
    -- every state of the run has a cache that rotates
    have hrotates : ∀ st, Visits (Fetch.step lib config) st₀ fetches st → CacheRotates lib st := by
      refine visits_induction ?_ ?_
      · intro identity entry hentry
        rw [hempty, AList.lookup_empty] at hentry
        cases hentry
      · intro st f st' htakes hst
        obtain ⟨hans, htime⟩ := hfetches st f st' htakes
        obtain rfl := Option.some.inj htakes.step_eq
        exact cacheRotates_step hlib hans htime hst
    intro st f st' creds htakes hrun
    obtain ⟨hans, htime⟩ := hfetches st f st' htakes
    exact unexpired_of_run hlib hans htime (hrotates st htakes.visits) hrun
  · intro f st st' creds hans hcached hrun hclock hlate
    exact exists_expired_of_run hlib hans hcached hrun hclock hlate

/-! ## Outages of the host -/

/-- What a call makes of a cached credential. While less than half of its lifetime has passed it is
handed out, whatever the host does. From then on the call gives credentials exactly when a request
for new ones goes through, and stores them; when it fails the old ones stay in the cache, and are
not handed out either. -/
theorem cached_credentials_withheld_iff (lib : X509Lib KeyPair PublicKey) (env : FetchEnv KeyPair)
    (config : AgentConfig) {identityName : String} {st : AgentState} {cached : CachedCredential}
    (hcached : st.cache.lookup identityName = some cached) :
    (cached.fetchedAt.elapsed env.now < certLifetime lib cached.certPem / 2 * 1000000000 →
      getOrFetchCredentials lib env config identityName st = .ok cached.credentials st) ∧
    (certLifetime lib cached.certPem / 2 * 1000000000 ≤ cached.fetchedAt.elapsed env.now →
      (∀ creds, (∃ st', getOrFetchCredentials lib env config identityName st = .ok creds st') ↔
        ∃ generated resp newListener,
          generateCsr lib env.generated env.csrSeed identityName = .ok generated ∧
          Exchanges env config identityName generated.csrPem resp ∧
          bindListener env.bind config.clientPort 10 0 = .ok newListener ∧
          credentialsOfResponse identityName generated.keyPem resp = .ok creds) ∧
      (∀ creds st', getOrFetchCredentials lib env config identityName st = .ok creds st' →
        st'.cache.lookup identityName =
          some ⟨creds.certPem, creds.keyPem, creds.caCertPem, env.finished⟩) ∧
      ∀ e st', getOrFetchCredentials lib env config identityName st = .error e st' →
        st'.cache = st.cache) := by
  constructor
  · intro hage
    exact getOrFetchCredentials_of_cached
      (cachedCredentials_eq_some_iff.mpr ⟨cached, hcached, rfl, hage⟩)
  -- the entry is not looked at any more: all that follows is the request
  · intro hage
    have hnone := cachedCredentials_of_le hcached hage
    have hrun : ∀ creds st', _ ↔ _ :=
      @getOrFetchCredentials_of_not_cached _ _ lib env config identityName st hnone
    refine ⟨fun creds => ?_, fun creds st' h => ?_, fun e st' => ?_⟩
    · constructor
      · rintro ⟨st', h⟩
        obtain ⟨st₁, hreq, -⟩ := (hrun creds st').mp h
        obtain ⟨generated, resp, newListener, hgen, hexchanges, hbind, hcreds, -⟩ :=
          (requestCertOnDemand_eq_ok_iff _ _ _).mp hreq
        exact ⟨generated, resp, newListener, hgen, hexchanges, hbind, hcreds⟩
      · rintro ⟨generated, resp, newListener, hgen, hexchanges, hbind, hcreds⟩
        exact ⟨_, (hrun creds _).mpr ⟨_, (requestCertOnDemand_eq_ok_iff _ _ _).mpr
          ⟨generated, resp, newListener, hgen, hexchanges, hbind, hcreds, rfl⟩, rfl⟩⟩
    -- the new entry is stored last
    · obtain ⟨st₁, -, rfl⟩ := (hrun creds st').mp h
      exact AList.lookup_insert _
    · exact cache_of_getOrFetchCredentials_error

end

/-! ## Calls on the symbolic library -/

namespace Symbolic

/-- A call for a certificate that is stored `delay` seconds after it was signed. -/
def fetch (ttlMinutes : UInt32) (delay : ℤ) : Fetch ℕ where
  identity := "web"
  env :=
    { generated := .ok 7
      csrSeed := []
      hostCid := 2
      connect := fun _ _ _ => .ok ()
      send := fun _ => .ok ()
      recv := fun req => .ok (answer lib ⟨dateTimeJan1 2025, [], []⟩ (hostConfig ttlMinutes)
        (authority 1 1) 3 req)
      bind := fun _ => .ok ()
      now := ⟨(dateTimeJan1 2025).nanos⟩
      finished := ⟨(dateTimeJan1 2025).nanos + delay * 1000000000⟩ }
  signing := ⟨dateTimeJan1 2025, [], []⟩

/-- A call at the time `now` while the host does not accept connections. -/
def unreachableAt (now : Instant) : FetchEnv ℕ :=
  { (fetch 60 0).env with
    connect := fun _ _ _ => .error "Connection timed out (os error 110)"
    now := now }

/-- A second call, when 1000 seconds have passed since the certificate was signed. -/
def fetchAgain : Fetch ℕ :=
  { fetch 60 1 with
    env := { (fetch 60 1).env with
      now := ⟨(dateTimeJan1 2025).nanos + 1000 * 1000000000⟩
      finished := ⟨(dateTimeJan1 2025).nanos + 1001 * 1000000000⟩ } }

theorem answeredBy_fetch (ttlMinutes : UInt32) (delay : ℤ) :
    (fetch ttlMinutes delay).AnsweredBy lib (hostConfig ttlMinutes) (authority 1 1) 3 := by
  intro req resp hresp
  exact (Except.ok.inj hresp).symm

/-- The call is granted a certificate. -/
theorem exists_run_fetch (ttlMinutes : UInt32) (delay : ℤ) :
    ∃ creds st', (fetch ttlMinutes delay).run lib agentConfig (agentState ∅) = .ok creds st' := by
  obtain ⟨certPem, hanswer⟩ := exists_answer ⟨dateTimeJan1 2025, [], []⟩ 1 1 "vm-a" 3
    ⟨"unix:user:www", ttlMinutes⟩ (by simp : ∀ c ∈ "web".toList, c.toNat < 128) "web" 7
  have hnone : (fetch ttlMinutes delay).cached lib (agentState ∅) = none := rfl
  refine ⟨⟨certPem, lib.serializePem 7, (authority 1 1).certPem⟩, _,
    (getOrFetchCredentials_of_not_cached hnone _ _).mpr ⟨_,
      (requestCertOnDemand_eq_ok_iff _ _ _).mpr
        ⟨⟨lib.serializePem 7, csr "web" 7⟩, .certOk certPem (authority 1 1).certPem, ⟨901⟩, rfl,
          ⟨rfl, rfl, ?_⟩, rfl, rfl, rfl⟩, rfl⟩⟩
  exact congrArg Except.ok hanswer

/-- The call stores a certificate for an hour. -/
theorem exists_stored (delay : ℤ) :
    ∃ creds st, (fetch 60 delay).run lib agentConfig (agentState ∅) = .ok creds st ∧
      st.cache.lookup "web" = some ⟨creds.certPem, creds.keyPem, creds.caCertPem,
        (fetch 60 delay).env.finished⟩ ∧
      certLifetime lib creds.certPem = 3600 := by
  obtain ⟨creds, st, hrun⟩ := exists_run_fetch 60 delay
  obtain ⟨-, hcache, vm, policy, x, hreg, hx, -, hlife⟩ := issued_of_run lib_lawful
    (answeredBy_fetch 60 delay) rfl hrun
  obtain ⟨-, rfl⟩ := (registers_single "vm-a" 3 "web" ⟨"unix:user:www", 60⟩).unique hreg
  refine ⟨creds, st, hrun, ?_, ?_⟩
  · rw [hcache]
    exact AList.lookup_insert _
  · rw [certLifetime_of_parseX509 hx, hlife]
    rfl

end Symbolic

/-- A certificate for an hour that arrives after a second, and is handed out once more from the
cache. -/
theorem fetches_unexpired_twice :
    let st := Symbolic.agentState ∅
    ∃ creds st', (Symbolic.fetch 60 1).run Symbolic.lib Symbolic.agentConfig st = .ok creds st' ∧
      Unexpired Symbolic.lib creds ((Symbolic.fetch 60 1).returnedAt Symbolic.lib st) ∧
      Symbolic.fetchAgain.cached Symbolic.lib st' = some creds ∧
      Unexpired Symbolic.lib creds (Symbolic.fetchAgain.returnedAt Symbolic.lib st') := by
  intro st
  obtain ⟨creds, st', hrun, hentry, hlife⟩ := Symbolic.exists_stored 1
  have hcached : Symbolic.fetchAgain.cached Symbolic.lib st' = some creds := by
    have hage : (Symbolic.fetch 60 1).env.finished.elapsed Symbolic.fetchAgain.env.now <
        3600 / 2 * 1000000000 := by decide
    exact cachedCredentials_eq_some_iff.mpr ⟨_, hentry, rfl, hlife ▸ hage⟩
  have hrun' : Symbolic.fetchAgain.run Symbolic.lib Symbolic.agentConfig st' = .ok creds st' :=
    getOrFetchCredentials_of_cached hcached
  -- the run of the two calls
  have hstep : Fetch.step Symbolic.lib Symbolic.agentConfig st (Symbolic.fetch 60 1) =
      some st' := by
    rw [Fetch.step, hrun, finalState_ok]
  have hstep' : Fetch.step Symbolic.lib Symbolic.agentConfig st' Symbolic.fetchAgain =
      some st' := by
    rw [Fetch.step, hrun', finalState_ok]
  have hunexpired := (fetches_unexpired Symbolic.agentConfig (Symbolic.hostConfig 60)
    (Symbolic.authority 1 1) 3 Symbolic.lib_lawful).1 st [Symbolic.fetch 60 1, Symbolic.fetchAgain]
      rfl ?_
  · refine ⟨creds, st', hrun, hunexpired st _ st' creds ⟨[], ⟨_, rfl⟩, rfl, hstep⟩ hrun, hcached,
      hunexpired st' _ st' creds ⟨[Symbolic.fetch 60 1], List.prefix_refl _, ?_, hstep'⟩ hrun'⟩
    show (Fetch.step _ _ _ _ >>= _) = _
    rw [hstep]
    rfl
  · -- both calls are in time
    intro st f st₁ htaken
    have hmem := htaken.mem
    rw [List.mem_cons, List.mem_singleton] at hmem
    rcases hmem with rfl | rfl <;>
      refine ⟨Symbolic.answeredBy_fetch 60 1, fun _ _ vm policy hreg => ?_⟩ <;>
      obtain ⟨-, rfl⟩ := (registers_single "vm-a" 3 "web" ⟨"unix:user:www", 60⟩).unique hreg <;>
      decide

/-- A certificate for an hour that arrives after an hour. -/
theorem fetch_expired_on_arrival :
    ¬∀ (ttlMinutes : UInt32) (delay : ℤ) (st st' : AgentState) (creds : X509Credentials),
      st.cache = ∅ →
      (Symbolic.fetch ttlMinutes delay).run Symbolic.lib Symbolic.agentConfig st = .ok creds st' →
        Unexpired Symbolic.lib creds
          ((Symbolic.fetch ttlMinutes delay).returnedAt Symbolic.lib st) := by
  intro h
  obtain ⟨creds, st', hrun⟩ := Symbolic.exists_run_fetch 60 3600
  obtain ⟨x', hx', hbefore⟩ := h 60 3600 _ _ _ rfl hrun
  obtain ⟨-, -, vm, policy, x, hreg, hx, hstart, hlife⟩ := issued_of_run Symbolic.lib_lawful
    (Symbolic.answeredBy_fetch 60 3600) rfl hrun
  obtain ⟨-, rfl⟩ := (registers_single "vm-a" 3 "web" ⟨"unix:user:www", 60⟩).unique hreg
  rw [hx] at hx'
  cases hx'
  have hreturned :
      ((Symbolic.fetch 60 3600).returnedAt Symbolic.lib (Symbolic.agentState ∅)).nanos =
        (dateTimeJan1 2025).nanos + 3600 * 1000000000 := rfl
  have hsecs : ((⟨"unix:user:www", 60⟩ : IdentityPolicy).ttlMinutes * 60).toNat = 3600 := by decide
  have hnow : (Symbolic.fetch 60 3600).signing.now.unixTimestamp * 1000000000 =
      (dateTimeJan1 2025).nanos := by decide
  omega

/-- A certificate for an hour of which 1799 seconds have passed, and a host that is not
reachable. -/
theorem cached_credentials_withheld_unreachable :
    ∃ creds st now, st.cache.lookup "web" = some ⟨creds.certPem, creds.keyPem, creds.caCertPem,
        (Symbolic.fetch 60 0).env.finished⟩ ∧
      certLifetime Symbolic.lib creds.certPem = 3600 ∧
      (Symbolic.fetch 60 0).env.finished.elapsed now = 1799 * 1000000000 ∧
      getOrFetchCredentials Symbolic.lib (Symbolic.unreachableAt now) Symbolic.agentConfig "web"
        st = .ok creds st := by
  obtain ⟨creds, st, -, hentry, hlife⟩ := Symbolic.exists_stored 0
  let now : Instant := ⟨(dateTimeJan1 2025).nanos + 1799 * 1000000000⟩
  have hage : (Symbolic.fetch 60 0).env.finished.elapsed (Symbolic.unreachableAt now).now <
      3600 / 2 * 1000000000 := by decide
  exact ⟨creds, st, now, hentry, hlife, by decide,
    (cached_credentials_withheld_iff Symbolic.lib _ Symbolic.agentConfig hentry).1
      (hlife ▸ hage)⟩

/-- Half an hour after a certificate for an hour was stored, and with a host that is not reachable,
the call fails. -/
theorem valid_credentials_withheld :
    ¬∀ (env : FetchEnv ℕ) (st : AgentState) (cached : CachedCredential),
      st.cache.lookup "web" = some cached →
      cached.fetchedAt.elapsed env.now < certLifetime Symbolic.lib cached.certPem * 1000000000 →
        ∃ creds st', getOrFetchCredentials Symbolic.lib env Symbolic.agentConfig "web" st =
          .ok creds st' := by
  intro h
  obtain ⟨creds, st, -, hentry, hlife⟩ := Symbolic.exists_stored 0
  -- a call for the stored entry, while nothing answers
  let now : Instant := ⟨(dateTimeJan1 2025).nanos + 1800 * 1000000000⟩
  have helapsed : (Symbolic.fetch 60 0).env.finished.elapsed now = 1800 * 1000000000 := by decide
  obtain ⟨creds', st', hrun⟩ := h (Symbolic.unreachableAt now) st _ hentry (by
    show (Symbolic.fetch 60 0).env.finished.elapsed now < _
    rw [hlife, helapsed]
    decide)
  have hnone : cachedCredentials Symbolic.lib "web" st.cache now = none := by
    apply cachedCredentials_of_le hentry
    rw [hlife, helapsed]
  obtain ⟨st₁, hreq, -⟩ := (getOrFetchCredentials_of_not_cached hnone creds' st').mp hrun
  obtain ⟨generated, resp, newListener, -, ⟨hconnect, -⟩, -⟩ :=
    (requestCertOnDemand_eq_ok_iff _ _ _).mp hreq
  cases hconnect

end AuthnScope
