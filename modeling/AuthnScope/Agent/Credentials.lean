import AuthnScope.Lib.Outcome
import AuthnScope.Pki.X509
import AuthnScope.Proto.Wire

/-!
# Fetching and caching credentials

The part of `authn-scope-agent/src/client.rs` behind a fetch: `get_cert_validity_seconds`,
`request_cert_on_demand` and `get_or_fetch_credentials`, with `csr.rs` and the agent's state. A
call runs on the state alone here, as the cache lock is held from its start to its end; the
interleaving of calls is in `Agent.WorkloadApi`.

What the outside answers during a call is its `FetchEnv`: the generated key, the results of
connecting, sending and receiving, the results of binding the listener, and the clock.

## Main definitions

* `generateCsr`, `getCertValiditySeconds`, `bindListener`;
* `requestCertOnDemand`, `getOrFetchCredentials`: the code;
* `cachedCredentials`: the lookup in the cache.

## Main results

* `cachedCredentials_eq_some_iff`: when an entry of the cache is handed out;
* `requestCertOnDemand_cases`: the ways a request can go;
* `requestCertOnDemand_eq_ok_iff`: when a request succeeds, and what it leaves behind;
* `listener_requestCertOnDemand_isSome_iff`: when the client port is protected again after it;
* `getOrFetchCredentials_of_cached`, `getOrFetchCredentials_of_not_cached`,
  `cache_of_getOrFetchCredentials_error`, `lookup_of_getOrFetchCredentials_ok`: the ways a call
  can go.
-/

namespace AuthnScope

open Outcome

/-- `std::time::Instant`, in nanoseconds of the clock the certificates are dated by. -/
structure Instant where
  nanos : ℤ
  deriving DecidableEq, Repr

/-- `Instant::elapsed` at the time `now`, in nanoseconds; it does not go below zero. -/
def Instant.elapsed (since now : Instant) : ℕ := (now.nanos - since.nanos).toNat

/-- Guest agent configuration. -/
structure AgentConfig where
  vmName : String
  serverPort : UInt32
  clientPort : UInt32
  workloadApiSocket : Option String
  deriving DecidableEq, Repr

/-- A key, its certificate and the CA certificate. -/
structure X509Credentials where
  certPem : String
  keyPem : String
  caCertPem : String
  deriving DecidableEq, Repr

/-- An entry of the agent's cache. -/
structure CachedCredential where
  certPem : String
  keyPem : String
  caCertPem : String
  fetchedAt : Instant
  deriving DecidableEq, Repr

/-- The credentials of a cache entry. -/
def CachedCredential.credentials (cached : CachedCredential) : X509Credentials :=
  ⟨cached.certPem, cached.keyPem, cached.caCertPem⟩

/-- A listener bound to a vsock port. -/
structure VsockListener where
  port : UInt32
  deriving DecidableEq, Repr

/-- What the agent's mutexes protect; `dial_mutex` protects nothing but the order of dials. -/
structure AgentState where
  cache : HashMap CachedCredential
  listener : Option VsockListener
  workloads : HashMap WorkloadConfig

/-- A freshly-generated keypair plus the PEM CSR ready to send to the CA. -/
structure GeneratedCsr where
  keyPem : String
  csrPem : String
  deriving DecidableEq, Repr

/-- `anyhow`'s `context`: the text replaces that of the error below it. -/
def withContext {α : Type} (text : String) (r : Except String α) : Except String α :=
  r.mapError fun _ => text

section

variable {KeyPair PublicKey : Type} (lib : X509Lib KeyPair PublicKey)

/-- Generate a keypair and build a PKCS#10 CSR for `identityName`. -/
def generateCsr (generated : Except String KeyPair) (seed : List UInt8) (identityName : String) :
    Except String GeneratedCsr := do
  let key ← generated
  let params := { CertificateParams.default with
    distinguishedName := [
      (.commonName, ⟨.utf8String, identityName⟩),
      (.organizationName, ⟨.utf8String, "authn-scope"⟩)] }
  let csrPem ← lib.serializeRequest params key seed
  return { keyPem := lib.serializePem key, csrPem := csrPem }

/-- The lifetime a certificate states, in seconds; zero when it ends before it starts. -/
def getCertValiditySeconds (certPem : String) : Except String ℕ := do
  let pem ← (lib.parseX509Pem certPem).mapError fun e => s!"Failed to parse PEM: {e}"
  let x509 ← (lib.parseX509Certificate pem).mapError fun e => s!"Failed to parse X.509: {e}"
  if x509.notAfter > x509.notBefore then .ok (x509.notAfter - x509.notBefore).toNat
  else .ok 0

/-- Bind a listener, trying again after a failure as often as `retries` says; `attempt` numbers
the attempts. -/
def bindListener (bind : ℕ → Except String Unit) (port : UInt32) :
    (retries attempt : ℕ) → Except String VsockListener
  | 0, attempt => (bind attempt).map fun _ => ⟨port⟩
  | retries + 1, attempt =>
    match bind attempt with
    | .ok () => .ok ⟨port⟩
    | .error _ => bindListener bind port retries (attempt + 1)

/-- The request for an identity's certificate. -/
def certRequest (config : AgentConfig) (identityName csrPem : String) : AgentRequest :=
  .certRequest protocolVersion config.vmName identityName csrPem

/-- The credentials a response gives for the generated key. -/
def credentialsOfResponse (identityName keyPem : String) :
    AgentResponse → Except String X509Credentials
  | .certOk certPem caCertPem => .ok ⟨certPem, keyPem, caCertPem⟩
  | .error message => .error s!"Server rejected request for '{identityName}': {message}"
  | .handshakeOk _ => .error "Unexpected response from host CA"

/-- What the outside answers during one call. `connect` is the result of
`connect_with_local_port` for a host CID, a server port and a local port, `recv` the response to a
request, `bind n` the `n`-th attempt to bind the listener; `now` is when the cache is looked at,
`finished` when the credential is stored. -/
structure FetchEnv (KeyPair : Type) where
  generated : Except String KeyPair
  csrSeed : List UInt8
  hostCid : UInt32
  connect : UInt32 → UInt32 → UInt32 → Except String Unit
  send : AgentRequest → Except String Unit
  recv : AgentRequest → Except String AgentResponse
  bind : ℕ → Except String Unit
  now : Instant
  finished : Instant

/-- Computations of the agent. -/
abbrev AgentM := EStateM String AgentState

variable (env : FetchEnv KeyPair) (config : AgentConfig) (identityName : String)

/-- Request a new certificate on demand, releasing and re-acquiring the client port. -/
def requestCertOnDemand : AgentM X509Credentials := do
  let generated ← liftResult <| withContext s!"CSR generation for identity '{identityName}'" <|
    generateCsr lib env.generated env.csrSeed identityName
  -- drop the listener to release the port
  modify fun st => { st with listener := none }
  liftResult <| withContext "vsock connect on demand failed" <|
    env.connect env.hostCid config.serverPort config.clientPort
  let req := certRequest config identityName generated.csrPem
  liftResult <| withContext "sending CertRequest" <| env.send req
  let resp ← liftResult <| withContext "receiving AgentResponse" <| env.recv req
  -- only from here on the port is protected again
  let newListener ← liftResult <|
    withContext "failed to re-bind port 901 listener after on-demand dial" <|
      bindListener env.bind config.clientPort 10 0
  modify fun st => { st with listener := some newListener }
  liftResult <| credentialsOfResponse identityName generated.keyPem resp

/-- The cached credentials of an identity, while they are younger than half the lifetime their
certificate states; a certificate that does not parse counts as living for 600 seconds. -/
def cachedCredentials (cache : HashMap CachedCredential) (now : Instant) :
    Option X509Credentials :=
  match cache.lookup identityName with
  | none => none
  | some cached =>
    let ttlSecs := match getCertValiditySeconds lib cached.certPem with
      | .ok secs => secs
      | .error _ => 600
    -- half of the lifetime, in whole seconds
    let rotationThreshold := ttlSecs / 2
    if cached.fetchedAt.elapsed now < rotationThreshold * 1000000000 then
      some cached.credentials
    else none

/-- Store the credentials of an identity. -/
def AgentState.store (st : AgentState) (identityName : String) (creds : X509Credentials)
    (now : Instant) : AgentState :=
  { st with
    cache := st.cache.insert identityName ⟨creds.certPem, creds.keyPem, creds.caCertPem, now⟩ }

/-- Hand out cached credentials, or request new ones and cache them. -/
def getOrFetchCredentials : AgentM X509Credentials := do
  let st ← get
  match cachedCredentials lib identityName st.cache env.now with
  | some creds => return creds
  | none =>
    let creds ← requestCertOnDemand lib env config identityName
    modify fun st => st.store identityName creds env.finished
    return creds

end

section

variable {KeyPair PublicKey : Type} {lib : X509Lib KeyPair PublicKey}

/-! ## The request of the agent -/

/-- The CA reads the request with the subject the agent has written. -/
theorem csrFromPem_of_generateCsr (hop : lib.Operational) {generated : Except String KeyPair}
    {seed : List UInt8} {identityName : String} {csr : GeneratedCsr}
    (h : generateCsr lib generated seed identityName = .ok csr) :
    ∃ read, lib.csrFromPem csr.csrPem = .ok read ∧ read.params.distinguishedName =
      [(.commonName, ⟨.utf8String, identityName⟩),
        (.organizationName, ⟨.utf8String, "authn-scope"⟩)] := by
  unfold generateCsr at h
  obtain ⟨key, -, h⟩ := except_bind_eq_ok_iff.mp h
  obtain ⟨csrPem, hcsr, h⟩ := except_bind_eq_ok_iff.mp h
  cases h
  exact hop.csrFromPem_serializeRequest _ _ _ _ hcsr rfl

/-! ## The lifetime a certificate states -/

/-- The agent reads the difference of the two timestamps. -/
theorem getCertValiditySeconds_of_parseX509 {certPem : String} {x : X509Certificate PublicKey}
    (h : lib.parseX509 certPem = .ok x) :
    getCertValiditySeconds lib certPem = .ok (x.notAfter - x.notBefore).toNat := by
  obtain ⟨pem, hpem, hx⟩ := except_bind_eq_ok_iff.mp h
  -- the errors are renamed, the values are not
  rw [getCertValiditySeconds, hpem]
  show (((lib.parseX509Certificate pem).mapError _) >>= _) = _
  rw [hx]
  show (if x.notAfter > x.notBefore then _ else _) = _
  split
  · rfl
  · rw [Int.toNat_of_nonpos (by omega)]

/-- A certificate that cannot be parsed has no lifetime for the agent either. -/
theorem getCertValiditySeconds_of_parseX509_error {certPem e : String}
    (h : lib.parseX509 certPem = .error e) :
    ∃ e', getCertValiditySeconds lib certPem = .error e' := by
  rcases hpem : lib.parseX509Pem certPem with e' | pem
  · exact ⟨_, by rw [getCertValiditySeconds, hpem]; rfl⟩
  · -- the contents of the PEM block are what does not parse
    have hx : lib.parseX509Certificate pem = .error e := by
      rwa [X509Lib.parseX509, hpem] at h
    refine ⟨s!"Failed to parse X.509: {e}", ?_⟩
    rw [getCertValiditySeconds, hpem]
    show ((lib.parseX509Certificate pem).mapError _ >>= _) = _
    rw [hx]
    rfl

/-! ## The listener -/

/-- Binding succeeds when an attempt does, and gives a listener on the port. -/
theorem bindListener_of_bind {bind : ℕ → Except String Unit} (h : ∀ n, bind n = .ok ())
    (port : UInt32) (retries attempt : ℕ) :
    bindListener bind port retries attempt = .ok ⟨port⟩ := by
  cases retries with
  | zero => rw [bindListener, h]; rfl
  | succ retries => rw [bindListener, h]

@[simp]
theorem withContext_ok {α : Type} (text : String) (a : α) :
    withContext text (.ok a : Except String α) = .ok a := rfl

@[simp]
theorem withContext_error {α : Type} (text e : String) :
    withContext text (.error e : Except String α) = .error text := rfl

variable {env : FetchEnv KeyPair} {config : AgentConfig} {identityName : String}

/-- The exchange with the host goes through: a connection is made, the request is sent, and a
response is received. -/
def Exchanges (env : FetchEnv KeyPair) (config : AgentConfig) (identityName csrPem : String)
    (resp : AgentResponse) : Prop :=
  env.connect env.hostCid config.serverPort config.clientPort = .ok () ∧
    env.send (certRequest config identityName csrPem) = .ok () ∧
    env.recv (certRequest config identityName csrPem) = .ok resp

theorem Exchanges.unique {csrPem : String} {resp resp' : AgentResponse}
    (h : Exchanges env config identityName csrPem resp)
    (h' : Exchanges env config identityName csrPem resp') : resp = resp' :=
  Except.ok.inj (h.2.2.symm.trans h'.2.2)

/-- The ways a request can go. Without a CSR nothing happens. An exchange that fails leaves the
listener dropped. And after one that goes through it is bound again before the response counts. -/
theorem requestCertOnDemand_cases (lib : X509Lib KeyPair PublicKey) (env : FetchEnv KeyPair)
    (config : AgentConfig) (identityName : String) (st : AgentState) :
    (∃ e e', generateCsr lib env.generated env.csrSeed identityName = .error e ∧
      requestCertOnDemand lib env config identityName st = .error e' st) ∨
    ∃ generated, generateCsr lib env.generated env.csrSeed identityName = .ok generated ∧
      ((∃ e, (¬∃ resp, Exchanges env config identityName generated.csrPem resp) ∧
        requestCertOnDemand lib env config identityName st =
          .error e { st with listener := none }) ∨
      ∃ resp, Exchanges env config identityName generated.csrPem resp ∧
        requestCertOnDemand lib env config identityName st =
          (liftResult (withContext "failed to re-bind port 901 listener after on-demand dial"
            (bindListener env.bind config.clientPort 10 0)) >>= fun newListener =>
              (modify fun st => { st with listener := some newListener }) >>= fun _ =>
                liftResult (credentialsOfResponse identityName generated.keyPem resp))
            { st with listener := none }) := by
  unfold requestCertOnDemand Exchanges
  -- each step that fails ends the call, so the cases follow the code
  rcases hgen : generateCsr lib env.generated env.csrSeed identityName with e | generated
  · exact Or.inl ⟨e, _, rfl, rfl⟩
  refine Or.inr ⟨generated, rfl, ?_⟩
  rw [withContext_ok, liftResult_ok_bind, bind_of_ok (modify_run _ _)]
  rcases hconnect : env.connect env.hostCid config.serverPort config.clientPort with e | ⟨⟨⟩⟩
  · exact Or.inl ⟨_, by simp, rfl⟩
  rcases hsend : env.send (certRequest config identityName generated.csrPem) with e | ⟨⟨⟩⟩
  · exact Or.inl ⟨_, by simp, by simp [hsend]; rfl⟩
  rcases hrecv : env.recv (certRequest config identityName generated.csrPem) with e | resp
  · exact Or.inl ⟨_, by simp, by simp [hsend, hrecv]; rfl⟩
  · exact Or.inr ⟨resp, by simp, by simp [hsend, hrecv]⟩

/-- A request succeeds when the CSR is generated, the exchange goes through, the listener is bound
again and the response grants a certificate; it changes the listener only. -/
theorem requestCertOnDemand_eq_ok_iff (st st' : AgentState) (creds : X509Credentials) :
    requestCertOnDemand lib env config identityName st = .ok creds st' ↔
      ∃ generated resp newListener,
        generateCsr lib env.generated env.csrSeed identityName = .ok generated ∧
        Exchanges env config identityName generated.csrPem resp ∧
        bindListener env.bind config.clientPort 10 0 = .ok newListener ∧
        credentialsOfResponse identityName generated.keyPem resp = .ok creds ∧
        st' = { st with listener := some newListener } := by
  rcases requestCertOnDemand_cases lib env config identityName st with
    ⟨e, e', hgen, hrun⟩ | ⟨generated, hgen, ⟨e, hfails, hrun⟩ | ⟨resp, hexchanges, hrun⟩⟩
  · simp [hrun, hgen]
  · rw [hrun]
    apply iff_of_false (by simp)
    rintro ⟨generated', resp, newListener, hgen', hexchanges, -⟩
    rw [hgen] at hgen'
    cases hgen'
    exact hfails ⟨resp, hexchanges⟩
  · have hresp : ∀ resp', Exchanges env config identityName generated.csrPem resp' ↔
        resp' = resp := fun resp' => ⟨fun h => h.unique hexchanges, fun h => h ▸ hexchanges⟩
    rw [hrun]
    rcases hbind : bindListener env.bind config.clientPort 10 0 with e | newListener
    · simp
    rcases hcreds : credentialsOfResponse identityName generated.keyPem resp with e | creds'
    all_goals
      simp [hgen, hresp, hcreds, bind_of_ok (modify_run _ _), eq_comm]

/-- When binding succeeds, the listener slot is filled again after a call exactly when the call
ended before it emptied the slot or came as far as binding. -/
theorem listener_requestCertOnDemand_isSome_iff (hbind : ∀ n, env.bind n = .ok ())
    {st : AgentState} (hst : st.listener.isSome) :
    (finalState (requestCertOnDemand lib env config identityName st)).listener.isSome ↔
      ∀ generated, generateCsr lib env.generated env.csrSeed identityName = .ok generated →
        ∃ resp, Exchanges env config identityName generated.csrPem resp := by
  rcases requestCertOnDemand_cases lib env config identityName st with
    ⟨e, e', hgen, hrun⟩ | ⟨generated, hgen, ⟨e, hfails, hrun⟩ | ⟨resp, hexchanges, hrun⟩⟩
  · simpa [hrun, hgen] using hst
  · rw [hrun]
    exact iff_of_false (by simp) fun h => hfails (h generated hgen)
  · -- the slot is filled, whatever the response says
    rw [hrun, bindListener_of_bind hbind]
    refine iff_of_true ?_ fun generated' hgen' => ?_
    · rcases credentialsOfResponse identityName generated.keyPem resp with e | creds
      all_goals
        simp [bind_of_ok (modify_run _ _)]
    · rw [hgen] at hgen'
      cases hgen'
      exact ⟨resp, hexchanges⟩

/-- A request leaves the cache alone, however it ends. -/
theorem requestCertOnDemand_keeps_cache (lib : X509Lib KeyPair PublicKey) (env : FetchEnv KeyPair)
    (config : AgentConfig) (identityName : String) :
    Keeps AgentState.cache (requestCertOnDemand lib env config identityName) := by
  unfold requestCertOnDemand
  refine (Keeps.liftResult _).bind fun generated => ?_
  refine (Keeps.modify (by intro st; rfl)).bind fun _ => ?_
  refine (Keeps.liftResult _).bind fun _ => ?_
  refine (Keeps.liftResult _).bind fun _ => ?_
  refine (Keeps.liftResult _).bind fun resp => ?_
  refine (Keeps.liftResult _).bind fun newListener => ?_
  refine (Keeps.modify (by intro st; rfl)).bind fun _ => ?_
  exact Keeps.liftResult _

/-! ## The cache -/

/-- The lifetime of a certificate in seconds, from its start to its end, and 600 if it does not
parse. -/
def certLifetime (lib : X509Lib KeyPair PublicKey) (certPem : String) : ℕ :=
  match lib.parseX509 certPem with
  | .ok x => (x.notAfter - x.notBefore).toNat
  | .error _ => 600

/-- The seconds the agent counts for an entry are the lifetime of its certificate. -/
theorem getCertValiditySeconds_eq (certPem : String) :
    (match getCertValiditySeconds lib certPem with
      | .ok secs => secs
      | .error _ => 600) = certLifetime lib certPem := by
  rcases hx : lib.parseX509 certPem with e | x
  · obtain ⟨e', he'⟩ := getCertValiditySeconds_of_parseX509_error hx
    simp only [he', certLifetime, hx]
  · simp only [getCertValiditySeconds_of_parseX509 hx, certLifetime, hx]

/-- When an entry is to be replaced: half of the lifetime after it was stored. -/
def CachedCredential.rotatesAt (lib : X509Lib KeyPair PublicKey) (cached : CachedCredential) :
    Instant :=
  ⟨cached.fetchedAt.nanos + (certLifetime lib cached.certPem / 2 : ℕ) * 1000000000⟩

theorem CachedCredential.nanos_rotatesAt (lib : X509Lib KeyPair PublicKey)
    (cached : CachedCredential) : (cached.rotatesAt lib).nanos =
      cached.fetchedAt.nanos + (certLifetime lib cached.certPem / 2 : ℕ) * 1000000000 := rfl

/-- An entry is handed out while it is younger than half of the lifetime. -/
theorem cachedCredentials_eq_some_iff {cache : HashMap CachedCredential} {now : Instant}
    {creds : X509Credentials} :
    cachedCredentials lib identityName cache now = some creds ↔
      ∃ cached, cache.lookup identityName = some cached ∧ creds = cached.credentials ∧
        cached.fetchedAt.elapsed now < certLifetime lib cached.certPem / 2 * 1000000000 := by
  unfold cachedCredentials
  rcases hcached : cache.lookup identityName with _ | cached
  · simp
  · simp only [getCertValiditySeconds_eq]
    simp [eq_comm, and_comm]

/-- A certificate that parses counts with the lifetime it states. -/
theorem certLifetime_of_parseX509 {certPem : String} {x : X509Certificate PublicKey}
    (h : lib.parseX509 certPem = .ok x) :
    certLifetime lib certPem = (x.notAfter - x.notBefore).toNat := by
  rw [certLifetime, h]

/-- An entry is handed out before half of its lifetime has passed. -/
theorem cachedCredentials_of_lt {cache : HashMap CachedCredential} {now : Instant}
    {cached : CachedCredential} (hcached : cache.lookup identityName = some cached)
    (hstored : cached.fetchedAt.nanos ≤ now.nanos)
    (hnow : now.nanos < (cached.rotatesAt lib).nanos) :
    cachedCredentials lib identityName cache now = some cached.credentials := by
  refine cachedCredentials_eq_some_iff.mpr ⟨cached, hcached, rfl, ?_⟩
  rw [CachedCredential.nanos_rotatesAt] at hnow
  rw [Instant.elapsed]
  omega

/-- An entry is not handed out when half of its lifetime has passed. -/
theorem lt_rotatesAt_of_cachedCredentials {cache : HashMap CachedCredential} {now : Instant}
    {cached : CachedCredential} (hcached : cache.lookup identityName = some cached)
    {creds : X509Credentials}
    (h : cachedCredentials lib identityName cache now = some creds) :
    now.nanos < (cached.rotatesAt lib).nanos := by
  obtain ⟨cached', hcached', -, hage⟩ := cachedCredentials_eq_some_iff.mp h
  rw [hcached] at hcached'
  cases hcached'
  rw [Instant.elapsed] at hage
  rw [CachedCredential.nanos_rotatesAt]
  omega

/-- From half of its lifetime on an entry is not handed out. -/
theorem cachedCredentials_of_le {cache : HashMap CachedCredential} {now : Instant}
    {cached : CachedCredential} (hcached : cache.lookup identityName = some cached)
    (hage : certLifetime lib cached.certPem / 2 * 1000000000 ≤ cached.fetchedAt.elapsed now) :
    cachedCredentials lib identityName cache now = none := by
  rw [Option.eq_none_iff_forall_not_mem]
  intro creds hcreds
  obtain ⟨cached', hcached', -, hyoung⟩ := cachedCredentials_eq_some_iff.mp hcreds
  rw [hcached] at hcached'
  cases hcached'
  exact absurd hyoung (Nat.not_lt.mpr hage)

/-- A call with fresh cached credentials hands them out and changes nothing. -/
theorem getOrFetchCredentials_of_cached {st : AgentState} {creds : X509Credentials}
    (h : cachedCredentials lib identityName st.cache env.now = some creds) :
    getOrFetchCredentials lib env config identityName st = .ok creds st := by
  rw [getOrFetchCredentials, bind_of_ok (get_run st)]
  simp only [h, pure_run]

/-- A call without fresh cached credentials requests new ones; those it hands out are stored. -/
theorem getOrFetchCredentials_of_not_cached {st : AgentState}
    (h : cachedCredentials lib identityName st.cache env.now = none) (creds : X509Credentials)
    (st' : AgentState) :
    getOrFetchCredentials lib env config identityName st = .ok creds st' ↔
      ∃ st₁, requestCertOnDemand lib env config identityName st = .ok creds st₁ ∧
        st' = st₁.store identityName creds env.finished := by
  rw [getOrFetchCredentials, bind_of_ok (get_run st)]
  simp only [h]
  constructor
  · intro hrun
    -- the request has succeeded, and storing cannot fail
    obtain ⟨creds', st₁, hreq, hrun⟩ := bind_eq_ok_iff.mp hrun
    rw [bind_of_ok (modify_run _ _), pure_run] at hrun
    cases hrun
    exact ⟨st₁, hreq, rfl⟩
  · rintro ⟨st₁, hreq, rfl⟩
    rw [bind_of_ok hreq, bind_of_ok (modify_run _ _), pure_run]

/-- A call that fails leaves the cache as it was. -/
theorem cache_of_getOrFetchCredentials_error {st st' : AgentState} {e : String}
    (h : getOrFetchCredentials lib env config identityName st = .error e st') :
    st'.cache = st.cache := by
  -- only a call that has to ask the host can fail
  rcases hcached : cachedCredentials lib identityName st.cache env.now with _ | creds
  · rw [getOrFetchCredentials, bind_of_ok (get_run st)] at h
    simp only [hcached] at h
    rcases bind_eq_error_iff.mp h with hreq | ⟨creds, st₁, -, hstore⟩
    · have hkeeps := requestCertOnDemand_keeps_cache lib env config identityName st
      rw [hreq] at hkeeps
      exact hkeeps
    · rw [bind_of_ok (modify_run _ _), pure_run] at hstore
      cases hstore
  · rw [getOrFetchCredentials_of_cached hcached] at h
    cases h

/-- A call that succeeds keeps the entries of the other identities. -/
theorem lookup_of_getOrFetchCredentials_ok {st st' : AgentState} {creds : X509Credentials}
    (h : getOrFetchCredentials lib env config identityName st = .ok creds st') {other : String}
    (hother : other ≠ identityName) : st'.cache.lookup other = st.cache.lookup other := by
  rcases hcached : cachedCredentials lib identityName st.cache env.now with _ | cached
  · obtain ⟨st₁, hreq, rfl⟩ := (getOrFetchCredentials_of_not_cached hcached creds st').mp h
    have hkeeps := requestCertOnDemand_keeps_cache lib env config identityName st
    rw [hreq] at hkeeps
    change st₁.cache = st.cache at hkeeps
    rw [AgentState.store, AList.lookup_insert_ne hother, hkeeps]
  · rw [getOrFetchCredentials_of_cached hcached] at h
    cases h
    rfl

end

end AuthnScope
