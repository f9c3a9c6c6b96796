import AuthnScope.Ca.Signing
import AuthnScope.Proto.Codec
import AuthnScope.Server.Policy

/-!
# The per-connection request handler

`authn-scope-server/src/handler.rs` and the port check of `run_listener`. Each exit of
`handle_inner` either sends its own answer or returns an error that `handle_connection` sends;
`respond` is the decision without the stream.

The handler's map of workloads is built by insertion; the order in which the Rust map iterates
afterwards is arbitrary.

## Main definitions

* `handleInner`, `handleConnection`, `acceptConnection`: the code;
* `respond`: the answer to a request;
* `responseTo`: the response to the bytes of a peer.

## Main results

* `handleInner_eq`: the handler reads a request and answers it by `respond`;
* `output_handleConnection`, `output_acceptConnection`: what a connection gets written;
* `respond_certOk_iff`, `respond_handshakeOk_iff`: when the answers are granted;
* `lookup_buildWorkloads`, `exists_buildWorkloads`: the map of workloads a VM is sent.
-/

namespace AuthnScope

open Framing Outcome

/-- One iteration of the handshake's loop over the registered identities. -/
def insertWorkload (workloads : HashMap WorkloadConfig) :
    (Sigma fun _ : String => IdentityPolicy) → Except String (HashMap WorkloadConfig)
  | ⟨name, policy⟩ =>
    let validitySeconds := policy.ttlMinutes * 60
    match policy.parseSelector with
    | .ok selector =>
      .ok (workloads.insert name { selector := selector, validitySeconds := validitySeconds })
    | .error e => .error s!"failed to parse selector for workload '{name}': {e}"

/-- The loop of the handshake over the registered identities. -/
def buildWorkloads (identities : HashMap IdentityPolicy) :
    Except String (HashMap WorkloadConfig) :=
  identities.entries.foldlM insertWorkload ∅

section

variable {KeyPair PublicKey : Type} (lib : X509Lib KeyPair PublicKey)
  (reqSerde : Serde AgentRequest) (respSerde : Serde AgentResponse) (env : SigningEnv)
  (config : HostConfig) (ca : CertificateAuthority) (peerCid : UInt32)

/-- The message of a request with a wrong version. -/
def versionMessage (version : UInt32) : String :=
  s!"unsupported protocol version {version} (expected {protocolVersion})"

/-- The `Handshake` branch of `handle_inner`. -/
def handleHandshake (version : UInt32) (vmName : String) : StreamM Unit :=
  if version ≠ protocolVersion then sendJson respSerde (.error (versionMessage version))
  else
    match config.vms.lookup vmName with
    | none => sendJson respSerde (.error s!"VM '{vmName}' not registered in host config")
    | some vmEntry =>
      if vmEntry.vmCid ≠ peerCid then
        sendJson respSerde (.error
          s!"CID verification failed: expected {vmEntry.vmCid}, got peer CID {peerCid}")
      else
        match buildWorkloads vmEntry.identities with
        | .error msg => sendJson respSerde (.error msg)
        | .ok workloads => sendJson respSerde (.handshakeOk workloads)

/-- The `CertRequest` branch of `handle_inner`. -/
def handleCertRequest (version : UInt32) (vmName identity csrPem : String) : StreamM Unit :=
  if version ≠ protocolVersion then sendJson respSerde (.error (versionMessage version))
  else
    match resolve config vmName identity with
    | none => sendJson respSerde (.error s!"VM '{vmName}' / identity '{identity}' not authorised")
    | some decision =>
      -- the detailed message is only logged here; the peer gets the short one
      if decision.vmCid ≠ peerCid then throw "CID verification failed"
      else do
        let certPem ← liftResult <| (signCsr lib env ca {
          csrPem := csrPem
          identity := identity
          vmName := decision.vmName
          cid := peerCid
          ip := decision.ip
          validitySeconds := decision.validitySeconds }).mapError fun e =>
            s!"signing failed: {e.toString}"
        sendJson respSerde (.certOk certPem ca.certPem)

/-- Read a request and answer it. -/
def handleInner : StreamM Unit := do
  let req ← recvJson reqSerde
  match req with
  | .handshake version vmName => handleHandshake respSerde config peerCid version vmName
  | .certRequest version vmName identity csrPem =>
    handleCertRequest lib respSerde env config ca peerCid version vmName identity csrPem

/-- Handle a single connection: an error of `handle_inner` is sent to the peer. -/
def handleConnection : StreamM Unit := fun s =>
  match handleInner lib reqSerde respSerde env config ca peerCid s with
  | .ok () s' => .ok () s'
  | .error e s' => ignoreResult (sendJson respSerde (.error e)) s'

/-- What `run_listener` does with an accepted connection. -/
def acceptConnection (peerPort : UInt32) : StreamM Unit :=
  if peerPort ≠ config.peerPort then pure ()
  else handleConnection lib reqSerde respSerde env config ca peerCid

/-! ## The decision -/

/-- The answer to a request; `error` when the handler fails with this text. -/
def respond : AgentRequest → Except String AgentResponse
  | .handshake version vmName =>
    if version ≠ protocolVersion then .ok (.error (versionMessage version))
    else
      match config.vms.lookup vmName with
      | none => .ok (.error s!"VM '{vmName}' not registered in host config")
      | some vmEntry =>
        if vmEntry.vmCid ≠ peerCid then
          .ok (.error s!"CID verification failed: expected {vmEntry.vmCid}, got peer CID {peerCid}")
        else
          match buildWorkloads vmEntry.identities with
          | .error msg => .ok (.error msg)
          | .ok workloads => .ok (.handshakeOk workloads)
  | .certRequest version vmName identity csrPem =>
    if version ≠ protocolVersion then .ok (.error (versionMessage version))
    else
      match resolve config vmName identity with
      | none => .ok (.error s!"VM '{vmName}' / identity '{identity}' not authorised")
      | some decision =>
        if decision.vmCid ≠ peerCid then .error "CID verification failed"
        else
          match signCsr lib env ca ⟨csrPem, identity, decision.vmName, peerCid, decision.ip,
              decision.validitySeconds⟩ with
          | .ok certPem => .ok (.certOk certPem ca.certPem)
          | .error e => .error s!"signing failed: {e.toString}"

/-- The answer that reaches the peer. -/
def answer (req : AgentRequest) : AgentResponse :=
  match respond lib env config ca peerCid req with
  | .ok resp => resp
  | .error e => .error e

/-- The response to what a peer sends: the answer to its first frame, or the error of reading
it. -/
def responseTo (s : Stream) : AgentResponse :=
  match recvJson reqSerde s with
  | .ok req _ => answer lib env config ca peerCid req
  | .error e _ => .error e

variable {lib} {reqSerde} {respSerde} {env} {config} {ca} {peerCid}

/-- The handler reads a request and sends the answer, or fails with the text of a refusal. -/
theorem handleInner_eq :
    handleInner lib reqSerde respSerde env config ca peerCid =
      recvJson reqSerde >>= fun req =>
        match respond lib env config ca peerCid req with
        | .ok resp => sendJson respSerde resp
        | .error e => throw e := by
  unfold handleInner
  -- both sides read the same request; the cases follow the checks of the code
  congr 1
  ext req : 1
  cases req with
  | handshake version vmName =>
    simp only [handleHandshake, respond]
    by_cases hversion : version = protocolVersion
    · cases config.vms.lookup vmName with
      | none => simp [hversion]
      | some vmEntry =>
        by_cases hcid : vmEntry.vmCid = peerCid
        · cases hbuild : buildWorkloads vmEntry.identities <;> simp [hversion, hcid, hbuild]
        · simp [hversion, hcid]
    · simp [hversion]
  | certRequest version vmName identity csrPem =>
    simp only [handleCertRequest, respond]
    by_cases hversion : version = protocolVersion
    · cases resolve config vmName identity with
      | none => simp [hversion]
      | some decision =>
        by_cases hcid : decision.vmCid = peerCid
        · cases hsign : signCsr lib env ca ⟨csrPem, identity, decision.vmName, peerCid, decision.ip,
            decision.validitySeconds⟩ <;> simp [hversion, hcid, hsign, Except.mapError]
        · simp [hversion, hcid]
    · simp [hversion]

/-- A certificate is granted to the authorised peer of a registered pair, if signing succeeds. -/
theorem respond_certOk_iff (req : AgentRequest) (certPem caCertPem : String) :
    respond lib env config ca peerCid req = .ok (.certOk certPem caCertPem) ↔
      ∃ vmName identity csrPem vm policy,
        req = .certRequest protocolVersion vmName identity csrPem ∧
        config.Registers vmName identity vm policy ∧ vm.vmCid = peerCid ∧
        signCsr lib env ca ⟨csrPem, identity, vmName, peerCid, vm.ip, policy.ttlMinutes * 60⟩ =
          .ok certPem ∧ caCertPem = ca.certPem := by
  constructor
  · intro h
    -- a handshake is never answered with a certificate
    cases req with
    | handshake version vmName =>
      simp only [respond] at h
      repeat' split at h
      all_goals cases h
    | certRequest version vmName identity csrPem =>
      simp only [respond] at h
      split at h
      · cases h
      rename_i hversion
      split at h
      · cases h
      rename_i decision hresolve
      obtain ⟨vm, policy, hreg, rfl⟩ := (resolve_eq_some_iff _ _ _ _).mp hresolve
      split at h
      · cases h
      rename_i hcid
      split at h
      · rename_i cert hsign
        cases h
        rw [not_not.mp hversion]
        exact ⟨vmName, identity, csrPem, vm, policy, rfl, hreg, not_not.mp hcid, hsign, rfl⟩
      · cases h
  · rintro ⟨vmName, identity, csrPem, vm, policy, rfl, hreg, rfl, hsign, rfl⟩
    have hresolve := (resolve_eq_some_iff _ _ _ _).mpr ⟨vm, policy, hreg, rfl⟩
    simp only [respond, ne_eq, not_true_eq_false, ↓reduceIte, hresolve, hsign]

/-- A handshake is granted to the registered peer of a VM whose selectors all parse. -/
theorem respond_handshakeOk_iff (req : AgentRequest) (workloads : HashMap WorkloadConfig) :
    respond lib env config ca peerCid req = .ok (.handshakeOk workloads) ↔
      ∃ vmName vm, req = .handshake protocolVersion vmName ∧
        config.vms.lookup vmName = some vm ∧ vm.vmCid = peerCid ∧
        buildWorkloads vm.identities = .ok workloads := by
  constructor
  · intro h
    cases req with
    | handshake version vmName =>
      simp only [respond] at h
      split at h
      · cases h
      rename_i hversion
      split at h
      · cases h
      rename_i vm hvm
      split at h
      · cases h
      rename_i hcid
      split at h
      · cases h
      rename_i hbuild
      cases h
      rw [not_not.mp hversion]
      exact ⟨vmName, vm, rfl, hvm, not_not.mp hcid, hbuild⟩
    | certRequest version vmName identity csrPem =>
      simp only [respond] at h
      repeat' split at h
      all_goals cases h
  · rintro ⟨vmName, vm, rfl, hvm, rfl, hbuild⟩
    simp only [respond, ne_eq, not_true_eq_false, ↓reduceIte, hvm, hbuild]

/-- An answer that is no error is a granted request. -/
theorem answer_eq_iff {req : AgentRequest} {resp : AgentResponse} (h : ∀ e, resp ≠ .error e) :
    answer lib env config ca peerCid req = resp ↔
      respond lib env config ca peerCid req = .ok resp := by
  unfold answer
  rcases respond lib env config ca peerCid req with e | resp'
  · simp [(h e).symm]
  · simp

/-- On a peer that takes everything, an error of the handler is sent as one frame. -/
theorem output_ignoreResult_sendJson {s : Stream} (hroom : s.room = none) {e : String}
    {payload : List UInt8} (hpayload : respSerde.toVec (.error e) = .ok payload) :
    (finalState ((ignoreResult (sendJson respSerde (.error e)) : StreamM Unit) s)).output =
      s.output ++ frame payload := by
  simp only [ignoreResult, sendJson_of_room_none hroom hpayload, finalState_ok]

/-- On a peer that takes everything, a connection gets one frame: the response to what the peer has
sent. -/
theorem output_handleConnection (lib : X509Lib KeyPair PublicKey) (reqSerde : Serde AgentRequest)
    (env : SigningEnv) (config : HostConfig) (ca : CertificateAuthority) (peerCid : UInt32)
    (hvec : ∀ resp, ∃ payload, respSerde.toVec resp = .ok payload) {s : Stream}
    (hroom : s.room = none) :
    ∃ payload, respSerde.toVec (responseTo lib reqSerde env config ca peerCid s) = .ok payload ∧
      (finalState (handleConnection lib reqSerde respSerde env config ca peerCid s)).output =
        s.output ++ frame payload := by
  have hkeeps := recvJson_keeps reqSerde s
  rw [handleConnection, handleInner_eq]
  cases hrecv : recvJson reqSerde s with
  | error e s' =>
    rw [hrecv, finalState_error, Prod.mk.injEq] at hkeeps
    -- no message can be read, and the caller sends the text
    have hresp : responseTo lib reqSerde env config ca peerCid s = .error e := by
      rw [responseTo, hrecv]
    obtain ⟨payload, hpayload⟩ := hvec (.error e)
    refine ⟨payload, hresp ▸ hpayload, ?_⟩
    rw [bind_of_error hrecv, ← hkeeps.1]
    exact output_ignoreResult_sendJson (hkeeps.2.trans hroom) hpayload
  | ok req s' =>
    rw [hrecv, finalState_ok, Prod.mk.injEq] at hkeeps
    have hresp : responseTo lib reqSerde env config ca peerCid s =
        answer lib env config ca peerCid req := by
      rw [responseTo, hrecv]
    rw [hresp, bind_of_ok hrecv, ← hkeeps.1]
    cases hrespond : respond lib env config ca peerCid req with
    | ok resp =>
      -- the handler sends its own answer
      obtain ⟨payload, hpayload⟩ := hvec resp
      refine ⟨payload, by simpa only [answer, hrespond] using hpayload, ?_⟩
      simp only [sendJson_of_room_none (hkeeps.2.trans hroom) hpayload, finalState_ok]
    | error e =>
      -- the handler has failed, and the caller sends the text
      obtain ⟨payload, hpayload⟩ := hvec (.error e)
      exact ⟨payload, by simpa only [answer, hrespond] using hpayload,
        output_ignoreResult_sendJson (hkeeps.2.trans hroom) hpayload⟩

/-- On a peer that takes everything, a connection on the expected port gets one frame: the answer
to its first frame, or an error if that cannot be read. -/
theorem output_acceptConnection (lib : X509Lib KeyPair PublicKey) (reqSerde : Serde AgentRequest)
    (env : SigningEnv) (ca : CertificateAuthority) (peerCid : UInt32)
    (hvec : ∀ resp, ∃ payload, respSerde.toVec resp = .ok payload) {s : Stream}
    (hroom : s.room = none) {peerPort : UInt32} (hport : peerPort = config.peerPort) :
    ∃ resp payload, respSerde.toVec resp = .ok payload ∧
      (finalState
          (acceptConnection lib reqSerde respSerde env config ca peerCid peerPort s)).output =
        s.output ++ frame payload ∧
      ((∃ req rest, FirstFrame reqSerde req s.input rest ∧
          resp = answer lib env config ca peerCid req) ∨
        (¬∃ req rest, FirstFrame reqSerde req s.input rest) ∧ ∃ e, resp = .error e) := by
  obtain ⟨payload, hpayload, hout⟩ :=
    output_handleConnection lib reqSerde env config ca peerCid hvec hroom
  refine ⟨_, payload, hpayload, ?_, ?_⟩
  · rw [acceptConnection, if_neg (not_not.mpr hport)]
    exact hout
  rw [responseTo]
  rcases recvJson_cases reqSerde s with ⟨req, rest, hframe, hrecv⟩ |
    ⟨hnone, e, s', hrecv⟩
  · rw [hrecv]
    exact Or.inl ⟨req, rest, hframe, rfl⟩
  · rw [hrecv]
    exact Or.inr ⟨hnone, e, rfl⟩

end

/-! ## The map of workloads -/

/-- The loop binds each name to its parsed selector and its lifetime; a name that is not among
the entries keeps what it was bound to. -/
theorem lookup_foldlM_insertWorkload {entries : List (Sigma fun _ : String => IdentityPolicy)}
    {acc workloads : HashMap WorkloadConfig} (hnodup : entries.NodupKeys)
    (h : entries.foldlM insertWorkload acc = .ok workloads) (name : String)
    (workload : WorkloadConfig) :
    workloads.lookup name = some workload ↔
      (∃ policy selector, ⟨name, policy⟩ ∈ entries ∧ policy.parseSelector = .ok selector ∧
        workload = ⟨selector, policy.ttlMinutes * 60⟩) ∨
      (name ∉ entries.keys ∧ acc.lookup name = some workload) := by
  induction entries generalizing acc with
  | nil =>
    cases h
    simp
  | cons entry entries ih =>
    obtain ⟨name', policy⟩ := entry
    rw [List.foldlM_cons] at h
    obtain ⟨acc', hacc, h⟩ := except_bind_eq_ok_iff.mp h
    cases hparse : policy.parseSelector with
    | error e => simp [insertWorkload, hparse] at hacc
    | ok selector =>
      simp only [insertWorkload, hparse, Except.ok.injEq] at hacc
      subst hacc
      obtain ⟨hnot, hnodup⟩ := List.nodupKeys_cons.mp hnodup
      rw [ih hnodup h]
      -- keys are distinct, so the entry that was inserted is not overwritten later
      by_cases hname : name = name'
      · subst hname
        have hmem : ∀ p : IdentityPolicy, (⟨name, p⟩ : Sigma fun _ : String => IdentityPolicy) ∉
            entries := by
          intro p hp
          have hkey := List.mem_keys_of_mem hp
          exact hnot hkey
        simp [hmem, hnot, hparse, eq_comm]
      · simp [hname, AList.lookup_insert_ne hname]

/-- The handshake's map binds each registered name to its parsed selector and its lifetime. -/
theorem lookup_buildWorkloads {identities : HashMap IdentityPolicy}
    {workloads : HashMap WorkloadConfig} (h : buildWorkloads identities = .ok workloads)
    (name : String) (workload : WorkloadConfig) :
    workloads.lookup name = some workload ↔
      ∃ policy selector, identities.lookup name = some policy ∧
        policy.parseSelector = .ok selector ∧
        workload = ⟨selector, policy.ttlMinutes * 60⟩ := by
  rw [lookup_foldlM_insertWorkload identities.nodupKeys h]
  simp [HashMap.lookup_eq_some_iff]

/-- The loop runs through when every selector parses. -/
theorem exists_foldlM_insertWorkload {entries : List (Sigma fun _ : String => IdentityPolicy)}
    (acc : HashMap WorkloadConfig)
    (h : ∀ entry ∈ entries, ∃ selector, entry.2.parseSelector = .ok selector) :
    ∃ workloads, entries.foldlM insertWorkload acc = .ok workloads := by
  induction entries generalizing acc with
  | nil => exact ⟨acc, rfl⟩
  | cons entry entries ih =>
    obtain ⟨selector, hsel⟩ := h entry List.mem_cons_self
    obtain ⟨workloads, hrest⟩ :=
      ih (acc.insert entry.1 ⟨selector, entry.2.ttlMinutes * 60⟩)
        fun e he => h e (List.mem_cons_of_mem _ he)
    refine ⟨workloads, ?_⟩
    rw [List.foldlM_cons, except_bind_eq_ok_iff]
    exact ⟨_, by simp only [insertWorkload, hsel], hrest⟩

/-- The map can be built when every selector parses. -/
theorem exists_buildWorkloads {identities : HashMap IdentityPolicy}
    (h : ∀ name policy, identities.lookup name = some policy →
      ∃ selector, policy.parseSelector = .ok selector) :
    ∃ workloads, buildWorkloads identities = .ok workloads :=
  exists_foldlM_insertWorkload ∅ fun entry hentry =>
    h entry.1 entry.2 ((HashMap.lookup_eq_some_iff _ _ _).mpr hentry)

end AuthnScope
