import AuthnScope.Pki.Symbolic
import AuthnScope.Proto.Json
import AuthnScope.Server.Handler

/-!
# The decision law of the server

Which of its three responses the server gives, for every byte stream a peer can send. A request is
granted or refused on the first frame alone, and every connection on the expected port gets exactly
one response.

## Main definitions

* `CertGranted`, `HandshakeGranted`: the first frame is a request that is to be granted.

## Main results

* `acceptConnection_decision`: the law.
-/

namespace AuthnScope

open Framing Outcome

section

variable {KeyPair PublicKey : Type} (lib : X509Lib KeyPair PublicKey)
  (reqSerde : Serde AgentRequest) (env : SigningEnv) (config : HostConfig)
  (ca : CertificateAuthority) (peerCid : UInt32)

/-- The bytes start with a certificate request of the right version for a registered pair whose
VM has the peer's CID, and its CSR can be signed. -/
def CertGranted (bytes : List UInt8) : Prop :=
  ∃ vmName identity csrPem rest vm policy certPem,
    FirstFrame reqSerde (.certRequest protocolVersion vmName identity csrPem) bytes rest ∧
    config.Registers vmName identity vm policy ∧ vm.vmCid = peerCid ∧
    signCsr lib env ca ⟨csrPem, identity, vmName, peerCid, vm.ip, policy.ttlMinutes * 60⟩ =
      .ok certPem

/-- The bytes start with a handshake of the right version for a registered VM with the peer's
CID. -/
def HandshakeGranted (bytes : List UInt8) : Prop :=
  ∃ vmName rest vm, FirstFrame reqSerde (.handshake protocolVersion vmName) bytes rest ∧
    config.vms.lookup vmName = some vm ∧ vm.vmCid = peerCid

variable {lib} {reqSerde} {env} {config} {ca} {peerCid}

/-- The answer to the first frame is a certificate exactly when one is to be granted. -/
theorem answer_certOk_iff {req : AgentRequest} {bytes rest : List UInt8}
    (hframe : FirstFrame reqSerde req bytes rest) :
    (∃ certPem caCertPem, answer lib env config ca peerCid req = .certOk certPem caCertPem) ↔
      CertGranted lib reqSerde env config ca peerCid bytes := by
  have hanswer : ∀ certPem caCertPem,
      answer lib env config ca peerCid req = .certOk certPem caCertPem ↔
        respond lib env config ca peerCid req = .ok (.certOk certPem caCertPem) :=
    fun _ _ => answer_eq_iff (by simp)
  simp only [hanswer, respond_certOk_iff]
  constructor
  · rintro ⟨certPem, _, vmName, identity, csrPem, vm, policy, rfl, hreg, hcid, hsign, -⟩
    exact ⟨vmName, identity, csrPem, rest, vm, policy, certPem, hframe, hreg, hcid, hsign⟩
  · rintro ⟨vmName, identity, csrPem, rest', vm, policy, certPem, hframe', hreg, hcid, hsign⟩
    exact ⟨certPem, ca.certPem, vmName, identity, csrPem, vm, policy, (hframe.unique hframe').1,
      hreg, hcid, hsign, rfl⟩

/-- The answer to the first frame is a map of workloads exactly when one is to be granted. -/
theorem answer_handshakeOk_iff (hacc : config.Accepted) {req : AgentRequest}
    {bytes rest : List UInt8} (hframe : FirstFrame reqSerde req bytes rest) :
    (∃ workloads, answer lib env config ca peerCid req = .handshakeOk workloads) ↔
      HandshakeGranted reqSerde config peerCid bytes := by
  have hanswer : ∀ workloads, answer lib env config ca peerCid req = .handshakeOk workloads ↔
      respond lib env config ca peerCid req = .ok (.handshakeOk workloads) :=
    fun _ => answer_eq_iff (by simp)
  simp only [hanswer, respond_handshakeOk_iff]
  constructor
  · rintro ⟨workloads, vmName, vm, rfl, hvm, hcid, -⟩
    exact ⟨vmName, rest, vm, hframe, hvm, hcid⟩
  · rintro ⟨vmName, rest', vm, hframe', hvm, hcid⟩
    -- an accepted configuration has no selector that fails here
    have hparse := ((accepted_iff config).mp hacc).2 vmName vm hvm
    obtain ⟨workloads, hbuild⟩ := exists_buildWorkloads hparse
    exact ⟨workloads, vmName, vm, (hframe.unique hframe').1, hvm, hcid, hbuild⟩

/-- A connection on another port gets nothing. A connection on the expected port gets exactly one
frame: a certificate or a map of workloads when the first frame asks for it and it is to be
granted, and an error in every other case. -/
theorem acceptConnection_decision (lib : X509Lib KeyPair PublicKey)
    (reqSerde : Serde AgentRequest) (respSerde : Serde AgentResponse) (env : SigningEnv)
    (ca : CertificateAuthority) (peerCid : UInt32) (s : Stream) (hacc : config.Accepted)
    (hvec : ∀ resp, ∃ payload, respSerde.toVec resp = .ok payload) (hroom : s.room = none)
    (hout : s.output = []) (peerPort : UInt32) :
    let written :=
      (finalState (acceptConnection lib reqSerde respSerde env config ca peerCid peerPort s)).output
    (peerPort ≠ config.peerPort → written = []) ∧
    (peerPort = config.peerPort → ∃ resp payload,
      respSerde.toVec resp = .ok payload ∧ written = frame payload ∧
      ((∃ certPem caCertPem, resp = .certOk certPem caCertPem) ↔
        CertGranted lib reqSerde env config ca peerCid s.input) ∧
      ((∃ workloads, resp = .handshakeOk workloads) ↔
        HandshakeGranted reqSerde config peerCid s.input) ∧
      ((∃ message, resp = .error message) ↔
        ¬CertGranted lib reqSerde env config ca peerCid s.input ∧
          ¬HandshakeGranted reqSerde config peerCid s.input)) := by
  refine ⟨fun hport => ?_, fun hport => ?_⟩
  · simp [acceptConnection, hport, hout]
  -- on the expected port the answer to the first frame decides
  obtain ⟨resp, payload, hpayload, hwritten, hresp⟩ :=
    output_acceptConnection lib reqSerde env ca peerCid hvec hroom hport
  rw [hout, List.nil_append] at hwritten
  refine ⟨resp, payload, hpayload, hwritten, ?_⟩
  -- the three kinds of response exclude each other, so the third follows from the other two
  suffices h : ((∃ certPem caCertPem, resp = .certOk certPem caCertPem) ↔
        CertGranted lib reqSerde env config ca peerCid s.input) ∧
      ((∃ workloads, resp = .handshakeOk workloads) ↔
        HandshakeGranted reqSerde config peerCid s.input) by
    refine ⟨h.1, h.2, ?_⟩
    rw [← h.1, ← h.2]
    cases resp <;> simp
  rcases hresp with ⟨req, rest, hframe, rfl⟩ | ⟨hnone, e, rfl⟩
  · exact ⟨answer_certOk_iff hframe, answer_handshakeOk_iff hacc hframe⟩
  · constructor
    · apply iff_of_false (by simp)
      rintro ⟨_, _, _, rest, _, _, _, hframe, -⟩
      exact hnone ⟨_, rest, hframe⟩
    · apply iff_of_false (by simp)
      rintro ⟨_, rest, _, hframe, -⟩
      exact hnone ⟨_, rest, hframe⟩

/-- A handshake of a registered VM is answered with a map of workloads. -/
theorem acceptConnection_decision_handshake :
    let config := HostConfig.single "vm-a" 3 "web" ⟨"unix:user:www", 60⟩
    let req := AgentRequest.handshake protocolVersion "vm-a"
    ∃ workloads, (finalState (acceptConnection Symbolic.lib (jsonSerde AgentRequest.toJson [req])
      (jsonSerde AgentResponse.toJson []) ⟨dateTimeJan1 2025, [], []⟩ config ⟨"", "", [], []⟩ 3 901
      ⟨frame req.toJson.toVec, [], none⟩)).output =
        frame (AgentResponse.handshakeOk workloads).toJson.toVec := by
  intro config req
  have hacc : config.Accepted :=
    accepted_single "vm-a" 3 "web" (by rfl : IdentityPolicy.parseSelector ⟨"unix:user:www", 60⟩ =
      .ok ⟨some ⟨some "www", none, none⟩, none⟩)
  have hframe : FirstFrame (jsonSerde AgentRequest.toJson [req]) req (frame req.toJson.toVec) [] :=
    ⟨req.toJson.toVec, by decide +kernel, (List.append_nil _).symm, by simp [jsonSerde]⟩
  obtain ⟨-, h⟩ := acceptConnection_decision Symbolic.lib (jsonSerde AgentRequest.toJson [req])
    (jsonSerde AgentResponse.toJson []) ⟨dateTimeJan1 2025, [], []⟩ ⟨"", "", [], []⟩ 3
    ⟨frame req.toJson.toVec, [], none⟩ hacc (fun resp => ⟨resp.toJson.toVec, rfl⟩) rfl rfl 901
  obtain ⟨resp, payload, hpayload, hout, -, hgranted, -⟩ := h rfl
  obtain ⟨workloads, rfl⟩ := hgranted.mpr ⟨"vm-a", [], _, hframe,
    (HashMap.lookup_singleton_eq_some_iff _ _ _ _).mpr ⟨rfl, rfl⟩, rfl⟩
  cases hpayload
  exact ⟨workloads, hout⟩

end

end AuthnScope
