import AuthnScope.Agent.Credentials
import AuthnScope.Server.Symbolic

/-!
# Whom a configuration serves

The loader of the host configuration checks the selectors; the identity names and the addresses are
first looked at when a certificate is signed, where an identity has to be ASCII and an address has
to be one. So a workload can be registered, with its VM's agent sending well-formed requests, and
every one of them is refused.

## Main results

* `certRequest_served_iff`: when the request of a registered workload is granted;
* `certRequest_served_web`, `certRequest_not_served`: a workload that is served and two that are
  not.
-/

namespace AuthnScope

open CertificateAuthority FileSystem Outcome

section

variable {KeyPair PublicKey : Type} {lib : X509Lib KeyPair PublicKey}

variable {config : HostConfig} {ca : CertificateAuthority} {vmName identity : String}
  {vm : VmEntry} {policy : IdentityPolicy}

/-- The request of a registered pair is authorised, so what is left is the signature. -/
theorem exists_certOk_iff (hreg : config.Registers vmName identity vm policy) (env : SigningEnv)
    (csrPem : String) :
    (∃ certPem, answer lib env config ca vm.vmCid
        (.certRequest protocolVersion vmName identity csrPem) = .certOk certPem ca.certPem) ↔
      ∃ certPem, signCsr lib env ca ⟨csrPem, identity, vmName, vm.vmCid, vm.ip,
        policy.ttlMinutes * 60⟩ = .ok certPem := by
  refine exists_congr fun certPem => ?_
  rw [answer_eq_iff (by simp), respond_certOk_iff]
  constructor
  · rintro ⟨_, _, _, vm', policy', hreq, hreg', -, hsign, -⟩
    cases hreq
    obtain ⟨rfl, rfl⟩ := hreg.unique hreg'
    exact hsign
  · exact fun hsign => ⟨vmName, identity, _, vm, policy, rfl, hreg, rfl, hsign, rfl⟩

/-- The agent's request for a registered identity is granted exactly when the identity is ASCII, the
address of the VM, if it has one, is an IP address, and the CA was not loaded from a file that is
not a CA certificate. -/
theorem certRequest_served_iff (hlib : lib.Lawful) (hop : lib.Operational)
    {generated : Except String KeyPair} {seed : List UInt8} {certPath keyPath : String}
    {idempotent : Bool} {fs fs' : Fs}
    (hinit : init lib generated seed certPath keyPath idempotent fs = .ok ca fs')
    (hreg : config.Registers vmName identity vm policy) {key : Except String KeyPair}
    {csrSeed : List UInt8} {csr : GeneratedCsr}
    (hcsr : generateCsr lib key csrSeed identity = .ok csr) (env : SigningEnv) :
    (∃ certPem, answer lib env config ca vm.vmCid
        (.certRequest protocolVersion vmName identity csr.csrPem) = .certOk certPem ca.certPem) ↔
      (∀ c ∈ identity.toList, c.toNat < 128) ∧
      (∀ text, vm.ip = some text → ∃ addr, RustNet.IpAddr.parse text = .ok addr) ∧
      (idempotent ∧ FindsBoth fs certPath keyPath → ∀ certPem,
        fs.files.text certPath = some certPem →
          ∃ params, lib.fromCaCertPem certPem = .ok params) := by
  -- the agent's CSR can be read, so the conditions of the other conversions are left
  obtain ⟨read, hread, -⟩ := csrFromPem_of_generateCsr hop hcsr
  rw [exists_certOk_iff hreg, exists_signCsr_iff hop, exists_leafSans_iff hlib,
    exists_rcgenCert_of_init_iff hlib hop hinit, and_assoc]
  exact and_iff_right ⟨read, hread⟩

end

/-- A workload of a VM with an IP address is served. -/
theorem certRequest_served_web :
    let config := Symbolic.pairConfig (Symbolic.vm 3 (some "10.0.0.5")) (Symbolic.vm 4 none)
    ∃ ca fs' csr certPem, init Symbolic.lib (.ok 1) [] "ca-cert.pem" "ca-key.pem" false
        Symbolic.emptyDisk = .ok ca fs' ∧
      generateCsr Symbolic.lib (.ok 7) [] "web" = .ok csr ∧
      answer Symbolic.lib ⟨dateTimeJan1 2025, [], []⟩ config ca 3
        (.certRequest protocolVersion "vm-a" "web" csr.csrPem) = .certOk certPem ca.certPem := by
  obtain ⟨ca, fs', hinit⟩ := Symbolic.exists_init_emptyDisk
  have hip : ∀ text, some "10.0.0.5" = some text →
      ∃ addr, RustNet.IpAddr.parse text = .ok addr := by
    rintro text ⟨⟩
    exact ⟨.v4 10 0 0 5, by rfl⟩
  obtain ⟨certPem, hanswer⟩ := (certRequest_served_iff Symbolic.lib_lawful
    Symbolic.lib_operational hinit (Symbolic.registers_pairConfig 3 4 (some "10.0.0.5") none).1
    (rfl : generateCsr Symbolic.lib (.ok 7) [] "web" = .ok _) ⟨dateTimeJan1 2025, [], []⟩).mpr
      ⟨by simp, hip, fun hfound => by cases hfound.1⟩
  exact ⟨ca, fs', _, certPem, hinit, rfl, hanswer⟩

/-- The loader accepts a VM with an address in the notation of a network and one with an identity
that is not ASCII, and neither is served. -/
theorem certRequest_not_served :
    let config := Symbolic.pairConfig (Symbolic.vm 3 (some "10.0.0.5/24")) (Symbolic.vm 4 none)
    ∃ ca fs' csr csr', init Symbolic.lib (.ok 1) [] "ca-cert.pem" "ca-key.pem" false
        Symbolic.emptyDisk = .ok ca fs' ∧
      generateCsr Symbolic.lib (.ok 7) [] "web" = .ok csr ∧
      config.Accepted ∧
      (¬∃ certPem, answer Symbolic.lib ⟨dateTimeJan1 2025, [], []⟩ config ca 3
        (.certRequest protocolVersion "vm-a" "web" csr.csrPem) = .certOk certPem ca.certPem) ∧
      generateCsr Symbolic.lib (.ok 7) [] "café" = .ok csr' ∧
      (HostConfig.single "vm-a" 3 "café" ⟨"unix:user:www", 60⟩).Accepted ∧
      ¬∃ certPem, answer Symbolic.lib ⟨dateTimeJan1 2025, [], []⟩
        (.single "vm-a" 3 "café" ⟨"unix:user:www", 60⟩) ca 3
        (.certRequest protocolVersion "vm-a" "café" csr'.csrPem) =
          .certOk certPem ca.certPem := by
  obtain ⟨ca, fs', hinit⟩ := Symbolic.exists_init_emptyDisk
  refine ⟨ca, fs', _, _, hinit, rfl, Symbolic.accepted_pairConfig _ _ _ _, ?_, rfl,
    accepted_single _ _ _ (by rfl : IdentityPolicy.parseSelector ⟨"unix:user:www", 60⟩ =
      .ok ⟨some ⟨some "www", none, none⟩, none⟩), ?_⟩
  · intro hserved
    have hsign := (exists_certOk_iff (Symbolic.registers_pairConfig _ _ _ _).1 _ _).mp hserved
    rw [exists_signCsr_iff Symbolic.lib_operational,
      exists_leafSans_iff Symbolic.lib_lawful] at hsign
    -- the text of a network is not read as an address
    obtain ⟨addr, haddr⟩ := hsign.2.1.2 "10.0.0.5/24" rfl
    cases haddr
  · intro hserved
    have hsign := (exists_certOk_iff (registers_single _ _ _ _) _ _).mp hserved
    rw [exists_signCsr_iff Symbolic.lib_operational,
      exists_leafSans_iff Symbolic.lib_lawful] at hsign
    exact absurd (hsign.2.1.1 'é' (by simp)) (by decide)

end AuthnScope
