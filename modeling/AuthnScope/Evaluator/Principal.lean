import AuthnScope.Agent.Credentials
import AuthnScope.Evaluator.Basic
import AuthnScope.Server.Symbolic

/-!
# Whom a certificate names

What a verifier can read as the identity of an issued certificate: the common name that the
evaluator returns, and the alternative names. Both come from the identity that is registered, and
the alternative names from the address of the VM too. The name of the VM and its CID, which
`sign_csr` is given as well, are not written into the certificate.

## Main definitions

* `IssuedFor`: a certificate for a registered pair, on a request of the agent;
* `readIdentity`: what a verifier reads.

## Main results

* `fromCertPem_issuedFor_iff`: the evaluator returns what the subject of the request stands for;
* `readIdentity_ne_iff`: which certificates are told apart.
-/

namespace AuthnScope

open Outcome RustNet

section

variable {KeyPair PublicKey : Type} (lib : X509Lib KeyPair PublicKey)

/-- The CA signs a request of the agent for a registered pair. -/
def IssuedFor (config : HostConfig) (ca : CertificateAuthority) (vmName identity : String)
    (vm : VmEntry) (certPem : String) : Prop :=
  ∃ policy key csrSeed csr env, config.Registers vmName identity vm policy ∧
    generateCsr lib key csrSeed identity = .ok csr ∧
    signCsr lib env ca ⟨csr.csrPem, identity, vmName, vm.vmCid, vm.ip, policy.ttlMinutes * 60⟩ =
      .ok certPem

/-- What a verifier reads as the identity of a certificate: the common name that the evaluator
returns, and the alternative names. -/
def readIdentity (certPem caCertPem : String) : Option String × Option (List SanType) :=
  ((Evaluator.fromCertPem lib certPem caCertPem).toOption.map (·.identity),
    (lib.parseX509 certPem).toOption.map (·.subjectAltNames))

variable {lib} {config : HostConfig} {ca : CertificateAuthority} {vmName vmName' : String}
  {identity identity' : String} {vm vm' : VmEntry} {certPem certPem' : String}

/-- An issued certificate has the subject of the agent's request and the alternative names of the
registered pair. -/
theorem IssuedFor.parseX509 (h : IssuedFor lib config ca vmName identity vm certPem)
    (hlib : lib.Lawful) (hop : lib.Operational) :
    ∃ x, lib.parseX509 certPem = .ok x ∧
      x.subject = [(.commonName, ⟨.utf8String, identity⟩),
        (.organizationName, ⟨.utf8String, "authn-scope"⟩)] ∧
      leafSans lib identity vm.ip = .ok x.subjectAltNames := by
  obtain ⟨policy, key, csrSeed, csr, env, -, hcsr, hsign⟩ := h
  obtain ⟨read, hread, hsubject⟩ := csrFromPem_of_generateCsr hop hcsr
  obtain ⟨read', sans, caKp, x, hread', hsans, -, hx, hcarries, -⟩ := signCsr_eq_ok hlib hsign
  rw [hread] at hread'
  cases hread'
  refine ⟨x, hx, hcarries.subject.trans hsubject, ?_⟩
  rw [hcarries.subjectAltNames]
  exact hsans

/-- The evaluator accepts an issued certificate when the CA's certificate is for its key, and then
returns what the subject stands for. -/
theorem fromCertPem_issuedFor_iff (h : IssuedFor lib config ca vmName identity vm certPem)
    (hlib : lib.Lawful) (hop : lib.Operational) (e : Evaluator) :
    Evaluator.fromCertPem lib certPem ca.certPem = .ok e ↔
      ca.KeyMatches lib ∧ subjectIdentity lib [(.commonName, ⟨.utf8String, identity⟩),
        (.organizationName, ⟨.utf8String, "authn-scope"⟩)] = some e.identity := by
  obtain ⟨x, hx, hsubject, -⟩ := h.parseX509 hlib hop
  obtain ⟨policy, key, csrSeed, csr, env, -, -, hsign⟩ := h
  rw [fromCertPem_leaf_iff hlib hsign hx, hsubject]

/-- The alternative names of two pairs are the same when the pairs have the same identity and the
same address, or none. -/
theorem leafSans_eq_leafSans_iff (hlib : lib.Lawful) {ip ip' : Option String}
    {sans sans' : List SanType} (h : leafSans lib identity ip = .ok sans)
    (h' : leafSans lib identity' ip' = .ok sans') :
    sans = sans' ↔ identity = identity' ∧ ip.map IpAddr.parse = ip'.map IpAddr.parse := by
  obtain ⟨-, h⟩ := (leafSans_eq_ok_iff hlib _ _ _).mp h
  obtain ⟨-, h'⟩ := (leafSans_eq_ok_iff hlib _ _ _).mp h'
  rcases h with ⟨rfl, rfl⟩ | ⟨text, addr, rfl, haddr, rfl⟩ <;>
    rcases h' with ⟨rfl, rfl⟩ | ⟨text', addr', rfl, haddr', rfl⟩
  · simp
  · simp
  · simp
  · simp [haddr, haddr']

/-- Two issued certificates read the same exactly when they are for the same identity and their VMs
have the same address, or none. -/
theorem readIdentity_eq_iff (hlib : lib.Lawful) (hop : lib.Operational)
    (h : IssuedFor lib config ca vmName identity vm certPem)
    (h' : IssuedFor lib config ca vmName' identity' vm' certPem') :
    readIdentity lib certPem ca.certPem = readIdentity lib certPem' ca.certPem ↔
      identity = identity' ∧ vm.ip.map IpAddr.parse = vm'.ip.map IpAddr.parse := by
  obtain ⟨x, hx, -, hsans⟩ := h.parseX509 hlib hop
  obtain ⟨x', hx', -, hsans'⟩ := h'.parseX509 hlib hop
  -- the alternative names decide, as the identity is among them
  have hread : (lib.parseX509 certPem).toOption.map (·.subjectAltNames) =
        (lib.parseX509 certPem').toOption.map (·.subjectAltNames) ↔
      identity = identity' ∧ vm.ip.map IpAddr.parse = vm'.ip.map IpAddr.parse := by
    rw [hx, hx', ← leafSans_eq_leafSans_iff hlib hsans hsans']
    simp [Except.toOption]
  rw [readIdentity, readIdentity, Prod.mk.injEq, hread]
  refine ⟨fun hboth => hboth.2, fun hsame => ⟨?_, hsame⟩⟩
  obtain ⟨rfl, -⟩ := hsame
  -- the evaluator makes the same of both, as their subjects are the same
  have heval : ∀ e, Evaluator.fromCertPem lib certPem ca.certPem = .ok e ↔
      Evaluator.fromCertPem lib certPem' ca.certPem = .ok e := fun e =>
    (fromCertPem_issuedFor_iff h hlib hop e).trans (fromCertPem_issuedFor_iff h' hlib hop e).symm
  refine congrArg _ (Option.ext fun e => ?_)
  rw [toOption_eq_some_iff, toOption_eq_some_iff]
  exact heval e

/-- Two issued certificates are told apart exactly when they are for different identities, or their
VMs have different addresses. The name of the VM and its CID do not matter. -/
theorem readIdentity_ne_iff (hlib : lib.Lawful) (hop : lib.Operational)
    (h : IssuedFor lib config ca vmName identity vm certPem)
    (h' : IssuedFor lib config ca vmName' identity' vm' certPem') :
    readIdentity lib certPem ca.certPem ≠ readIdentity lib certPem' ca.certPem ↔
      identity ≠ identity' ∨ vm.ip.map IpAddr.parse ≠ vm'.ip.map IpAddr.parse := by
  rw [ne_eq, readIdentity_eq_iff hlib hop h h', not_and_or]

end

/-- On the symbolic library the CA signs a request of the agent for every registered pair whose
identity is ASCII and whose VM has a readable address, if it has one. -/
theorem Symbolic.exists_issuedFor (certKey key : ℕ) {config : HostConfig} {vmName : String}
    {identity : String} {vm : VmEntry} {policy : IdentityPolicy}
    (hreg : config.Registers vmName identity vm policy)
    (hascii : ∀ c ∈ identity.toList, c.toNat < 128)
    (hip : ∀ text, vm.ip = some text → ∃ addr, IpAddr.parse text = .ok addr) :
    ∃ certPem, IssuedFor lib config (authority certKey key) vmName identity vm certPem := by
  have hcsr : generateCsr lib (.ok 7) [] identity = .ok ⟨lib.serializePem 7, csr identity 7⟩ := rfl
  obtain ⟨read, hread, -⟩ := csrFromPem_of_generateCsr lib_operational hcsr
  obtain ⟨leaf, hleaf⟩ := (exists_signCsr_iff lib_operational ⟨dateTimeJan1 2025, [], []⟩
    (authority certKey key)
    ⟨csr identity 7, identity, vmName, vm.vmCid, vm.ip, policy.ttlMinutes * 60⟩).mpr
      ⟨⟨read, hread⟩, (exists_leafSans_iff lib_lawful _ _).mpr ⟨hascii, hip⟩,
        exists_rcgenCert_authority certKey key _⟩
  exact ⟨leaf, policy, _, _, _, _, hreg, hcsr, hleaf⟩

/-- Two VMs with different addresses have different certificates for the same workload. -/
theorem readIdentity_ne_web :
    ∃ certPem certPem',
      IssuedFor Symbolic.lib (Symbolic.pairConfig (Symbolic.vm 3 (some "10.0.0.5"))
        (Symbolic.vm 4 none)) (Symbolic.authority 1 1) "vm-a" "web"
        (Symbolic.vm 3 (some "10.0.0.5")) certPem ∧
      IssuedFor Symbolic.lib (Symbolic.pairConfig (Symbolic.vm 3 (some "10.0.0.5"))
        (Symbolic.vm 4 none)) (Symbolic.authority 1 1) "vm-b" "web" (Symbolic.vm 4 none)
        certPem' ∧
      readIdentity Symbolic.lib certPem (Symbolic.authority 1 1).certPem ≠
        readIdentity Symbolic.lib certPem' (Symbolic.authority 1 1).certPem := by
  have hip : ∀ text, some "10.0.0.5" = some text → ∃ addr, IpAddr.parse text = .ok addr := by
    rintro text ⟨⟩
    exact ⟨.v4 10 0 0 5, by rfl⟩
  obtain ⟨hregA, hregB⟩ := Symbolic.registers_pairConfig 3 4 (some "10.0.0.5") none
  obtain ⟨certPem, h⟩ := Symbolic.exists_issuedFor 1 1 hregA (by simp) hip
  obtain ⟨certPem', h'⟩ := Symbolic.exists_issuedFor 1 1 hregB (by simp) (by simp [Symbolic.vm])
  exact ⟨certPem, certPem', h, h', (readIdentity_ne_iff Symbolic.lib_lawful
    Symbolic.lib_operational h h').mpr (Or.inr (by simp [Symbolic.vm]))⟩

/-- The workloads `web` of two VMs without an address have certificates that the evaluator accepts
and that read the same. -/
theorem readIdentity_eq_web :
    let config := Symbolic.pairConfig (Symbolic.vm 3 none) (Symbolic.vm 4 none)
    let ca := Symbolic.authority 1 1
    config.Accepted ∧ ∃ certPem certPem',
      IssuedFor Symbolic.lib config ca "vm-a" "web" (Symbolic.vm 3 none) certPem ∧
      IssuedFor Symbolic.lib config ca "vm-b" "web" (Symbolic.vm 4 none) certPem' ∧
      Evaluator.fromCertPem Symbolic.lib certPem ca.certPem = .ok ⟨"web"⟩ ∧
      Evaluator.fromCertPem Symbolic.lib certPem' ca.certPem = .ok ⟨"web"⟩ ∧
      readIdentity Symbolic.lib certPem ca.certPem =
        readIdentity Symbolic.lib certPem' ca.certPem := by
  obtain ⟨hregA, hregB⟩ := Symbolic.registers_pairConfig 3 4 none none
  obtain ⟨certPem, h⟩ := Symbolic.exists_issuedFor 1 1 hregA (by simp) (by simp [Symbolic.vm])
  obtain ⟨certPem', h'⟩ := Symbolic.exists_issuedFor 1 1 hregB (by simp) (by simp [Symbolic.vm])
  have hmatches := (Symbolic.keyMatches_authority_iff 1 1).mpr rfl
  have heval := (fromCertPem_issuedFor_iff h Symbolic.lib_lawful Symbolic.lib_operational
    ⟨"web"⟩).mpr ⟨hmatches, rfl⟩
  have heval' := (fromCertPem_issuedFor_iff h' Symbolic.lib_lawful Symbolic.lib_operational
    ⟨"web"⟩).mpr ⟨hmatches, rfl⟩
  exact ⟨Symbolic.accepted_pairConfig 3 4 none none, certPem, certPem', h, h', heval, heval',
    (readIdentity_eq_iff Symbolic.lib_lawful Symbolic.lib_operational h h').mpr ⟨rfl, rfl⟩⟩

end AuthnScope
