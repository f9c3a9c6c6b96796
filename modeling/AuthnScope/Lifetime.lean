import AuthnScope.Agent.Credentials
import AuthnScope.Server.Symbolic

/-!
# The lifetime of a certificate

The minutes of a policy become the seconds of a certificate in four places: the handshake's map,
the policy decision, the certificate the CA signs, and the agent's reading of it. All four agree on
the product in `u32` arithmetic, which is the product of the numbers as long as that fits.

The certificate of a new CA ends at a fixed date, and nothing relates the seconds of a certificate
to it.

## Main definitions

* `LifetimeCarried`: all four places have the minutes of the policy in seconds.

## Main results

* `issued_lifetime`: what a certificate and the agent make of the seconds of a decision;
* `lifetimeCarried_iff`: the four places agree with the policy exactly when the product fits;
* `leaf_within_ca_iff`: a certificate ends with its CA, at the latest, when it is asked for early
  enough.
-/

namespace AuthnScope

open Outcome

section

variable {KeyPair PublicKey : Type} {lib : X509Lib KeyPair PublicKey}

/-- An issued certificate lives for the requested seconds, and the agent reads them from it. -/
theorem issued_lifetime (hlib : lib.Lawful) {env : SigningEnv} {ca : CertificateAuthority}
    {req : SigningRequest} {leaf : String} (h : signCsr lib env ca req = .ok leaf) :
    ∃ x, lib.parseX509 leaf = .ok x ∧ x.notBefore = env.now.unixTimestamp ∧
      x.notAfter - x.notBefore = req.validitySeconds.toNat ∧
      getCertValiditySeconds lib leaf = .ok req.validitySeconds.toNat := by
  obtain ⟨csr, sans, caKp, x, -, -, -, hx, hcarries, -⟩ := signCsr_eq_ok hlib h
  -- whole seconds are added to the signing time, so rounding it down does not show
  have hlife : x.notAfter - x.notBefore = req.validitySeconds.toNat := by
    rw [hcarries.notAfter, hcarries.notBefore]
    show (env.now.addSeconds req.validitySeconds.toNat).unixTimestamp - env.now.unixTimestamp = _
    rw [OffsetDateTime.unixTimestamp_addSeconds]
    omega
  refine ⟨x, hx, hcarries.notBefore, hlife, ?_⟩
  rw [getCertValiditySeconds_of_parseX509 hx, hlife, Int.toNat_natCast]

/-- The handshake, the decision, every certificate signed for the decision and the agent's reading
of it all have the minutes of the policy in seconds. -/
def LifetimeCarried (lib : X509Lib KeyPair PublicKey) (identity : String) (policy : IdentityPolicy)
    (workload : WorkloadConfig) (decision : PolicyDecision) : Prop :=
  workload.validitySeconds.toNat = 60 * policy.ttlMinutes.toNat ∧
    decision.validitySeconds.toNat = 60 * policy.ttlMinutes.toNat ∧
    ∀ env ca csrPem cid leaf, signCsr lib env ca
        ⟨csrPem, identity, decision.vmName, cid, decision.ip, decision.validitySeconds⟩ =
          .ok leaf →
      ∃ x, lib.parseX509 leaf = .ok x ∧
        x.notAfter - x.notBefore = (60 * policy.ttlMinutes.toNat : ℕ) ∧
        getCertValiditySeconds lib leaf = .ok (60 * policy.ttlMinutes.toNat)

theorem toNat_ttlMinutes_mul (ttlMinutes : UInt32) :
    (ttlMinutes * 60).toNat = ttlMinutes.toNat * 60 % 2 ^ 32 := UInt32.toNat_mul _ _

/-- The `u32` product is the product of the numbers when that is below `2 ^ 32`. -/
theorem toNat_ttlMinutes_mul_iff (ttlMinutes : UInt32) :
    (ttlMinutes * 60).toNat = 60 * ttlMinutes.toNat ↔ 60 * ttlMinutes.toNat < 2 ^ 32 := by
  rw [toNat_ttlMinutes_mul]
  omega

/-- For every registered pair the configured lifetime is carried through all four places exactly
when its seconds fit into a `u32`. -/
theorem lifetimeCarried_iff (hlib : lib.Lawful) {config : HostConfig} (hacc : config.Accepted)
    {vmName identity : String} {vm : VmEntry} {policy : IdentityPolicy}
    (hreg : config.Registers vmName identity vm policy) :
    ∃ workloads workload decision, buildWorkloads vm.identities = .ok workloads ∧
      workloads.lookup identity = some workload ∧
      resolve config vmName identity = some decision ∧
      (LifetimeCarried lib identity policy workload decision ↔
        60 * policy.ttlMinutes.toNat < 2 ^ 32) := by
  have hparse := ((accepted_iff config).mp hacc).2 vmName vm hreg.1
  obtain ⟨workloads, hbuild⟩ := exists_buildWorkloads hparse
  obtain ⟨sel, hsel⟩ := hparse identity policy hreg.2
  refine ⟨workloads, ⟨sel, policy.ttlMinutes * 60⟩, _, hbuild,
    (lookup_buildWorkloads hbuild _ _).mpr ⟨policy, sel, hreg.2, hsel, rfl⟩,
    (resolve_eq_some_iff _ _ _ _).mpr ⟨vm, policy, hreg, rfl⟩, ?_⟩
  -- all four places have the same `u32` product
  constructor
  · intro h
    exact (toNat_ttlMinutes_mul_iff _).mp h.1
  · intro h
    have hmul := (toNat_ttlMinutes_mul_iff policy.ttlMinutes).mpr h
    refine ⟨hmul, hmul, fun env ca csrPem cid leaf hleaf => ?_⟩
    obtain ⟨x, hx, -, hlife, hsecs⟩ := issued_lifetime hlib hleaf
    rw [← hmul]
    exact ⟨x, hx, hlife, hsecs⟩

/-- An hour is carried through. -/
theorem lifetimeCarried_hour :
    ∃ workload decision, LifetimeCarried Symbolic.lib "web" ⟨"unix:user:www", 60⟩ workload
      decision := by
  have hacc : (HostConfig.single "vm-a" 3 "web" ⟨"unix:user:www", 60⟩).Accepted :=
    accepted_single "vm-a" 3 "web" (by rfl : IdentityPolicy.parseSelector ⟨"unix:user:www", 60⟩ =
      .ok ⟨some ⟨some "www", none, none⟩, none⟩)
  obtain ⟨_, workload, decision, -, -, -, h⟩ :=
    lifetimeCarried_iff Symbolic.lib_lawful hacc (registers_single "vm-a" 3 "web" _)
  exact ⟨workload, decision, h.mpr (by decide)⟩

/-- 71582789 minutes are announced as 44 seconds. -/
theorem lifetimeCarried_wraps :
    ¬∀ (config : HostConfig) (vmName identity : String) (vm : VmEntry) (policy : IdentityPolicy)
      (decision : PolicyDecision), config.Accepted →
        config.Registers vmName identity vm policy →
          resolve config vmName identity = some decision →
            decision.validitySeconds.toNat = 60 * policy.ttlMinutes.toNat := by
  intro h
  have hacc : (HostConfig.single "vm-a" 3 "web" ⟨"unix:user:www", 71582789⟩).Accepted :=
    accepted_single "vm-a" 3 "web"
      (by rfl : IdentityPolicy.parseSelector ⟨"unix:user:www", 71582789⟩ =
        .ok ⟨some ⟨some "www", none, none⟩, none⟩)
  have hreg := registers_single "vm-a" 3 "web" ⟨"unix:user:www", 71582789⟩
  have hwrapped := h _ _ _ _ _ _ hacc hreg ((resolve_eq_some_iff _ _ _ _).mpr ⟨_, _, hreg, rfl⟩)
  exact absurd hwrapped (by decide)

/-! ## The validity of the CA -/

/-- A certificate of a new CA, signed while that is valid, starts inside the validity of the CA. It
ends inside exactly when its seconds fit before the end of the CA. -/
theorem leaf_within_ca_iff (hlib : lib.Lawful) {generated : Except String KeyPair}
    {seed : List UInt8} {certPath keyPath : String} {idempotent : Bool}
    {fs fs' : FileSystem.Fs} {ca : CertificateAuthority}
    (hnew : ¬(idempotent ∧ CertificateAuthority.FindsBoth fs certPath keyPath))
    (hinit : CertificateAuthority.init lib generated seed certPath keyPath idempotent fs =
      .ok ca fs')
    {env : SigningEnv} {req : SigningRequest} {leaf : String}
    (hsign : signCsr lib env ca req = .ok leaf) :
    ∃ issuer x, lib.parseX509 ca.certPem = .ok issuer ∧ lib.parseX509 leaf = .ok x ∧
      issuer.notBefore = (dateTimeJan1 2024).unixTimestamp ∧
      issuer.notAfter = (dateTimeJan1 2034).unixTimestamp ∧
      (issuer.notBefore ≤ env.now.unixTimestamp → env.now.unixTimestamp ≤ issuer.notAfter →
        issuer.notBefore ≤ x.notBefore ∧ x.notBefore ≤ issuer.notAfter ∧
        issuer.notBefore ≤ x.notAfter ∧
        (x.notAfter ≤ issuer.notAfter ↔
          env.now.unixTimestamp + req.validitySeconds.toNat ≤ issuer.notAfter)) := by
  have hgen : CertificateAuthority.generate lib generated seed = .ok ca := by
    rcases CertificateAuthority.init_eq_ok hinit with ⟨hfound, -⟩ | ⟨-, hgen⟩
    · exact absurd hfound hnew
    · exact hgen
  obtain ⟨issuer, _, hissuer, -, hcarries⟩ := CertificateAuthority.carries_of_generate hlib hgen
  obtain ⟨x, hx, hbefore, hlife, -⟩ := issued_lifetime hlib hsign
  refine ⟨issuer, x, hissuer, hx, hcarries.notBefore, hcarries.notAfter, fun hlow hhigh => ?_⟩
  -- the certificate starts now and ends its seconds later
  rw [hbefore] at hlife
  refine ⟨by omega, by omega, by omega, by omega⟩

/-- Half an hour before the end of its CA, a certificate for half an hour is signed. -/
theorem leaf_within_ca_halfHour :
    ∃ leaf issuer x, signCsr Symbolic.lib ⟨(dateTimeJan1 2034).addSeconds (-1800), [], []⟩
        (Symbolic.authority 1 1) ⟨Symbolic.csr "web" 7, "web", "vm-a", 3, none, 1800⟩ = .ok leaf ∧
      Symbolic.lib.parseX509 (Symbolic.authority 1 1).certPem = .ok issuer ∧
      Symbolic.lib.parseX509 leaf = .ok x ∧ x.notAfter ≤ issuer.notAfter := by
  obtain ⟨fs', hinit⟩ := Symbolic.exists_init_authority
  obtain ⟨leaf, hsign⟩ := Symbolic.exists_signCsr
    ⟨(dateTimeJan1 2034).addSeconds (-1800), [], []⟩ 1 1
    "web" 7 (by simp : ∀ c ∈ "web".toList, c.toNat < 128) "vm-a" 3 1800
  obtain ⟨issuer, x, hissuer, hx, hlow, hhigh, h⟩ :=
    leaf_within_ca_iff Symbolic.lib_lawful (by simp) hinit hsign
  refine ⟨leaf, issuer, x, hsign, hissuer, hx, ((h ?_ ?_).2.2.2).mpr ?_⟩
  · rw [hlow]
    decide
  · rw [hhigh]
    decide
  · rw [hhigh]
    decide

/-- Half an hour before the end of its CA, a certificate for an hour is signed. -/
theorem leaf_outlives_ca :
    ¬∀ (config : HostConfig) (vmName identity : String) (decision : PolicyDecision)
      (ca : CertificateAuthority) (fs' : FileSystem.Fs) (env : SigningEnv) (csrPem leaf : String)
      (issuer x : X509Certificate ℕ), config.Accepted →
        resolve config vmName identity = some decision →
        CertificateAuthority.init Symbolic.lib (.ok 1) [] "ca-cert.pem" "ca-key.pem" false
          Symbolic.emptyDisk = .ok ca fs' →
        signCsr Symbolic.lib env ca ⟨csrPem, identity, decision.vmName, decision.vmCid, decision.ip,
          decision.validitySeconds⟩ = .ok leaf →
        Symbolic.lib.parseX509 ca.certPem = .ok issuer → Symbolic.lib.parseX509 leaf = .ok x →
        issuer.notBefore ≤ env.now.unixTimestamp → env.now.unixTimestamp ≤ issuer.notAfter →
          x.notAfter ≤ issuer.notAfter := by
  intro h
  have hacc : (Symbolic.hostConfig 60).Accepted :=
    accepted_single "vm-a" 3 "web" (by rfl : IdentityPolicy.parseSelector ⟨"unix:user:www", 60⟩ =
      .ok ⟨some ⟨some "www", none, none⟩, none⟩)
  have hreg := registers_single "vm-a" 3 "web" ⟨"unix:user:www", 60⟩
  have hres := (resolve_eq_some_iff _ _ _ _).mpr ⟨_, _, hreg, rfl⟩
  obtain ⟨fs', hinit⟩ := Symbolic.exists_init_authority
  obtain ⟨leaf, hsign⟩ := Symbolic.exists_signCsr
    ⟨(dateTimeJan1 2034).addSeconds (-1800), [], []⟩ 1 1
    "web" 7 (by simp : ∀ c ∈ "web".toList, c.toNat < 128) "vm-a" 3 (60 * 60)
  obtain ⟨x, hx, hbefore, hlife, -⟩ := issued_lifetime Symbolic.lib_lawful hsign
  have hissuer : Symbolic.lib.parseX509 (Symbolic.authority 1 1).certPem =
      .ok (Symbolic.contents CertificateAuthority.params 1 1 []) := Symbolic.parseX509_issue _ _ _ _
  have hend := h _ _ _ _ _ _ _ _ _ _ _ hacc hres hinit hsign hissuer hx (by decide) (by decide)
  have hissuerEnd : (Symbolic.contents CertificateAuthority.params 1 1 []).notAfter =
      (dateTimeJan1 2034).unixTimestamp := rfl
  have hnow : ((dateTimeJan1 2034).addSeconds (-1800)).unixTimestamp =
      (dateTimeJan1 2034).unixTimestamp - 1800 := by decide
  have hsecs : ((60 : UInt32) * 60).toNat = 3600 := by decide
  rw [hissuerEnd] at hend
  rw [hsecs] at hlife
  rw [hnow] at hbefore
  omega

end

end AuthnScope
