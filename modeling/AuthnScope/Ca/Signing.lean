import AuthnScope.Ca.Authority

/-!
# CSR signing

`sign_csr` of `authn-scope-ca/src/signing.rs`. The clock and the random bytes of the two
signatures are its environment.

## Main definitions

* `signCsr`: the code;
* `leafParams`: what it writes over the parameters of a request.

## Main results

* `exists_signCsr_iff`, `exists_leafSans_iff`: when a request is signed;
* `signCsr_eq_ok`: the certificate it returns says what `leafParams` says, for the key of the
  request, and verifies under the CA's key.
-/

namespace AuthnScope

open Outcome

/-- Parameters for signing a single CSR. -/
structure SigningRequest where
  csrPem : String
  identity : String
  vmName : String
  cid : UInt32
  ip : Option String
  validitySeconds : UInt32
  deriving DecidableEq, Repr

/-- The clock and the random bytes while a request is signed. -/
structure SigningEnv where
  now : OffsetDateTime
  caSeed : List UInt8
  leafSeed : List UInt8
  deriving DecidableEq, Repr

/-- The fields of a request that `sign_csr` sets, whatever the request says. -/
def leafParams (now : OffsetDateTime) (validitySeconds : UInt32) (sans : List SanType)
    (params : CertificateParams) : CertificateParams :=
  { params with
    -- the subject stays that of the request
    keyUsages := [.digitalSignature]
    extendedKeyUsages := [.serverAuth, .clientAuth]
    subjectAltNames := sans
    notBefore := now
    notAfter := now.addSeconds validitySeconds.toNat }

section

variable {KeyPair PublicKey : Type} (lib : X509Lib KeyPair PublicKey)

/-- The alternative names of a leaf: `DNS:<identity>` and optionally `IP:<ip>`. -/
def leafSans (identity : String) (ip : Option String) : Except CaError (List SanType) := do
  let dnsName ← (lib.ia5String identity).mapError .certParseFailed
  match ip with
  | none => return [.dnsName dnsName]
  | some ipStr =>
    let ipAddr ← (RustNet.IpAddr.parse ipStr).mapError fun e =>
      .certParseFailed s!"invalid IP address '{ipStr}': {e}"
    return [.dnsName dnsName, .ipAddress ipAddr]

/-- Sign a CSR and return the PEM-encoded leaf certificate. -/
def signCsr (env : SigningEnv) (ca : CertificateAuthority) (req : SigningRequest) :
    Except CaError String := do
  let csrParams ← (lib.csrFromPem req.csrPem).mapError .rcgenError
  let sans ← leafSans lib req.identity req.ip
  let params := leafParams env.now req.validitySeconds sans csrParams.params
  -- the issuer is the CA certificate, signed again with the loaded key
  let caCert ← ca.rcgenCert lib env.caSeed
  let caKp ← ca.keyPair lib
  let csrParams := { csrParams with params := params }
  let leafCert ← (lib.signedBy csrParams caCert caKp env.leafSeed).mapError .rcgenError
  return leafCert.pem

variable {lib}

/-- The alternative names can be written when the identity is ASCII and the address is one. -/
theorem leafSans_eq_ok_iff (hlib : lib.Lawful) (identity : String) (ip : Option String)
    (sans : List SanType) :
    leafSans lib identity ip = .ok sans ↔ (∀ c ∈ identity.toList, c.toNat < 128) ∧
      (ip = none ∧ sans = [.dnsName identity] ∨ ∃ text addr, ip = some text ∧
        RustNet.IpAddr.parse text = .ok addr ∧ sans = [.dnsName identity, .ipAddress addr]) := by
  simp only [leafSans, except_bind_eq_ok_iff, except_mapError_eq_ok_iff, hlib.ia5String_eq_ok_iff]
  constructor
  · rintro ⟨dnsName, ⟨hascii, rfl⟩, h⟩
    refine ⟨hascii, ?_⟩
    cases ip with
    | none =>
      cases h
      exact Or.inl ⟨rfl, rfl⟩
    | some text =>
      obtain ⟨addr, haddr, h⟩ := except_bind_eq_ok_iff.mp h
      cases h
      exact Or.inr ⟨text, addr, rfl, (except_mapError_eq_ok_iff _ _ _).mp haddr, rfl⟩
  · rintro ⟨hascii, ⟨rfl, rfl⟩ | ⟨text, addr, rfl, haddr, rfl⟩⟩
    · exact ⟨identity, ⟨hascii, rfl⟩, rfl⟩
    · refine ⟨identity, ⟨hascii, rfl⟩, ?_⟩
      exact except_bind_eq_ok_iff.mpr ⟨addr, (except_mapError_eq_ok_iff _ _ _).mpr haddr, rfl⟩

theorem exists_leafSans_iff (hlib : lib.Lawful) (identity : String) (ip : Option String) :
    (∃ sans, leafSans lib identity ip = .ok sans) ↔ (∀ c ∈ identity.toList, c.toNat < 128) ∧
      ∀ text, ip = some text → ∃ addr, RustNet.IpAddr.parse text = .ok addr := by
  simp only [leafSans_eq_ok_iff hlib, exists_and_left]
  refine and_congr_right fun _ => ?_
  cases ip with
  | none => simp
  | some text => simp

/-- A request is signed when it can be read, its alternative names can be written and the CA can
act as the issuer. -/
theorem exists_signCsr_iff (hop : lib.Operational) (env : SigningEnv) (ca : CertificateAuthority)
    (req : SigningRequest) :
    (∃ leaf, signCsr lib env ca req = .ok leaf) ↔
      (∃ csr, lib.csrFromPem req.csrPem = .ok csr) ∧
        (∃ sans, leafSans lib req.identity req.ip = .ok sans) ∧
        ∃ cert, ca.rcgenCert lib env.caSeed = .ok cert := by
  simp only [signCsr, except_bind_eq_ok_iff, except_mapError_eq_ok_iff]
  constructor
  · rintro ⟨leaf, csr, hcsr, sans, hsans, cert, hcert, -⟩
    exact ⟨⟨csr, hcsr⟩, ⟨sans, hsans⟩, cert, hcert⟩
  · rintro ⟨⟨csr, hcsr⟩, ⟨sans, hsans⟩, cert, hcert⟩
    obtain ⟨kp, hkp⟩ := ((CertificateAuthority.exists_rcgenCert_iff hop ca env.caSeed).mp
      ⟨cert, hcert⟩).1
    have hkp' : ca.keyPair lib = .ok kp := (except_mapError_eq_ok_iff _ _ _).mpr hkp
    obtain ⟨leaf, hleaf⟩ := hop.signedBy_ok _ cert kp env.leafSeed
    exact ⟨leaf.pem, csr, hcsr, sans, hsans, cert, hcert, kp, hkp', leaf, hleaf, rfl⟩

/-- The returned certificate is what the library signs, under the key of the CA, for the request
with the parameters that `leafParams` makes of its own. -/
theorem exists_signedBy_of_signCsr {env : SigningEnv} {ca : CertificateAuthority}
    {req : SigningRequest} {leaf : String} (h : signCsr lib env ca req = .ok leaf) :
    ∃ csr sans caCert caKp cert, lib.csrFromPem req.csrPem = .ok csr ∧
      leafSans lib req.identity req.ip = .ok sans ∧ lib.keyPairFromPem ca.keyPem = .ok caKp ∧
      lib.signedBy { csr with params := leafParams env.now req.validitySeconds sans csr.params }
        caCert caKp env.leafSeed = .ok cert ∧ leaf = cert.pem := by
  unfold signCsr at h
  obtain ⟨csr, hcsr, h⟩ := except_bind_eq_ok_iff.mp h
  obtain ⟨sans, hsans, h⟩ := except_bind_eq_ok_iff.mp h
  obtain ⟨caCert, -, h⟩ := except_bind_eq_ok_iff.mp h
  obtain ⟨caKp, hkp, h⟩ := except_bind_eq_ok_iff.mp h
  obtain ⟨leafCert, hleaf, h⟩ := except_bind_eq_ok_iff.mp h
  cases h
  -- every step has succeeded; what is left is to drop the renaming of errors
  rw [except_mapError_eq_ok_iff] at hcsr hleaf
  rw [CertificateAuthority.keyPair, except_mapError_eq_ok_iff] at hkp
  exact ⟨csr, sans, caCert, caKp, leafCert, hcsr, hsans, hkp, hleaf, rfl⟩

/-- The returned certificate is readable, says what `leafParams` makes of the request's parameters
for the request's key, and its signature verifies exactly under the key of the CA. -/
theorem signCsr_eq_ok (hlib : lib.Lawful) {env : SigningEnv} {ca : CertificateAuthority}
    {req : SigningRequest} {leaf : String} (h : signCsr lib env ca req = .ok leaf) :
    ∃ csr sans caKp x, lib.csrFromPem req.csrPem = .ok csr ∧
      leafSans lib req.identity req.ip = .ok sans ∧ lib.keyPairFromPem ca.keyPem = .ok caKp ∧
      lib.parseX509 leaf = .ok x ∧
      x.Carries (leafParams env.now req.validitySeconds sans csr.params) csr.publicKey ∧
      ∀ pk, lib.verifySignature x pk = .ok () ↔ pk = lib.publicKey caKp := by
  obtain ⟨csr, sans, caCert, caKp, leafCert, hcsr, hsans, hkp, hleaf, rfl⟩ :=
    exists_signedBy_of_signCsr h
  obtain ⟨x, hx, hcarries, hverify⟩ := hlib.signedBy_carries _ _ _ _ _ hleaf
  exact ⟨csr, sans, caKp, x, hcsr, hsans, hkp, hx, hcarries, hverify⟩

end

end AuthnScope
