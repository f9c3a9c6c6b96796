import AuthnScope.Ca.Signing

/-!
# The peer certificate evaluator

`Evaluator::from_cert_pem` of `authn-scope-evaluator/src/lib.rs`: check a peer certificate's
signature against the CA certificate and read the identity out of its subject.

## Main definitions

* `Evaluator.checkSignature`: the first three steps, up to the signature check;
* `Evaluator.fromCertPem`: the code;
* `subjectIdentity`: the identity a subject name stands for.

## Main results

* `fromCertPem_eq_ok_iff`: what the evaluator accepts;
* `checkSignature_leaf_iff`: it accepts the signature of a certificate that `signCsr` returned
  exactly when the CA certificate is for the CA key;
* `fromCertPem_leaf_iff`: what such a certificate evaluates to.
-/

namespace AuthnScope

open Outcome

/-- The errors of the evaluator. -/
inductive EvalError where
  | x509Parse (message : String)
  | signatureVerification (message : String)
  deriving DecidableEq, Repr

/-- `Display` of an error. -/
def EvalError.toString : EvalError → String
  | .x509Parse message => s!"X.509 parse error: {message}"
  | .signatureVerification message => s!"Signature verification failed: {message}"

/-- A validated peer. -/
structure Evaluator where
  identity : String
  deriving DecidableEq, Repr

/-- x509-parser: `iter_common_name`. -/
def DistinguishedName.commonNames (name : DistinguishedName) : List DnValue :=
  name.filterMap fun (type, value) => if type = .commonName then some value else none

section

variable {KeyPair PublicKey : Type} (lib : X509Lib KeyPair PublicKey)

/-- The text of the first common name of a subject, if there is one and it is readable. -/
def subjectIdentity (subject : DistinguishedName) : Option String :=
  subject.commonNames.head?.bind fun cn => (lib.asStr cn).toOption

namespace Evaluator

/-- Parse the CA certificate and the peer certificate and check the peer's signature. -/
def checkSignature (peerCertPem caCertPem : String) :
    Except EvalError (X509Certificate PublicKey) := do
  let caPem ← (lib.parseX509Pem caCertPem).mapError fun e =>
    .x509Parse s!"CA PEM parse failed: {e}"
  let caCert ← (lib.parseX509Certificate caPem).mapError fun e =>
    .x509Parse s!"CA cert parse failed: {e}"
  let peerPem ← (lib.parseX509Pem peerCertPem).mapError fun e =>
    .x509Parse s!"Peer PEM parse failed: {e}"
  let peerCert ← (lib.parseX509Certificate peerPem).mapError fun e =>
    .x509Parse s!"Peer cert parse failed: {e}"
  -- nothing else of the two certificates is checked: no validity, no usage, no issuer name
  (lib.verifySignature peerCert caCert.publicKey).mapError fun e =>
    .signatureVerification s!"Signature verification failed: {e}"
  return peerCert

/-- Verify a peer certificate's signature against the CA's public key and extract its subject
CN. -/
def fromCertPem (peerCertPem caCertPem : String) : Except EvalError Evaluator := do
  let peerCert ← checkSignature lib peerCertPem caCertPem
  match subjectIdentity lib peerCert.subject with
  | some identity => return ⟨identity⟩
  | none => .error (.x509Parse "Subject Common Name (CN) is missing")

end Evaluator

variable {lib}

/-- The signature check passes when both certificates are readable and the peer's signature
verifies under the CA certificate's key. -/
theorem checkSignature_eq_ok_iff (peerCertPem caCertPem : String)
    (x : X509Certificate PublicKey) :
    Evaluator.checkSignature lib peerCertPem caCertPem = .ok x ↔
      ∃ caCert, lib.parseX509 caCertPem = .ok caCert ∧ lib.parseX509 peerCertPem = .ok x ∧
        lib.verifySignature x caCert.publicKey = .ok () := by
  unfold Evaluator.checkSignature X509Lib.parseX509
  simp only [except_bind_eq_ok_iff, except_mapError_eq_ok_iff]
  constructor
  · rintro ⟨caPem, hcaPem, caCert, hcaCert, peerPem, hpeerPem, peerCert, hpeerCert, ⟨⟩, hsig, h⟩
    cases h
    exact ⟨caCert, ⟨caPem, hcaPem, hcaCert⟩, ⟨peerPem, hpeerPem, hpeerCert⟩, hsig⟩
  · rintro ⟨caCert, ⟨caPem, hcaPem, hcaCert⟩, ⟨peerPem, hpeerPem, hpeerCert⟩, hsig⟩
    exact ⟨caPem, hcaPem, caCert, hcaCert, peerPem, hpeerPem, x, hpeerCert, (), hsig, rfl⟩

/-- The evaluator accepts a peer whose signature checks and returns the identity its subject
stands for. -/
theorem fromCertPem_eq_ok_iff (peerCertPem caCertPem : String) (e : Evaluator) :
    Evaluator.fromCertPem lib peerCertPem caCertPem = .ok e ↔
      ∃ x, Evaluator.checkSignature lib peerCertPem caCertPem = .ok x ∧
        subjectIdentity lib x.subject = some e.identity := by
  unfold Evaluator.fromCertPem
  rw [except_bind_eq_ok_iff]
  refine exists_congr fun x => and_congr_right fun _ => ?_
  cases subjectIdentity lib x.subject with
  | none => simp
  | some identity =>
    rcases e with ⟨identity'⟩
    simp [pure, Except.pure]

/-- The signature of an issued certificate checks against the CA certificate exactly when that
certificate is for the key of the CA. -/
theorem checkSignature_leaf_iff (hlib : lib.Lawful) {env : SigningEnv}
    {ca : CertificateAuthority} {req : SigningRequest} {leaf : String}
    (h : signCsr lib env ca req = .ok leaf) :
    (∃ x, Evaluator.checkSignature lib leaf ca.certPem = .ok x) ↔ ca.KeyMatches lib := by
  obtain ⟨csr, sans, caKp, x, -, -, hkp, hx, -, hverify⟩ := signCsr_eq_ok hlib h
  -- the leaf verifies under the signing key alone, so the two keys have to be the same
  constructor
  · rintro ⟨x', hcheck⟩
    obtain ⟨caCert, hca, hx', hsig⟩ := (checkSignature_eq_ok_iff _ _ _).mp hcheck
    rw [hx] at hx'
    cases hx'
    exact ⟨caCert, caKp, hca, hkp, (hverify _).mp hsig⟩
  · rintro ⟨caCert, kp, hca, hkp', hpk⟩
    rw [hkp] at hkp'
    cases hkp'
    exact ⟨x, (checkSignature_eq_ok_iff _ _ _).mpr ⟨caCert, hca, hx, (hverify _).mpr hpk⟩⟩

/-- An issued certificate evaluates to the identity that its subject stands for, when the CA's
certificate is for its key, and else to nothing. -/
theorem fromCertPem_leaf_iff (hlib : lib.Lawful) {env : SigningEnv} {ca : CertificateAuthority}
    {req : SigningRequest} {leaf : String} (h : signCsr lib env ca req = .ok leaf)
    {x : X509Certificate PublicKey} (hx : lib.parseX509 leaf = .ok x) (e : Evaluator) :
    Evaluator.fromCertPem lib leaf ca.certPem = .ok e ↔
      ca.KeyMatches lib ∧ subjectIdentity lib x.subject = some e.identity := by
  rw [fromCertPem_eq_ok_iff, ← checkSignature_leaf_iff hlib h]
  -- the certificate that is checked is the one that is read
  have hsame : ∀ x', Evaluator.checkSignature lib leaf ca.certPem = .ok x' → x' = x := by
    intro x' hcheck
    obtain ⟨-, -, hx', -⟩ := (checkSignature_eq_ok_iff _ _ _).mp hcheck
    rw [hx] at hx'
    exact (Except.ok.inj hx').symm
  constructor
  · rintro ⟨x', hcheck, hidentity⟩
    rw [hsame x' hcheck] at hidentity
    exact ⟨⟨x', hcheck⟩, hidentity⟩
  · rintro ⟨⟨x', hcheck⟩, hidentity⟩
    rw [← hsame x' hcheck] at hidentity
    exact ⟨x', hcheck, hidentity⟩

end

end AuthnScope
