import AuthnScope.Ca.Symbolic
import AuthnScope.Evaluator.Basic

/-!
# The evaluator in Go

`NewEvaluator` of `authn-scope-evaluator/evaluator.go` takes the same decision as
`Evaluator::from_cert_pem` in Rust, on the certificates of Go's `crypto/x509`. The two libraries
differ: Go's signature check asks whether the parent may sign certificates, and its common name is
the last one of the subject, not the first.

`encoding/pem` and the parser of `crypto/x509` are a parameter, `GoX509`; `CheckSignatureFrom` is
written out as documented, up to the signature check under the parent's key.

## Main definitions

* `GoX509.newEvaluator`: the code;
* `GoCertificate.maySign`: what Go asks of a parent;
* `GoX509.Reads`: the two parsers read the same certificate.

## Main results

* `newEvaluator_eq_ok_iff`: what the Go evaluator accepts;
* `evaluators_agree_iff`: when the two evaluators agree.
-/

namespace AuthnScope

open Outcome

/-- The fields of Go's `x509.Certificate` that are read here. `keyUsage` is empty when the
certificate has no such extension, as the bits of Go's `KeyUsage` are then 0. -/
structure GoCertificate (PublicKey : Type) where
  version : ℕ
  commonName : String
  basicConstraintsValid : Bool
  isCA : Bool
  keyUsage : List KeyUsagePurpose
  publicKey : PublicKey
  signature : List UInt8
  deriving DecidableEq, Repr

/-- The functions of `encoding/pem` and `crypto/x509` that the evaluator calls. -/
structure GoX509 (PublicKey : Type) where
  /-- `pem.Decode`: the bytes of the first block. -/
  decode : String → Option (List UInt8)
  /-- `x509.ParseCertificate`. -/
  parseCertificate : List UInt8 → Except String (GoCertificate PublicKey)
  /-- The signature check of a certificate under a public key. -/
  checkSignature : GoCertificate PublicKey → PublicKey → Except String Unit

section

variable {KeyPair PublicKey : Type} (lib : X509Lib KeyPair PublicKey) (go : GoX509 PublicKey)

/-- The certificate may sign certificates: it is a CA, or of a version without extensions, and its
key usages, if it has any, include signing certificates. -/
def GoCertificate.maySign (parent : GoCertificate PublicKey) : Bool :=
  !(parent.version == 3 && !parent.basicConstraintsValid ||
    parent.basicConstraintsValid && !parent.isCA) &&
  !(!parent.keyUsage.isEmpty && !parent.keyUsage.contains .keyCertSign)

namespace GoX509

/-- `CheckSignatureFrom`. -/
def checkSignatureFrom (cert parent : GoCertificate PublicKey) : Except String Unit :=
  if parent.maySign then go.checkSignature cert parent.publicKey
  else
    .error "x509: invalid signature: parent certificate cannot sign this kind of certificate"

/-- Decode a PEM text and parse the certificate in it. -/
def readCertificate (name pem : String) : Except String (GoCertificate PublicKey) := do
  match go.decode pem with
  | none => .error s!"failed to decode {name} PEM"
  | some bytes => (go.parseCertificate bytes).mapError fun e =>
    s!"failed to parse {name} cert: {e}"

/-- Verify a peer certificate's signature against the CA's certificate and extract its subject
CommonName. -/
def newEvaluator (peerCertPem caCertPem : String) : Except String Evaluator := do
  let caCert ← go.readCertificate "CA" caCertPem
  let peerCert ← go.readCertificate "peer" peerCertPem
  (go.checkSignatureFrom peerCert caCert).mapError fun e =>
    s!"certificate signature verification failed: {e}"
  if peerCert.commonName = "" then .error "subject CommonName (CN) is missing"
  else return ⟨peerCert.commonName⟩

/-- The Go parser finds the certificate in a PEM text. -/
def Finds (pem : String) (cert : GoCertificate PublicKey) : Prop :=
  ∃ bytes, go.decode pem = some bytes ∧ go.parseCertificate bytes = .ok cert

end GoX509

/-- The text of the last common name of a subject, empty if there is none. -/
def lastCommonName (subject : DistinguishedName) : String :=
  (subject.commonNames.getLast?.map (·.text)).getD ""

/-- Both parsers have read the same certificate. The signature checks agree on it, and Go has taken
the last of its common names. -/
structure GoX509.Reads (cert : GoCertificate PublicKey) (x : X509Certificate PublicKey) : Prop where
  commonName : cert.commonName = lastCommonName x.subject
  basicConstraintsValid : cert.basicConstraintsValid = true ↔ x.isCa ≠ .noCa
  isCA : cert.isCA = true ↔ x.isCa = .unconstrained ∨ ∃ pathLen, x.isCa = .constrained pathLen
  keyUsage : cert.keyUsage = x.keyUsages
  publicKey : cert.publicKey = x.publicKey
  checkSignature : ∀ publicKey, go.checkSignature cert publicKey = .ok () ↔
    lib.verifySignature x publicKey = .ok ()

variable {lib} {go} {peerCertPem caCertPem : String} {caCert peerCert : GoCertificate PublicKey}
  {caX peerX : X509Certificate PublicKey}

/-- A certificate is read when it is found. -/
theorem readCertificate_of_finds {name pem : String} {cert : GoCertificate PublicKey}
    (h : go.Finds pem cert) : go.readCertificate name pem = .ok cert := by
  obtain ⟨bytes, hdecode, hparse⟩ := h
  simp [GoX509.readCertificate, hdecode, hparse, Except.mapError]

/-- The Go evaluator accepts a peer with a common name whose signature checks under a parent that
may sign certificates. -/
theorem newEvaluator_eq_ok_iff (hca : go.Finds caCertPem caCert)
    (hpeer : go.Finds peerCertPem peerCert) (e : Evaluator) :
    go.newEvaluator peerCertPem caCertPem = .ok e ↔
      caCert.maySign ∧ go.checkSignature peerCert caCert.publicKey = .ok () ∧
        peerCert.commonName ≠ "" ∧ e.identity = peerCert.commonName := by
  unfold GoX509.newEvaluator GoX509.checkSignatureFrom
  rw [readCertificate_of_finds hca, readCertificate_of_finds hpeer]
  simp only [except_ok_bind, except_bind_eq_ok_iff, except_mapError_eq_ok_iff]
  rcases e with ⟨identity⟩
  -- the checks are made in this order: the parent, the signature, the name
  constructor
  · rintro ⟨⟨⟩, hsignature, h⟩
    split at hsignature
    · rename_i hmay
      split at h
      · cases h
      · rename_i hname
        cases h
        exact ⟨hmay, hsignature, hname, rfl⟩
    · cases hsignature
  · rintro ⟨hmay, hsignature, hname, rfl⟩
    exact ⟨(), by rw [if_pos hmay]; exact hsignature, by rw [if_neg hname]; rfl⟩

/-- The Rust evaluator accepts a peer whose signature checks and whose first common name is
readable. -/
theorem fromCertPem_eq_ok_iff_of_parseX509 (hca : lib.parseX509 caCertPem = .ok caX)
    (hpeer : lib.parseX509 peerCertPem = .ok peerX) (e : Evaluator) :
    Evaluator.fromCertPem lib peerCertPem caCertPem = .ok e ↔
      lib.verifySignature peerX caX.publicKey = .ok () ∧
        subjectIdentity lib peerX.subject = some e.identity := by
  rw [fromCertPem_eq_ok_iff]
  constructor
  · rintro ⟨x, hcheck, hidentity⟩
    obtain ⟨ca, hca', hpeer', hsignature⟩ := (checkSignature_eq_ok_iff _ _ _).mp hcheck
    -- the certificates that are read are the ones that are given
    rw [hca, Except.ok.injEq] at hca'
    rw [hpeer, Except.ok.injEq] at hpeer'
    subst hca' hpeer'
    exact ⟨hsignature, hidentity⟩
  · rintro ⟨hsignature, hidentity⟩
    exact ⟨peerX, (checkSignature_eq_ok_iff _ _ _).mpr ⟨caX, hca, hpeer, hsignature⟩, hidentity⟩

/-- On PEM texts in which both parsers find the same certificates, the two evaluators agree exactly
when the signature does not verify, or both accept because the CA may sign certificates and the
first common name of the peer is readable, not empty and the last one too, or both refuse because
the first one is not readable and the last one is empty or the CA may not sign. -/
theorem evaluators_agree_iff (hca : lib.parseX509 caCertPem = .ok caX)
    (hpeer : lib.parseX509 peerCertPem = .ok peerX) (hgoCa : go.Finds caCertPem caCert)
    (hgoPeer : go.Finds peerCertPem peerCert) (hreadsCa : go.Reads lib caCert caX)
    (hreadsPeer : go.Reads lib peerCert peerX) :
    (∀ identity, Evaluator.fromCertPem lib peerCertPem caCertPem = .ok ⟨identity⟩ ↔
        go.newEvaluator peerCertPem caCertPem = .ok ⟨identity⟩) ↔
      lib.verifySignature peerX caX.publicKey ≠ .ok () ∨
      (caCert.maySign ∧ lastCommonName peerX.subject ≠ "" ∧
        subjectIdentity lib peerX.subject = some (lastCommonName peerX.subject)) ∨
      (subjectIdentity lib peerX.subject = none ∧
        (¬caCert.maySign ∨ lastCommonName peerX.subject = "")) := by
  simp only [fromCertPem_eq_ok_iff_of_parseX509 hca hpeer, newEvaluator_eq_ok_iff hgoCa hgoPeer,
    hreadsPeer.checkSignature, hreadsPeer.commonName, hreadsCa.publicKey]
  by_cases hsignature : lib.verifySignature peerX caX.publicKey = .ok ()
  · simp only [hsignature, true_and, ne_eq, not_true_eq_false, false_or]
    generalize lastCommonName peerX.subject = last
    by_cases haccepts : caCert.maySign = true ∧ last ≠ ""
    · -- Go accepts the last common name, so Rust has to read it too
      constructor
      · intro h
        exact Or.inl ⟨haccepts.1, haccepts.2, (h last).mpr ⟨haccepts.1, haccepts.2, rfl⟩⟩
      · rintro (⟨hmay, hname, hidentity⟩ | ⟨-, hrefuses⟩) identity
        · rw [hidentity, Option.some.injEq]
          exact ⟨fun h => ⟨hmay, hname, h.symm⟩, fun h => h.2.2.symm⟩
        · rcases hrefuses with hmay | hname
          · exact absurd haccepts.1 hmay
          · exact absurd hname haccepts.2
    -- Go accepts nothing, so Rust must not find a name
    · have hgo : ∀ identity, ¬(caCert.maySign = true ∧ ¬last = "" ∧ identity = last) :=
        fun identity h => haccepts ⟨h.1, h.2.1⟩
      rw [not_and_or, not_not] at haccepts
      simp only [hgo, iff_false]
      constructor
      · intro h
        exact Or.inr ⟨Option.eq_none_iff_forall_ne_some.mpr h, haccepts⟩
      · rintro (⟨hmay, hname, -⟩ | ⟨hidentity, -⟩) identity
        · exact absurd ⟨hmay, hname, rfl⟩ (hgo last)
        · rw [hidentity]
          exact nofun
  · -- without a valid signature neither accepts
    simp [hsignature]

end

/-! ## On the symbolic library -/

namespace Symbolic

/-- What Go reads of a certificate. -/
def goCertificate (x : X509Certificate ℕ) : GoCertificate ℕ where
  version := 3
  commonName := lastCommonName x.subject
  basicConstraintsValid := x.isCa ≠ .noCa
  isCA :=
    match x.isCa with
    | .noCa | .explicitNoCa => false
    | .unconstrained | .constrained _ => true
  keyUsage := x.keyUsages
  publicKey := x.publicKey
  signature := x.signature

/-- Go's functions on the certificates of the symbolic library. -/
def go : GoX509 ℕ where
  decode pem := (ofPem .certificate pem).toOption
  parseCertificate der := (parseCertificate der).map goCertificate
  checkSignature cert :=
    -- nothing but the signature is looked at
    lib.verifySignature ⟨[], cert.publicKey, 0, 0, [], .noCa, [], [], cert.signature⟩

theorem go_reads (x : X509Certificate ℕ) : go.Reads lib (goCertificate x) x where
  commonName := rfl
  basicConstraintsValid := by simp [goCertificate]
  isCA := by
    rcases x with ⟨_, _, _, _, _, _ | _ | _ | _, _, _, _⟩ <;> simp [goCertificate]
  keyUsage := rfl
  publicKey := rfl
  checkSignature _ := Iff.rfl

theorem go_finds_issue (params : CertificateParams) (publicKey signer : ℕ) (seed : List UInt8) :
    go.Finds (issue params publicKey signer seed).pem
      (goCertificate (contents params publicKey signer seed)) := by
  refine ⟨certificateCodec.encode (contents params publicKey signer seed), ?_, ?_⟩
  · simp [go, issue, Except.toOption]
  · simp [go, Except.map]

/-- A leaf with the given subject, for a key and signed by the key 1. -/
def leafPem (subject : DistinguishedName) : String :=
  (issue { CertificateParams.default with distinguishedName := subject } 7 1 []).pem

end Symbolic

/-- A leaf with one common name. -/
theorem evaluators_agree_web :
    Evaluator.fromCertPem Symbolic.lib (Symbolic.leafPem (Symbolic.subject "web"))
        (Symbolic.authority 1 1).certPem = .ok ⟨"web"⟩ ↔
      Symbolic.go.newEvaluator (Symbolic.leafPem (Symbolic.subject "web"))
        (Symbolic.authority 1 1).certPem = .ok ⟨"web"⟩ :=
  (evaluators_agree_iff (Symbolic.parseX509_issue _ _ _ _) (Symbolic.parseX509_issue _ _ _ _)
    (Symbolic.go_finds_issue _ _ _ _) (Symbolic.go_finds_issue _ _ _ _) (Symbolic.go_reads _)
    (Symbolic.go_reads _)).mpr (Or.inr (Or.inl (by decide +kernel))) "web"

/-- Of a leaf with two common names the two evaluators return different ones. -/
theorem evaluators_differ :
    ¬∀ (peerCertPem caCertPem : String) (caX peerX : X509Certificate ℕ)
      (caCert peerCert : GoCertificate ℕ),
      Symbolic.lib.parseX509 caCertPem = .ok caX → Symbolic.lib.parseX509 peerCertPem = .ok peerX →
      Symbolic.go.Finds caCertPem caCert → Symbolic.go.Finds peerCertPem peerCert →
      Symbolic.go.Reads Symbolic.lib caCert caX → Symbolic.go.Reads Symbolic.lib peerCert peerX →
        ∀ identity, Evaluator.fromCertPem Symbolic.lib peerCertPem caCertPem = .ok ⟨identity⟩ ↔
          Symbolic.go.newEvaluator peerCertPem caCertPem = .ok ⟨identity⟩ := by
  intro h
  let subject : DistinguishedName :=
    [(.commonName, ⟨.utf8String, "web"⟩), (.commonName, ⟨.utf8String, "db"⟩)]
  have hca := Symbolic.parseX509_issue CertificateAuthority.params 1 1 []
  have hpeer := Symbolic.parseX509_issue
    { CertificateParams.default with distinguishedName := subject } 7 1 []
  have hgoCa := Symbolic.go_finds_issue CertificateAuthority.params 1 1 []
  have hgoPeer := Symbolic.go_finds_issue
    { CertificateParams.default with distinguishedName := subject } 7 1 []
  have hweb := (h _ _ _ _ _ _ hca hpeer hgoCa hgoPeer (Symbolic.go_reads _) (Symbolic.go_reads _)
    "web").mp ((fromCertPem_eq_ok_iff_of_parseX509 hca hpeer _).mpr ⟨by decide +kernel, rfl⟩)
  -- Rust returns the first of the names, Go the last one
  obtain ⟨-, -, -, hname⟩ := (newEvaluator_eq_ok_iff hgoCa hgoPeer _).mp hweb
  exact absurd hname (by decide)

end AuthnScope
